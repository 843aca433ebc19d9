import BankCodes.CountryArgument
import BankCodes.Registry.Shipped
import BankCodes.Text.Canonical

/-!
# SEPA creditor identifiers

A creditor identifier is a country code, two check digits, a business code of three characters, and
the national identifier of the creditor. The business code is free, `ZZZ` when it is not used, and
the check digits do not cover it: they are those of the country and the national identifier.

* `CreditorIdentifier.parse` reads a creditor identifier, or rejects it;
* `CreditorIdentifier.ofParts` computes the check digits of the other segments;
* `CreditorIdentifier.text` is the canonical form.
-/

namespace BankCodes

/-- A creditor identifier, as its four segments. -/
structure CreditorIdentifier where
  country : Country
  checkDigits : String
  businessCode : String
  nationalId : String
deriving DecidableEq, Repr

namespace CreditorIdentifier

open Text

/-- The name of the kind, in messages. -/
def kind : String := "creditor identifier"

/-- The business code of a creditor that has none. -/
def noBusinessCode : String := "ZZZ"

/-- The general form: two letters, two digits, a business code, and one to 28 alphanumerics. -/
def form : Pattern :=
  ⟨[.exactly 2 .upper, .exactly 2 .digit, .exactly 3 .alphanumeric, .upTo 28 .alphanumeric],
    by decide⟩

/-- The form of a business code. -/
def businessCodeForm : Pattern := ⟨[.exactly 3 .alphanumeric], by decide⟩

/-- The canonical form. -/
def text (x : CreditorIdentifier) : String :=
  x.country.code ++ x.checkDigits ++ x.businessCode ++ x.nationalId

instance : ToString CreditorIdentifier := ⟨text⟩

/-- Reads a creditor identifier. The general form is looked at first, then the country, the layout
of the country in the registry, and the check digits. -/
def parse (input : String) (registry : Registry := .creditor) :
    Except Failure CreditorIdentifier := do
  let candidate : Candidate := ⟨kind, input⟩
  let cs := canonicalChars input.toList
  candidate.ensure (form.accepts (String.ofList cs)) .malformed
  let country ← candidate.country (cs.take 2)
  let rule ← candidate.rule registry country
  let nationalId := String.ofList (cs.drop 7)
  candidate.follow rule nationalId
  let checkDigits ← checkDigitsOf country nationalId
  candidate.ensure ((cs.drop 2).take 2 == checkDigits.toList) .wrongCheckDigits
  return ⟨country, checkDigits, String.ofList ((cs.drop 4).take 3), nationalId⟩

/-- Makes a creditor identifier of a country, a business code and a national identifier, both of
which are brought to canonical form. -/
def ofParts (country : CountryArgument) (businessCode nationalId : Option String)
    (registry : Registry := .creditor) : Except Failure CreditorIdentifier := do
  let country ← country.resolve kind
  let typedCode ← given "business_code" businessCode
  let input ← given "national_id" nationalId
  let businessCode := canonical typedCode
  Candidate.ensure ⟨kind, typedCode⟩ (businessCodeForm.accepts businessCode) .malformed
  let candidate : Candidate := ⟨kind, input⟩
  let nationalId := canonical input
  let rule ← candidate.rule registry country
  candidate.follow rule nationalId
  let checkDigits ← checkDigitsOf country nationalId
  return ⟨country, checkDigits, businessCode, nationalId⟩

end CreditorIdentifier

end BankCodes
