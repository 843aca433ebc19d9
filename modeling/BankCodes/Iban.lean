import BankCodes.CountryArgument
import BankCodes.Registry.Shipped
import BankCodes.Text.Canonical

/-!
# International Bank Account Numbers

An IBAN is a country code, two check digits, and a BBAN whose layout is fixed for each country. It
is typed in either case and printed in groups of four characters.

* `Iban.parse` reads an IBAN from a text, or rejects it;
* `Iban.ofParts` computes the check digits for a country and a BBAN;
* `Iban.text` is the canonical form, and `Iban.printable` the printed one.
-/

namespace BankCodes

/-- An IBAN, as its three segments. -/
structure Iban where
  country : Country
  checkDigits : String
  bban : String
deriving DecidableEq, Repr

namespace Iban

open Text

/-- The name of the kind, in messages. -/
def kind : String := "IBAN"

/-- The general form: two letters, two digits, and one to thirty alphanumerics. -/
def form : Pattern :=
  ⟨[.exactly 2 .upper, .exactly 2 .digit, .upTo 30 .alphanumeric], by decide⟩

/-- The canonical form. -/
def text (x : Iban) : String := x.country.code ++ x.checkDigits ++ x.bban

instance : ToString Iban := ⟨text⟩

/-- Puts a space after every four characters that are not the last ones. -/
def inFours : List Char → List Char
  | a :: b :: c :: d :: cs => match cs with
    | [] => [a, b, c, d]
    | _ :: _ => a :: b :: c :: d :: ' ' :: inFours cs
  | cs => cs

/-- The printed form: groups of four characters, the last one perhaps shorter. -/
def printable (x : Iban) : String := String.ofList (inFours x.text.toList)

/-- Reads an IBAN. The general form is looked at first, then the country, the layout of the country
in the registry, and the check digits. -/
def parse (input : String) (registry : Registry := .bban) : Except Failure Iban := do
  let candidate : Candidate := ⟨kind, input⟩
  let cs := canonicalChars input.toList
  candidate.ensure (form.accepts (String.ofList cs)) .malformed
  let country ← candidate.country (cs.take 2)
  let rule ← candidate.rule registry country
  let bban := String.ofList (cs.drop 4)
  candidate.follow rule bban
  let checkDigits ← checkDigitsOf country bban
  candidate.ensure ((cs.drop 2).take 2 == checkDigits.toList) .wrongCheckDigits
  return ⟨country, checkDigits, bban⟩

/-- Makes an IBAN of a country and a BBAN, which is brought to canonical form. -/
def ofParts (country : CountryArgument) (bban : Option String) (registry : Registry := .bban) :
    Except Failure Iban := do
  let country ← country.resolve kind
  let input ← given "bban" bban
  let candidate : Candidate := ⟨kind, input⟩
  let bban := canonical input
  let rule ← candidate.rule registry country
  candidate.follow rule bban
  let checkDigits ← checkDigitsOf country bban
  return ⟨country, checkDigits, bban⟩

end Iban

end BankCodes
