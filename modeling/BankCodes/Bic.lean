import BankCodes.Candidate
import BankCodes.Text.Canonical

/-!
# Business Identifier Codes

A BIC is an institution code of four letters, a country code, a location code of two characters,
and a branch code of three. The short form leaves out the branch and means the primary office. The
second character of the location marks test codes.

* `Bic.parse` reads a BIC of eight or eleven characters, or rejects it;
* `Bic.text` is the full form of eleven characters;
* `Bic.asTest` is the test code that goes with a code, and `Bic.toTest` makes it of the text.
-/

namespace BankCodes

/-- A BIC, as its segments; the location code is `site` and `mark`. -/
structure Bic where
  institution : String
  country : Country
  site : Char
  mark : Char
  branch : String
deriving DecidableEq, Repr

namespace Bic

open Text

/-- The name of the kind, in messages. -/
def kind : String := "BIC"

/-- The branch code of the primary office. -/
def primaryOffice : String := "XXX"

/-- The mark of test codes. -/
def testMark : Char := '0'

/-- The general form without a branch code. -/
def shortForm : Pattern :=
  ⟨[.exactly 4 .upper, .exactly 2 .upper, .exactly 2 .alphanumeric], by decide⟩

/-- The general form with a branch code. -/
def fullForm : Pattern :=
  ⟨[.exactly 4 .upper, .exactly 2 .upper, .exactly 2 .alphanumeric, .exactly 3 .alphanumeric],
    by decide⟩

/-- The location code. -/
def location (x : Bic) : String := String.ofList [x.site, x.mark]

/-- The full form. -/
def text (x : Bic) : String := x.institution ++ x.country.code ++ x.location ++ x.branch

instance : ToString Bic := ⟨text⟩

/-- Whether the code names the primary office. -/
def isPrimaryOffice (x : Bic) : Bool := x.branch == primaryOffice

/-- Whether the code is a test code. -/
def isTest (x : Bic) : Bool := x.mark == testMark

/-- Whether the code is in use, as all codes are that are no test codes. -/
def isLive (x : Bic) : Bool := !x.isTest

/-- The test code with the same other characters. -/
def asTest (x : Bic) : Bic := { x with mark := testMark }

/-- Reads a BIC. The general form is looked at first, then the country. -/
def parse (input : String) : Except Failure Bic := do
  let candidate : Candidate := ⟨kind, input⟩
  let cs := canonicalChars input.toList
  let typed := String.ofList cs
  candidate.ensure (shortForm.accepts typed || fullForm.accepts typed) .malformed
  let country ← candidate.country ((cs.drop 4).take 2)
  match cs.drop 6 with
  | site :: mark :: branch =>
    return ⟨String.ofList (cs.take 4), country, site, mark,
      if branch.isEmpty then primaryOffice else String.ofList branch⟩
  | _ => throw (candidate.reject .malformed)

/-- The place of the mark in the text. -/
def markPlace : Nat := 7

/-- The text with the mark of test codes in the place of its own. -/
def testText (x : Bic) : String :=
  String.ofList (x.text.toList.take markPlace ++ testMark :: x.text.toList.drop (markPlace + 1))

/-- Makes the test code of a code. A test code is its own; that of any other is read from the text
with the mark of test codes. -/
def toTest (x : Bic) : Except Failure Bic := if x.isTest then .ok x else parse x.testText

end Bic

end BankCodes
