import BankCodes.Text.Numeral

/-!
# Groups of a layout expression

A group asks for a number of characters of one class. It is written as the number, an exclamation
mark if the number is exact and not a limit, and the letter of the class: `4!n` is exactly four
digits, `3c` is one to three alphanumerics. A group keeps its numeral as it was written, so that
`4!n` and `04!n` are different groups of the same meaning.
-/

namespace BankCodes.Pattern

open Text

/-- The classes of characters that a group may ask for. -/
inductive CharClass where
  | digit
  | upper
  | alphanumeric
  | space
deriving DecidableEq, Repr

namespace CharClass

/-- The letter that stands for the class in an expression. -/
def letter : CharClass → Char
  | digit => 'n'
  | upper => 'a'
  | alphanumeric => 'c'
  | space => 'e'

/-- The class of a letter. -/
def ofLetter? : Char → Option CharClass
  | 'n' => some digit
  | 'a' => some upper
  | 'c' => some alphanumeric
  | 'e' => some space
  | _ => none

/-- Whether a character belongs to the class. -/
def contains : CharClass → Char → Bool
  | digit, c => c.isDigit
  | upper, c => c.isUpper
  | alphanumeric, c => c.isAlphanum
  | space, c => c == ' '

/-- The class as a regular expression. -/
def regex : CharClass → List Char
  | digit => ['[', '0', '-', '9', ']']
  | upper => ['[', 'A', '-', 'Z', ']']
  | alphanumeric => ['[', 'A', '-', 'Z', 'a', '-', 'z', '0', '-', '9', ']']
  | space => ['[', ' ', ']']

theorem ofLetter?_eq_some_iff {c : Char} {k : CharClass} :
    ofLetter? c = some k ↔ c = k.letter := by
  constructor
  · intro h
    unfold ofLetter? at h
    split at h <;> cases h <;> rfl
  · rintro rfl
    cases k <;> rfl

end CharClass

/-- A group of an expression, as it is written. -/
structure Group where
  numeral : List Char
  exact : Bool
  kind : CharClass
deriving DecidableEq, Repr

namespace Group

/-- Exactly `n` characters of a class. -/
def exactly (n : Nat) (k : CharClass) : Group := ⟨Text.numeral n, true, k⟩

/-- One to `n` characters of a class. -/
def upTo (n : Nat) (k : CharClass) : Group := ⟨Text.numeral n, false, k⟩

/-- The number of characters. -/
def count (g : Group) : Nat := numeralValue g.numeral

/-- The group as it is written. -/
def text (g : Group) : List Char :=
  g.numeral ++ (if g.exact then ['!', g.kind.letter] else [g.kind.letter])

/-- The group as a regular expression. -/
def regex (g : Group) : List Char :=
  g.kind.regex ++ (if g.exact then ['\x7b'] else ['\x7b', '1', ',']) ++
    Text.numeral g.count ++ ['\x7d']

/-- The longest numeral that is read. -/
def digitLimit : Nat := 4300

/-- The largest number of characters that a group may ask for. -/
def countLimit : Nat := 65535

/-- Whether a piece of text is what the group asks for. -/
def Admits (g : Group) (piece : List Char) : Prop :=
  (∀ c ∈ piece, g.kind.contains c = true) ∧
    if g.exact then piece.length = g.count else 1 ≤ piece.length ∧ piece.length ≤ g.count

/-- Whether a group may be used: its numeral is made of digits, is not too long, and writes a number
from one to the largest one allowed. -/
def isValid (g : Group) : Bool :=
  !g.numeral.isEmpty && g.numeral.all Char.isDigit && g.numeral.length ≤ digitLimit &&
    1 ≤ g.count && g.count ≤ countLimit

theorem isValid_iff {g : Group} : g.isValid = true ↔
    (g.numeral ≠ [] ∧ ∀ c ∈ g.numeral, c.isDigit = true) ∧
      g.numeral.length ≤ digitLimit ∧ 1 ≤ g.count ∧ g.count ≤ countLimit := by
  simp [isValid, and_assoc]

end Group

end BankCodes.Pattern
