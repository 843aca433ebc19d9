import BankCodes.Text.Numeral
import BankCodes.Text.Quoted

/-!
# Check digits, MOD 97-10

Each character has a weight, 0 to 9 for a digit and 10 to 35 for a letter of either case. The text
is rotated, its head of four characters going to the end, and the weights are written side by side as
one decimal numeral. Two check digits are right when the remainder of that number modulo 97 is 1.

The number may have any length, so it is never formed: the weights are absorbed one by one into a
running total that is reduced as soon as it has more than nine digits.

* `remainder` gives the remainder, or the reason why there is none;
* `isValid` tells whether the check digits of a text are right;
* `compute` gives the check digits of a text that holds `00` in their place.
-/

namespace BankCodes.CheckDigits

open Text

/-- Why a text has no remainder. -/
inductive Fault where
  /-- The text has no character after its head. -/
  | tooShort
  /-- The character is no ASCII letter or digit. -/
  | noWeight (c : Char)
deriving DecidableEq, Repr

/-- How many characters make the head of a text, which goes to its end. -/
def headLength : Nat := 4

/-- The modulus of the scheme. -/
def modulus : Nat := 97

/-- The largest total that is not yet reduced. -/
def largestTotal : Nat := 999999999

def Fault.message : Fault → String
  | .tooShort => "the value argument size must be greater than 4"
  | .noWeight c => quoted (String.singleton c) ++ " has no MOD 97-10 numeric value"

/-- The weight of a character: its digit, or its place in the alphabet counted from ten. -/
def weight? (c : Char) : Option Nat :=
  if c.isDigit then some (c.toNat - '0'.toNat)
  else if c.isUpper then some (c.toNat - 'A'.toNat + 10)
  else if c.isLower then some (c.toNat - 'a'.toNat + 10)
  else none

/-- The weights of a text, or the first character that has none. -/
def weights : List Char → Except Fault (List Nat)
  | [] => .ok []
  | c :: cs => match weight? c with
    | none => .error (.noWeight c)
    | some w => (weights cs).map (w :: ·)

/-- The total with one more weight written to its right, before any reduction. -/
def shift (total w : Nat) : Nat := (if w > 9 then total * 100 else total * 10) + w

/-- The total with one more weight, reduced if it exceeds nine digits. -/
def absorb (total w : Nat) : Nat :=
  if shift total w > largestTotal then shift total w % modulus else shift total w

/-- The text with its head at the end. -/
def rotate (cs : List Char) : List Char := cs.drop headLength ++ cs.take headLength

/-- The remainder modulo 97 of the number that the rotated text writes. -/
def remainder (cs : List Char) : Except Fault Nat :=
  if cs.length ≤ headLength then .error .tooShort
  else (weights (rotate cs)).map fun ws => ws.foldl absorb 0 % modulus

/-- Whether the check digits of the text are right. -/
def isValid (s : String) : Except Fault Bool :=
  (remainder s.toList).map (· == 1)

/-- The two check digits that make the text valid in place of the zeros it holds there. -/
def compute (s : String) : Except Fault String :=
  (remainder s.toList).map fun r => String.ofList (padded 10 2 (98 - r))

end BankCodes.CheckDigits
