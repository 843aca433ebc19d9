import BankCodes.Text.Ascii
import BankCodes.Text.Ranges
import BankCodes.Text.WordTable

/-!
# Words of a running text

A word is a maximal run of word characters: letters, characters with a numeric value, and the low
line. `words` cuts a text into its words and notes, for each, the gap before it and the place where
it starts. Nothing is lost but what follows the last word.
-/

namespace BankCodes.Text

/-- The decimal digits of every script. -/
def isDecimal (c : Char) : Bool :=
  if c.toNat < 0x80 then c.isDigit else inRanges decimalRanges c

/-- Letters, characters with a numeric value, and the low line. -/
def isWordChar (c : Char) : Bool :=
  if c.toNat < 0x80 then c.isAlphanum || c == '_'
  else inRanges letterRanges c || inRanges decimalRanges c || inRanges numberRanges c

/-- Every decimal digit is a word character. -/
theorem isWordChar_of_isDecimal {c : Char} (h : isDecimal c = true) : isWordChar c = true := by
  unfold isDecimal at h
  unfold isWordChar
  split at h <;> simp_all [Char.isAlphanum]

/-- The digits of ASCII are decimal digits. -/
theorem isDecimal_of_isDigit {c : Char} (h : c.isDigit = true) : isDecimal c = true := by
  have : c.toNat < 0x80 := by
    have := isDigit_iff.1 h
    omega
  rw [isDecimal, if_pos this, h]

/-- ASCII letters and digits are word characters. -/
theorem isWordChar_of_isAlphanum {c : Char} (h : c.isAlphanum = true) : isWordChar c = true := by
  simp [isWordChar, lt_of_isAlphanum h, h]

/-! ### Runs -/

/-- A run of characters that are all word characters, or all not. -/
structure Run where
  word : Bool
  chars : List Char
deriving DecidableEq, Repr

/-- Puts a character before a list of runs, joining it to the first one if it is of its sort. -/
def Run.push (c : Char) : List Run → List Run
  | [] => [⟨isWordChar c, [c]⟩]
  | r :: rs => if r.word = isWordChar c then ⟨r.word, c :: r.chars⟩ :: rs
    else ⟨isWordChar c, [c]⟩ :: r :: rs

/-- The maximal runs of a text, in order. -/
def runs (cs : List Char) : List Run := cs.foldr Run.push []

/-- The runs of a text make up the text. -/
theorem flatMap_runs (cs : List Char) : (runs cs).flatMap Run.chars = cs := by
  induction cs with
  | nil => rfl
  | cons c cs ih =>
    rw [runs, List.foldr_cons, ← runs]
    cases h : runs cs with
    | nil =>
      rw [h] at ih
      simp [Run.push, ← ih]
    | cons r rs =>
      rw [h] at ih
      simp only [Run.push]
      split <;> simp [← ih]

/-! ### Words -/

/-- A word of a text, with the characters between it and the word before, and its position. -/
structure Word where
  start : Nat
  gap : List Char
  chars : List Char
deriving DecidableEq, Repr

/-- The words among runs that begin at `start`, the last of the runs before them being `gap`. -/
def wordsOfRuns (start : Nat) (gap : List Char) : List Run → List Word
  | [] => []
  | r :: rs =>
    if r.word then ⟨start, gap, r.chars⟩ :: wordsOfRuns (start + r.chars.length) [] rs
    else wordsOfRuns (start + r.chars.length) r.chars rs

/-- The words of a text, in order. -/
def words (cs : List Char) : List Word := wordsOfRuns 0 [] (runs cs)

end BankCodes.Text
