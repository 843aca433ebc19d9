import BankCodes.Text.Ranges

/-!
# Blanks

Two sets of blanks are in use. `isBlank` holds the six ASCII blanks that may stand anywhere inside
a typed identifier; `isSpace` holds every character of the space property, and only leads or
trails a country code or a setting. `strip` cuts the latter from both ends.
-/

namespace BankCodes.Text

/-- TAB, LF, VT, FF, CR and the space. -/
def isBlank (c : Char) : Bool := c == ' ' || ('\t' ≤ c && c ≤ '\r')

/-- The characters of the space property above ASCII. -/
def spaceRanges : List (Nat × Nat) :=
  [(0x85, 0x85), (0xA0, 0xA0), (0x1680, 0x1680), (0x2000, 0x200A), (0x2028, 0x2029),
   (0x202F, 0x202F), (0x205F, 0x205F), (0x3000, 0x3000)]

/-- The ASCII blanks, the four information separators, and the spaces above ASCII. -/
def isSpace (c : Char) : Bool :=
  isBlank c || ('\x1c' ≤ c && c ≤ '\x1f') || inRanges spaceRanges c

/-- Drops the spaces at both ends. -/
def strip (cs : List Char) : List Char :=
  ((cs.dropWhile isSpace).reverse.dropWhile isSpace).reverse

/-- Every blank is of ASCII. -/
theorem lt_of_isBlank {c : Char} (h : isBlank c = true) : c.toNat < 128 := by
  simp only [isBlank, Bool.or_eq_true, beq_iff_eq, Bool.and_eq_true, decide_eq_true_eq] at h
  rcases h with rfl | ⟨-, h⟩
  · decide
  · have : c.toNat ≤ '\r'.toNat := h
    exact Nat.lt_of_le_of_lt this (by decide)

/-- Every blank is a space. -/
theorem isSpace_of_isBlank {c : Char} (h : isBlank c = true) : isSpace c = true := by
  simp [isSpace, h]

/-- A text without spaces at its ends is left alone. -/
theorem strip_eq_self {cs : List Char} (h : ∀ c ∈ cs, isSpace c = false) : strip cs = cs := by
  have drop : ∀ l : List Char, (∀ c ∈ l, isSpace c = false) → l.dropWhile isSpace = l := by
    intro l hl
    cases l with
    | nil => rfl
    | cons c l => simp [hl c]
  rw [strip, drop cs h, drop cs.reverse (by simpa using h), List.reverse_reverse]

end BankCodes.Text
