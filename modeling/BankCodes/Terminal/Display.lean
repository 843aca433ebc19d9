import BankCodes.Terminal.Cells
import BankCodes.Terminal.ShortCode

/-!
# Text on the screen

What the console says is shown on a screen of cells, which is not the same as writing it as it is. A
text falls into parts: words in brackets, which begin with a small letter or one of three signs, and
what is around them. Outside these words a backslash before an opening bracket is not shown. In
every part symbols are shown for short codes. Five control characters are not shown at all, and a
tab is shown as spaces up to the next tab stop. Lines are never broken, but spaces at the end of a
line go no further than the edge of the screen.

* `shown` is what is shown for a text on a screen of a width;
* `shown_eq_self` says that a text without any of these, `isOrdinary`, is shown as it is.
-/

namespace BankCodes.Terminal.Display

open Text

/-! ### Brackets -/

/-- The characters that a word in brackets may begin with. -/
def opensWord (c : Char) : Bool := c.isLower || c == '#' || c == '/' || c == '@'

/-- The word in brackets at the front of what follows an opening bracket, with its closing bracket,
and the text behind it. -/
def bracketed? : List Char → Option (List Char × List Char)
  | [] => none
  | c :: cs =>
    if opensWord c && cs.contains ']' then
      some (c :: cs.takeWhile (· != ']') ++ [']'], (cs.dropWhile (· != ']')).drop 1)
    else none

/-- The text without a backslash at its end. -/
def withoutEscape (cs : List Char) : List Char :=
  if cs.getLast? = some '\\' then cs.dropLast else cs

/-- The parts of a text that is cut at opening brackets: words in brackets, and what is before,
between and behind them. -/
def partsOfPieces (p : List Char) : List (List Char) → List Char × List (List Char)
  | [] => (p, [])
  | q :: qs => match bracketed? q with
    | some (word, rest) =>
      let (r, rs) := partsOfPieces rest qs
      (p, ('[' :: word) :: r :: rs)
    | none =>
      let (r, rs) := partsOfPieces q qs
      (withoutEscape p ++ '[' :: r, rs)

/-- The parts of a text. -/
def parts (cs : List Char) : List (List Char) :=
  let (p, ps) := pieces '[' cs
  let (r, rs) := partsOfPieces p ps
  r :: rs

/-! ### Lines -/

/-- The control characters that are not shown: the bell, the backspace, the vertical tab, the form
feed and the carriage return. -/
def isUnshown (c : Char) : Bool :=
  c == '\x07' || c == '\x08' || c == '\x0b' || c == '\x0c' || c == '\r'

/-- The distance of tab stops. -/
def tabSize : Nat := 8

/-- The first tab stop that is not before the column. -/
def tabStop (column : Nat) : Nat := (column + (tabSize - 1)) / tabSize * tabSize

/-- A line that goes on at the column with `p` and then with texts behind tabs, with spaces for the
tabs, each tab at least one space. -/
def withTabStops (column : Nat) (p : List Char) : List (List Char) → List Char
  | [] => p
  | q :: qs =>
    let reached := column + cells (p ++ [' '])
    p ++ ' ' :: List.replicate (tabStop reached - reached) ' ' ++
      withTabStops (tabStop reached) q qs

/-- The line without the spaces at its end that are beyond the edge. -/
def withoutOverhang (width : Nat) (line : List Char) : List Char :=
  let spaces := (line.reverse.takeWhile isSpace).length
  line.take (line.length - min spaces (line.length - width))

/-- What is shown for a line. -/
def shownLine (width : Nat) (line : List Char) : List Char :=
  let (p, ps) := pieces '\t' line
  withoutOverhang width (withTabStops 0 p ps)

/-- What is shown for lines. -/
def shownLines (width : Nat) (cs : List Char) : List Char :=
  let (p, ps) := pieces '\n' cs
  shownLine width p ++ rejoined '\n' (ps.map (shownLine width))

/-! ### Texts -/

/-- What is shown for a text. -/
def shown (width : Nat) (cs : List Char) : List Char :=
  shownLines width (((parts cs).flatMap ShortCode.expand).filter (!isUnshown ·))

/-- A line that does not end in a space has no spaces beyond the edge. -/
theorem withoutOverhang_eq_self (width : Nat) {line : List Char}
    (h : line.getLast?.all (!isSpace ·) = true) : withoutOverhang width line = line := by
  have none : line.reverse.takeWhile isSpace = [] := by
    rw [List.getLast?_eq_head?_reverse] at h
    cases e : line.reverse with
    | nil => rfl
    | cons c cs =>
      rw [e] at h
      have hc : isSpace c = false := by simpa using h
      simp [hc]
  simp [withoutOverhang, none]

/-- The characters that are shown as something else, or may be. -/
def isSpecial (c : Char) : Bool := c == '[' || c == ':' || c == '\t' || c == '\n' || isUnshown c

/-- There are no special characters in the text, and it does not end in a space. -/
def isOrdinary (cs : List Char) : Bool := cs.all (!isSpecial ·) && cs.getLast?.all (!isSpace ·)

/-- An ordinary text is shown as it is. -/
theorem shown_eq_self (width : Nat) {cs : List Char} (h : isOrdinary cs = true) :
    shown width cs = cs := by
  rw [isOrdinary, Bool.and_eq_true, List.all_eq_true] at h
  obtain ⟨h, last⟩ := h
  have notMem : ∀ c, isSpecial c = true → c ∉ cs := fun c hc hm => by
    have ordinary := h c hm
    rw [hc] at ordinary
    cases ordinary
  have keep : cs.filter (!isUnshown ·) = cs := List.filter_eq_self.2 fun c hc => by
    have special := h c hc
    rw [Bool.not_eq_true', isSpecial, Bool.or_eq_false_iff] at special
    rw [special.2]
    rfl
  have brackets : pieces '[' cs = (cs, []) := pieces_eq_self (notMem _ (by decide))
  have tabs : pieces '\t' cs = (cs, []) := pieces_eq_self (notMem _ (by decide))
  have newlines : pieces '\n' cs = (cs, []) := pieces_eq_self (notMem _ (by decide))
  simp [shown, shownLines, shownLine, parts, partsOfPieces, withTabStops, rejoined, brackets, tabs,
    newlines, keep, ShortCode.expand_eq_self (notMem _ (by decide)), withoutOverhang_eq_self width last]

end BankCodes.Terminal.Display
