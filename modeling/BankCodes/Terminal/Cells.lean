import BankCodes.Terminal.CellTable
import BankCodes.Text.Ranges

/-!
# Cells on a screen

`cells` counts the cells that a text takes on a screen: none, one or two for each of its characters.
A character behind a joiner is shown together with the one before it, in the same cells, and the
emoji selector makes a narrow character as wide as an emoji.
-/

namespace BankCodes.Terminal

open Text

/-- The cells of a character on its own. -/
def charCells (c : Char) : Nat :=
  if inRanges noCellRanges c then 0 else if inRanges twoCellRanges c then 2 else 1

/-- The character that joins those on both its sides. -/
def joiner : Char := '\u200d'

/-- The character that asks for the one before it in the form of an emoji. -/
def emojiSelector : Char := '\ufe0f'

/-- The cells of a text. The last character with cells of its own is `base`, if a selector may still
follow it, and `joined` says whether a joiner has just been read. -/
def cellsAfter (base : Option Char) (joined : Bool) : List Char → Nat
  | [] => 0
  | c :: cs =>
    if joined then cellsAfter base false cs
    else if c = joiner then cellsAfter base true cs
    else if c = emojiSelector then
      (if base.any (inRanges narrowEmojiRanges) then 1 else 0) + cellsAfter none false cs
    else
      charCells c + cellsAfter (if charCells c = 0 then base else some c) false cs

/-- The cells of a text. -/
def cells (cs : List Char) : Nat := cellsAfter none false cs

end BankCodes.Terminal
