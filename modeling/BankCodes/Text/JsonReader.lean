import BankCodes.Text.JsonString

/-!
# Reading JSON objects

A reader for those JSON objects whose values are all strings. The text is cut into tokens first,
then the tokens are read in pairs.

The reader takes every spelling of a string that the format admits: escapes of characters that need
none, code units in hexadecimal digits of either case, and two such units in a row for a character
beyond the first 65536. It takes blanks between the tokens. It refuses control characters inside a
string, one half of a pair without the other, and anything behind the object.
-/

namespace BankCodes.Text.Json

/-! ### Strings -/

/-- The number that a hexadecimal digit writes. -/
def hexValue? (c : Char) : Option Nat :=
  if c.isDigit then some (c.toNat - '0'.toNat)
  else if 'a' ≤ c ∧ c ≤ 'f' then some (c.toNat - 'a'.toNat + 10)
  else if 'A' ≤ c ∧ c ≤ 'F' then some (c.toNat - 'A'.toNat + 10)
  else none

/-- The code unit that four hexadecimal digits write. -/
def unit? (a b c d : Char) : Option Nat := do
  return (((← hexValue? a) * 16 + (← hexValue? b)) * 16 + (← hexValue? c)) * 16 + (← hexValue? d)

/-- The character that one character behind a backslash stands for. -/
def escaped? (c : Char) : Option Char :=
  if c == '"' || c == '\\' || c == '/' then some c
  else if c == 'n' then some '\n'
  else if c == 'r' then some '\r'
  else if c == 't' then some '\t'
  else if c == 'b' then some '\x08'
  else if c == 'f' then some '\x0c'
  else none

/-- Whether the unit is the first half of a pair. -/
def isHighHalf (unit : Nat) : Bool := 0xD800 ≤ unit && unit < 0xDC00

/-- Whether the unit is the second half of a pair. -/
def isLowHalf (unit : Nat) : Bool := 0xDC00 ≤ unit && unit < 0xE000

/-- The characters of units; the halves of a pair make one character. -/
def ofUnits : List Nat → Option (List Char)
  | [] => some []
  | unit :: units =>
    if isHighHalf unit then match units with
      | low :: units =>
        if isLowHalf low then
          (ofUnits units).map
            (Char.ofNat (0x10000 + (unit - 0xD800) * 0x400 + (low - 0xDC00)) :: ·)
        else none
      | [] => none
    else if isLowHalf unit then none
    else (ofUnits units).map (Char.ofNat unit :: ·)

/-! ### Tokens -/

/-- The tokens of an object of strings. -/
inductive Token where
  | opening
  | closing
  | colon
  | comma
  | string (s : String)
deriving DecidableEq, Repr

/-- The token of one character. -/
def punctuation? (c : Char) : Option Token :=
  if c == '\x7b' then some .opening
  else if c == '\x7d' then some .closing
  else if c == ':' then some .colon
  else if c == ',' then some .comma
  else none

/-- Whether the character may stand between tokens. -/
def isGap (c : Char) : Bool := c == ' ' || c == '\t' || c == '\n' || c == '\r'

mutual

/-- The tokens of a text. -/
def tokens : List Char → Option (List Token)
  | [] => some []
  | c :: cs =>
    if c == '"' then do
      let (units, rest) ← string cs
      return .string (String.ofList (← ofUnits units)) :: rest
    else if isGap c then tokens cs
    else do return (← punctuation? c) :: (← tokens cs)

/-- The units of a string up to its closing quote, and the tokens behind it. A character that stands
for itself is one unit, whatever its code point. -/
def string : List Char → Option (List Nat × List Token)
  | '"' :: cs => do return ([], ← tokens cs)
  | '\\' :: 'u' :: a :: b :: c :: d :: cs => do
    let unit ← unit? a b c d
    let (units, rest) ← string cs
    return (unit :: units, rest)
  | '\\' :: c :: cs => do
    let c ← escaped? c
    let (units, rest) ← string cs
    return (c.toNat :: units, rest)
  | c :: cs =>
    if c < ' ' then none
    else do
      let (units, rest) ← string cs
      return (c.toNat :: units, rest)
  | [] => none

end

/-! ### Objects -/

/-- The members that tokens make, up to the closing brace. -/
def members : List Token → Option (List (String × String))
  | [.string key, .colon, .string value, .closing] => some [(key, value)]
  | .string key :: .colon :: .string value :: .comma :: ts => do
    return (key, value) :: (← members ts)
  | _ => none

/-- The members of the object that a text is, in order. -/
def readObject (s : String) : Option (List (String × String)) := do
  match ← tokens s.toList with
  | [.opening, .closing] => return []
  | .opening :: ts => members ts
  | _ => none

end BankCodes.Text.Json
