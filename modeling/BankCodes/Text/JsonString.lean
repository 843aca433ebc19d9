import BankCodes.Text.Numeral

/-!
# JSON strings

A JSON string escapes the quote, the backslash, and the control characters below the space, some of
these by a letter and the others by their code point in four hexadecimal digits. Every other
character, ASCII or not, stands for itself.
-/

namespace BankCodes.Text

/-- A character as it stands in a JSON string. -/
def jsonChar (c : Char) : List Char :=
  if c == '"' || c == '\\' then ['\\', c]
  else if c == '\n' then ['\\', 'n']
  else if c == '\r' then ['\\', 'r']
  else if c == '\t' then ['\\', 't']
  else if c == '\x08' then ['\\', 'b']
  else if c == '\x0c' then ['\\', 'f']
  else if c < ' ' then '\\' :: 'u' :: padded 16 4 c.toNat
  else [c]

/-- The text as a JSON string, with its quotes. -/
def jsonString (s : String) : String :=
  String.ofList ('"' :: s.toList.flatMap jsonChar ++ ['"'])

end BankCodes.Text
