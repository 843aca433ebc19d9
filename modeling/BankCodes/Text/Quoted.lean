import BankCodes.Text.Numeral
import BankCodes.Text.Ranges
import BankCodes.Text.UnprintableTable

/-!
# Quoted text

Texts inside messages stand in single quotes, or in double quotes if they hold a single quote and
no double one. The backslash and the quote in use are escaped, and so is every character that does
not print: line breaks and tabs by a letter, all others by their code point in lower-case
hexadecimal.
-/

namespace BankCodes.Text

/-- Whether a character is printed as it is. -/
def isPrintable (c : Char) : Bool :=
  if c.toNat < 0x80 then ' ' ≤ c && c ≤ '~' else !inRanges unprintableRanges c

/-- The escape of a character by its code point, in two, four or eight digits. -/
def codeEscape (c : Char) : List Char :=
  if c.toNat ≤ 0xFF then '\\' :: 'x' :: padded 16 2 c.toNat
  else if c.toNat ≤ 0xFFFF then '\\' :: 'u' :: padded 16 4 c.toNat
  else '\\' :: 'U' :: padded 16 8 c.toNat

/-- A character as it stands between the given quotes. -/
def quotedChar (quote c : Char) : List Char :=
  if c == quote || c == '\\' then ['\\', c]
  else if c == '\n' then ['\\', 'n']
  else if c == '\r' then ['\\', 'r']
  else if c == '\t' then ['\\', 't']
  else if isPrintable c then [c]
  else codeEscape c

/-- The quote in which a text is put. -/
def quoteFor (cs : List Char) : Char :=
  if cs.contains '\'' && !cs.contains '"' then '"' else '\''

/-- The text in quotes. -/
def quoted (s : String) : String :=
  let quote := quoteFor s.toList
  String.ofList (quote :: s.toList.flatMap (quotedChar quote) ++ [quote])

end BankCodes.Text
