import BankCodes.Terminal.ShortCode.Table
import BankCodes.Text.Blank
import BankCodes.Text.Pieces

/-!
# Short codes

A short code is the name of a symbol between two colons, in any case; behind the name it may ask for
the symbol as a text or as an emoji. `expand` puts the symbols in place of their short codes. Codes
are read from left to right and do not share colons; one with a name that is not known stays as it
is, and a name holds no spaces.
-/

namespace BankCodes.Terminal.ShortCode

open Text

/-! ### Symbols by name -/

/-- The tones of skin, with the characters that give them. -/
def tones : List (String × Char) :=
  [("light", '🏻'), ("medium-light", '🏼'), ("medium", '🏽'), ("medium-dark", '🏾'), ("dark", '🏿')]

/-- The symbol in a tone. The tone follows its first character, in place of an emoji selector. -/
def withTone (tone : Char) : List Char → List Char
  | c :: '\ufe0f' :: cs => c :: tone :: cs
  | c :: cs => c :: tone :: cs
  | [] => [tone]

/-- The names and symbols of a symbol that comes in skin tones. -/
def inTones (name symbol : String) : List (String × String) :=
  (name, symbol) :: tones.map fun (tone, c) =>
    (name ++ "_" ++ tone ++ "_skin_tone", String.ofList (withTone c symbol.toList))

/-- The flag of two letters. -/
def flag (letters : String) : String :=
  String.ofList (letters.toList.map fun c => Char.ofNat (c.toNat - 'A'.toNat + '🇦'.toNat))

/-- The symbols by name. -/
def symbols : List (String × String) :=
  plain ++ toned.flatMap (fun (name, symbol) => inTones name symbol) ++
    places.flatMap fun (place, letters) =>
      [(place, flag letters), ("flag_for_" ++ place, flag letters)]

/-! ### Codes in a text -/

/-- The small letter of a capital letter, for the letters that are in names. The signs of the Kelvin
and the Ångström are capital letters, too. -/
def lowerLetter (c : Char) : Char :=
  if c.toNat < 0x80 then c.toLower
  else if 'À' ≤ c && c ≤ 'Þ' && c ≠ '×' then Char.ofNat (c.toNat + 0x20)
  else if c = '\u212a' then 'k'
  else if c = '\u212b' then 'å'
  else c

/-- What a code may end in, with the character that it puts behind the symbol. -/
def variants : List (List Char × Char) :=
  [(['-', 't', 'e', 'x', 't'], '\ufe0e'), (['-', 'e', 'm', 'o', 'j', 'i'], '\ufe0f')]

/-- The name in a code, and what is put behind its symbol. -/
def nameAndVariant (code : List Char) : List Char × List Char :=
  match variants.find? (·.1.isSuffixOf code) with
  | some (ending, selector) => (code.take (code.length - ending.length), [selector])
  | none => (code, [])

/-- The symbol of a code, which is given without its colons. -/
def symbol? (code : List Char) : Option (List Char) :=
  let (name, selector) := nameAndVariant code
  (symbols.lookup (String.ofList (name.map lowerLetter))).map (·.toList ++ selector)

/-- What is shown for a code: its symbol, or the code itself. -/
def shown (code : List Char) : List Char := (symbol? code).getD (':' :: code ++ [':'])

/-- The texts behind colons, with the symbols for the codes among them. -/
def expandAfter : List (List Char) → List Char
  | [] => []
  | [last] => ':' :: last
  | code :: next :: ps =>
    if code.any isSpace then ':' :: code ++ expandAfter (next :: ps)
    else shown code ++ next ++ expandAfter ps

/-- The text with symbols in place of their short codes. -/
def expand (cs : List Char) : List Char :=
  (pieces ':' cs).1 ++ expandAfter (pieces ':' cs).2

/-- A text without colons has no short codes. -/
theorem expand_eq_self {cs : List Char} (h : ':' ∉ cs) : expand cs = cs := by
  simp [expand, pieces_eq_self h, expandAfter]

end BankCodes.Terminal.ShortCode
