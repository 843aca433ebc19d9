import BankCodes.Text.Decimal
import BankCodes.Text.Quoted

/-!
# Arguments of messages

A message is put together of a template and arguments. An argument may be asked for its text, for
its description, for the whole number that it is, for a number in floating-point notation or for one
character, and not every argument is all of these. What is wrong then, or with the template itself,
is a misfit.
-/

namespace BankCodes.Log

open Text

/-! ### Misfits -/

/-- Why arguments cannot be put into a template. -/
inductive Misfit where
  | tooFew
  | tooMany
  /-- A mark has a key, but the arguments are no table. -/
  | noTable
  | noEntry (key : String)
  /-- The template ends inside the key of a mark. -/
  | openKey
  /-- The template ends inside a mark. -/
  | openMark
  /-- No value is written for a mark with this letter, which stands at the place in the template. -/
  | unknownMark (letter : Char) (place : Nat)
  | tooWide
  | tooPrecise
  /-- A width or a precision is no whole number. -/
  | notSize
  /-- A width or a precision is beyond the numbers of the machine type. -/
  | sizeOverflow (type : String)
  | notNumber (letter : Char) (type : String)
  | notWhole (letter : Char) (type : String)
  | notReal (type : String)
  | realOverflow
  | notCharacter
  | characterOverflow
  | tooManyDigits
deriving DecidableEq, Repr

/-- The longest numeral that is written of a number. -/
def digitLimit : Nat := 4300

/-- A letter in the wording of a misfit. -/
def shownLetter (c : Char) : Char := if 0x1F ≤ c.toNat && c.toNat < 0x7F then c else '?'

def Misfit.message : Misfit → String
  | tooFew => "not enough arguments for format string"
  | tooMany => "not all arguments converted during string formatting"
  | noTable => "format requires a mapping"
  | noEntry key => quoted key
  | openKey => "incomplete format key"
  | openMark => "incomplete format"
  | unknownMark letter place =>
    "unsupported format character '" ++ String.singleton (shownLetter letter) ++ "' (0x" ++
      String.ofList (Nat.toDigits 16 letter.toNat) ++ ") at index " ++ toString place
  | tooWide => "width too big"
  | tooPrecise => "precision too big"
  | notSize => "* wants int"
  | sizeOverflow type => "Python int too large to convert to C " ++ type
  | notNumber letter type =>
    "%" ++ String.singleton letter ++ " format: a real number is required, not " ++ type
  | notWhole letter type =>
    "%" ++ String.singleton letter ++ " format: an integer is required, not " ++ type
  | notReal type => "must be real number, not " ++ type
  | realOverflow => "int too large to convert to float"
  | notCharacter => "%c requires int or char"
  | characterOverflow => "%c arg not in range(0x110000)"
  | tooManyDigits =>
    "Exceeds the limit (" ++ toString digitLimit ++
      " digits) for integer string conversion; use sys.set_int_max_str_digits() to increase the limit"

/-! ### Arguments -/

/-- A value that a message is about. Floating-point numbers are not among them. -/
inductive Argument where
  | text (s : String)
  | whole (n : Int)
  | flag (b : Bool)
  /-- A value of another type, with its text and its description. -/
  | other (type shown described : String)
deriving DecidableEq, Repr

namespace Argument

/-- The name of the type. -/
def type : Argument → String
  | text _ => "str"
  | whole _ => "int"
  | flag _ => "bool"
  | other type _ _ => type

/-- The whole number that the value is. -/
def whole? : Argument → Option Int
  | whole n => some n
  | flag b => some b.toInt
  | text _ | other .. => none

/-- The decimal digits of a number, if they are not too many. -/
def digits (n : Nat) : Except Misfit (List Char) :=
  if digitLimit < (numeral n).length then .error .tooManyDigits else .ok (numeral n)

/-- A number with its sign. -/
def wholeText (n : Int) : Except Misfit (List Char) :=
  (digits n.natAbs).map fun ds => if n < 0 then '-' :: ds else ds

/-- The word for a flag. -/
def flagText (b : Bool) : List Char :=
  if b then ['T', 'r', 'u', 'e'] else ['F', 'a', 'l', 's', 'e']

/-- The text of the value. -/
def shown : Argument → Except Misfit (List Char)
  | text s => .ok s.toList
  | whole n => wholeText n
  | flag b => .ok (flagText b)
  | other _ shown _ => .ok shown.toList

/-- The description of the value: a text stands in quotes. -/
def described : Argument → Except Misfit (List Char)
  | text s => .ok (quoted s).toList
  | whole n => wholeText n
  | flag b => .ok (flagText b)
  | other _ _ described => .ok described.toList

/-- The character that the value is, or is the number of. Half of a pair is no character. -/
def character (v : Argument) : Except Misfit Char :=
  match v, v.whole? with
  | text s, _ => match s.toList with
    | [c] => .ok c
    | _ => .error .notCharacter
  | _, some n =>
    if h : n.toNat.isValidChar then
      if n < 0 then .error .characterOverflow else .ok (Char.ofNatAux n.toNat h)
    else .error .characterOverflow
  | _, none => .error .notCharacter

/-- The number nearest to the value in floating-point notation, with its sign. -/
def real (v : Argument) : Except Misfit (Bool × Nat) :=
  match v.whole? with
  | none => .error (.notReal v.type)
  | some n =>
    let size := nearestDouble n.natAbs
    if doubleLimit ≤ size then .error .realOverflow else .ok (decide (n < 0), size)

end Argument

/-- The arguments of a message: values in order, or one table of values by name. The table is a
value itself. -/
inductive Arguments where
  | values (vs : List Argument)
  | table (itself : Argument) (entries : List (String × Argument))
deriving DecidableEq, Repr

namespace Arguments

/-- Texts as arguments. -/
def texts (ts : List String) : Arguments := .values (ts.map .text)

/-- Whether there is nothing to put into a template. -/
def isEmpty : Arguments → Bool
  | values vs => vs.isEmpty
  | table _ entries => entries.isEmpty

end Arguments

end BankCodes.Log
