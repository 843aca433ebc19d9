import BankCodes.Log.Argument

/-!
# Templates of messages

A template is a text with marks for arguments, `%s rejected: %5d`. Behind its percent sign a mark
may have a key in parentheses, flags, a width, a precision behind a point and a size letter, which
means nothing; a letter at its end says how a value is written. A width or a precision may be a star
and is then an argument, too. Two percent signs are one.

* `parts` takes a template apart, and nothing of it is lost (`flatMap_text_parts`);
* `Mark.write` writes a value for a mark;
* `format` writes a whole template, or says what is wrong first, from left to right.
-/

namespace BankCodes.Log

open Text

namespace Template

/-! ### Marks -/

/-- The key of a mark, with its closing parenthesis if there is one. -/
structure Key where
  name : List Char
  closed : Bool
deriving DecidableEq, Repr

/-- A width or a precision: a numeral, perhaps an empty one, or the next argument. -/
inductive Size where
  | numeral (digits : List Char)
  | argument
deriving DecidableEq, Repr

/-- What stands behind the percent sign of a mark. The letter is missing only if the template ends
before it. -/
structure Mark where
  key : Option Key
  flags : List Char
  width : Size
  precision : Option Size
  size : List Char
  letter : Option Char
deriving DecidableEq, Repr

/-- A part of a template. -/
inductive Part where
  | char (c : Char)
  /-- A percent sign, written as two. -/
  | percent
  | mark (m : Mark)
deriving DecidableEq, Repr

def Key.text (k : Key) : List Char := '(' :: k.name ++ if k.closed then [')'] else []

def Size.text : Size → List Char
  | numeral digits => digits
  | argument => ['*']

/-- A precision stands behind a point. -/
def precisionText (precision : Option Size) : List Char :=
  (precision.map fun size => '.' :: size.text).getD []

def Mark.text (m : Mark) : List Char :=
  (m.key.map Key.text).getD [] ++ (m.flags ++ (m.width.text ++ (precisionText m.precision ++
    (m.size ++ m.letter.toList))))

def Part.text : Part → List Char
  | char c => [c]
  | percent => ['%', '%']
  | mark m => '%' :: m.text

/-! ### Reading -/

/-- The name of a key, up to the parenthesis that closes it, and what stands behind. There may be
pairs of parentheses inside. -/
def readName (depth : Nat) : List Char → List Char × Option (List Char)
  | [] => ([], none)
  | c :: cs =>
    if c = ')' && depth = 0 then ([], some cs)
    else
      let depth := if c = '(' then depth + 1 else if c = ')' then depth - 1 else depth
      let (name, rest) := readName depth cs
      (c :: name, rest)

def isFlag (c : Char) : Bool := c == '-' || c == '+' || c == ' ' || c == '#' || c == '0'

def isSizeLetter (c : Char) : Bool := c == 'h' || c == 'l' || c == 'L'

def readSize : List Char → Size × List Char
  | '*' :: cs => (.argument, cs)
  | cs => (.numeral (cs.takeWhile Char.isDigit), cs.dropWhile Char.isDigit)

def readPrecision : List Char → Option Size × List Char
  | '.' :: cs => ((readSize cs).map some id)
  | cs => (none, cs)

def readSizeLetter : List Char → List Char × List Char
  | [] => ([], [])
  | c :: cs => if isSizeLetter c then ([c], cs) else ([], c :: cs)

/-- Reads a mark behind its key. -/
def readBehindKey (key : Option Key) (cs : List Char) : Mark :=
  let (width, behindWidth) := readSize (cs.dropWhile isFlag)
  let (precision, behindPrecision) := readPrecision behindWidth
  let (size, behindSize) := readSizeLetter behindPrecision
  ⟨key, cs.takeWhile isFlag, width, precision, size, behindSize.head?⟩

/-- Reads the mark behind a percent sign. -/
def readMark : List Char → Mark
  | '(' :: cs => match readName 0 cs with
    | (name, some rest) => readBehindKey (some ⟨name, true⟩) rest
    | (name, none) => ⟨some ⟨name, false⟩, [], .numeral [], none, [], none⟩
  | cs => readBehindKey none cs

/-- The parts of a template whose first characters belong to a part before. -/
def partsFrom (skip : Nat) : List Char → List Part
  | [] => []
  | c :: cs => match skip with
    | skip + 1 => partsFrom skip cs
    | 0 =>
      if c ≠ '%' then .char c :: partsFrom 0 cs
      else if cs.head? = some '%' then .percent :: partsFrom 1 cs
      else .mark (readMark cs) :: partsFrom (readMark cs).text.length cs

/-- The parts of a template. -/
def parts (template : List Char) : List Part := partsFrom 0 template

/-! ### Writing -/

/-- Writing takes the arguments one by one. -/
abbrev Writing := StateT (List Argument) (Except Misfit)

/-- The next argument. -/
def next : Writing Argument := do
  match ← get with
  | [] => throw .tooFew
  | v :: vs =>
    set vs
    return v

/-- If a mark has a key, the value of this name is the next argument and the last one. -/
def select (table : Option (List (String × Argument))) : Option Key → Writing Unit
  | none => return
  | some key => do
    let some entries := table | throw .noTable
    unless key.closed do throw .openKey
    let name := String.ofList key.name
    let some v := entries.lookup name | throw (.noEntry name)
    set [v]

/-- A machine type of sizes, with its greatest number. -/
structure SizeType where
  name : String
  greatest : Nat

/-- A size, which is below zero only if it is an argument. -/
def Size.value (type : SizeType) (tooBig : Misfit) : Size → Writing Int
  | numeral digits => do
    if type.greatest < numeralValue digits then throw tooBig
    return numeralValue digits
  | argument => do
    let some n := (← next).whole? | throw .notSize
    unless -type.greatest ≤ n && n ≤ type.greatest do throw (.sizeOverflow type.name)
    return n

def widthType : SizeType := ⟨"ssize_t", Nat.pow 2 63 - 1⟩
def precisionType : SizeType := ⟨"int", Nat.pow 2 31 - 1⟩

/-- What is written for a value before it is brought to the width: a sign or the mark of a base, and
the rest behind. Zeros may be filled in between if it is a number. -/
structure Field where
  front : List Char
  body : List Char
  isNumber : Bool

/-- The field at the width, filled on its left with spaces or zeros, or on its right with spaces. -/
def Field.padded (flags : List Char) (width : Int) (f : Field) : List Char :=
  let fill := width.natAbs - (f.front ++ f.body).length
  if flags.contains '-' || width < 0 then f.front ++ f.body ++ List.replicate fill ' '
  else if flags.contains '0' && f.isNumber then f.front ++ List.replicate fill '0' ++ f.body
  else List.replicate fill ' ' ++ f.front ++ f.body

def signText (flags : List Char) (negative : Bool) : List Char :=
  if negative then ['-'] else if flags.contains '+' then ['+']
  else if flags.contains ' ' then [' '] else []

/-- A text, cut to the precision. -/
def textField (precision : Option Nat) (cs : List Char) : Field :=
  ⟨[], (precision.map cs.take).getD cs, false⟩

/-- A whole number with at least as many digits as the precision says. -/
def wholeField (flags : List Char) (precision : Option Nat) (base : List Char) (n : Int)
    (digits : List Char) : Field :=
  ⟨signText flags (n < 0) ++ base, digits.leftpad (precision.getD 0) '0', true⟩

/-- A number in floating-point notation, with six decimals or digits if no precision is given. -/
def realField (flags : List Char) (precision : Option Nat) (letter : Char) (negative : Bool)
    (n : Nat) : Field :=
  let point := flags.contains '#'
  let precision := precision.getD 6
  let power := if letter.isUpper then 'E' else 'e'
  let body := match letter.toLower with
    | 'e' => scientificText point power precision n
    | 'g' => generalText point power precision n
    | _ => fixedText point precision n
  ⟨signText flags negative, body, true⟩

/-- The whole number of a value, for a mark with the letter. -/
def wholeFor (letter : Char) (v : Argument) : Except Misfit Int :=
  match v.whole? with
  | some n => .ok n
  | none =>
    .error (if letter = 'o' || letter = 'x' || letter = 'X' then .notWhole letter v.type
      else .notNumber letter v.type)

/-- The digits of a number in base eight or sixteen, with the mark of the base if it is asked for. -/
def basedField (flags : List Char) (precision : Option Nat) (letter : Char) (n : Int) : Field :=
  let base := if flags.contains '#' then ['0', letter] else []
  let digits := Nat.toDigits (if letter = 'o' then 8 else 16) n.natAbs
  wholeField flags precision base n (if letter = 'X' then digits.map Char.toUpper else digits)

/-- The description of a value in ASCII: other characters are escaped. -/
def asciiText (cs : List Char) : List Char :=
  cs.flatMap fun c => if c.toNat < 0x80 then [c] else codeEscape c

/-- What is written of a value for a mark with the letter, which stands at the place. -/
def field (flags : List Char) (precision : Option Nat) (letter : Char) (place : Nat)
    (v : Argument) : Except Misfit Field :=
  match letter with
  | 's' => return textField precision (← v.shown)
  | 'r' => return textField precision (← v.described)
  | 'a' => return textField precision (asciiText (← v.described))
  | 'd' | 'i' | 'u' => do
    let n ← wholeFor letter v
    return wholeField flags precision [] n (← Argument.digits n.natAbs)
  | 'o' | 'x' | 'X' => return basedField flags precision letter (← wholeFor letter v)
  | 'e' | 'E' | 'f' | 'F' | 'g' | 'G' => do
    let (negative, n) ← v.real
    return realField flags precision letter negative n
  | 'c' => return ⟨[], [← v.character], false⟩
  | _ => .error (.unknownMark letter place)

/-- Writes the value for a mark, whose percent sign stands at the place. -/
def Mark.write (table : Option (List (String × Argument))) (place : Nat) (m : Mark) :
    Writing (List Char) := do
  select table m.key
  let width ← m.width.value widthType .tooWide
  let precision ← m.precision.mapM (Size.value precisionType .tooPrecise)
  let some letter := m.letter | throw .openMark
  let f ← field m.flags (precision.map Int.toNat) letter (place + m.text.length) (← next)
  return f.padded m.flags width

def Part.write (table : Option (List (String × Argument))) (place : Nat) :
    Part → Writing (List Char)
  | char c => return [c]
  | percent => return ['%']
  | mark m => m.write table place

/-- Writes parts of a template, the first of which stands at the place. -/
def writeFrom (table : Option (List (String × Argument))) (place : Nat) :
    List Part → Writing (List Char)
  | [] => return []
  | p :: ps => do
    let front ← p.write table place
    return front ++ (← writeFrom table (place + p.text.length) ps)

end Template

open Template in
/-- The template with arguments for its marks. Values in order must be as many as are asked for. -/
def format (template : List Char) : Arguments → Except Misfit (List Char)
  | .values vs => do
    let (cs, rest) ← (writeFrom none 0 (parts template)).run vs
    unless rest.isEmpty do throw .tooMany
    return cs
  | .table itself entries =>
    (writeFrom (some entries) 0 (parts template)).run' [itself]

end BankCodes.Log
