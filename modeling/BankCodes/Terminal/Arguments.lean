/-!
# Arguments of a command

A command takes options with a value, options without one, and other arguments, in any order. An
option with a value has a long name and a letter; its value follows as the next argument, behind an
equals sign after the long name, or right behind the letter. Two hyphens alone end the options, and
one hyphen alone is no option.
-/

namespace BankCodes.Terminal

/-- An option with a value: `--name` or the letter behind one hyphen. -/
structure ValueOption where
  name : String
  letter : Char
deriving DecidableEq, Repr

/-- The options that a command knows. -/
structure Options where
  valued : List ValueOption
  flags : List String
deriving DecidableEq, Repr

/-- The arguments of a command, taken apart. -/
structure Arguments where
  /-- The values of options by name, the last one first. -/
  values : List (String × String)
  flags : List String
  others : List String
deriving DecidableEq, Repr

namespace Arguments

/-- The value of an option: the last one, if it is repeated. -/
def value? (a : Arguments) (name : String) : Option String := a.values.lookup name

/-- Whether a flag is given. -/
def has (a : Arguments) (flag : String) : Bool := a.flags.contains flag

/-- What one argument is. -/
inductive Token where
  | other
  /-- The end of the options. -/
  | stop
  | flag (name : String)
  /-- An option with its value. -/
  | valued (name value : String)
  /-- An option whose value is the next argument. -/
  | awaiting (name : String)
  /-- No option of the command. -/
  | unknown

/-- An option behind two hyphens, with what follows an equals sign. -/
def longToken (options : Options) (name : String) (value : Option String) : Token :=
  if options.valued.any (·.name == name) then
    match value with
    | some value => .valued name value
    | none => .awaiting name
  else if options.flags.contains name && value.isNone then .flag name
  else .unknown

/-- An option behind one hyphen, with what follows its letter. -/
def shortToken (options : Options) (letter : Char) (value : List Char) : Token :=
  match options.valued.find? (·.letter == letter) with
  | none => .unknown
  | some option =>
    if value.isEmpty then .awaiting option.name else .valued option.name (String.ofList value)

/-- What an argument is to a command. -/
def token (options : Options) (argument : String) : Token :=
  match argument.toList with
  | ['-', '-'] => .stop
  | '-' :: '-' :: cs =>
    let name := String.ofList ('-' :: '-' :: cs.takeWhile (· != '='))
    match cs.dropWhile (· != '=') with
    | [] => longToken options name none
    | _ :: value => longToken options name (some (String.ofList value))
  | '-' :: letter :: value => shortToken options letter value
  | _ => .other

/-- Takes arguments apart, after those already `read`. There is no result if an option is unknown
or has no value. -/
def readAfter (options : Options) (read : Arguments) : List String → Option Arguments
  | [] => some read
  | argument :: rest => match token options argument with
    | .other => readAfter options { read with others := read.others ++ [argument] } rest
    | .stop => some { read with others := read.others ++ rest }
    | .flag name => readAfter options { read with flags := name :: read.flags } rest
    | .valued name value =>
      readAfter options { read with values := (name, value) :: read.values } rest
    | .awaiting name => match rest with
      | [] => none
      | value :: rest =>
        readAfter options { read with values := (name, value) :: read.values } rest
    | .unknown => none

/-- The arguments of a command, taken apart. -/
def read? (options : Options) (arguments : List String) : Option Arguments :=
  readAfter options ⟨[], [], []⟩ arguments

end Arguments

end BankCodes.Terminal
