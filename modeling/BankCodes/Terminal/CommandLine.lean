import BankCodes.Console.Host
import BankCodes.Terminal.Arguments

/-!
# Command lines

A command line names a command and gives its arguments. It is read in two steps: first the name,
then the arguments. In either step it may be out of order, or ask for help instead; then the run
ends with a text that is not its own.
-/

namespace BankCodes.Terminal

open Console (Command Outcome Reading)

/-- The commands by name. -/
inductive CommandName where
  | version
  | iban
  | ibanBuild
  | bic
  | creditor
  | creditorBuild
  | scan
deriving DecidableEq, Repr

/-- The names of the commands. -/
def commandNames : List (String × CommandName) :=
  [("version", .version), ("iban", .iban), ("iban-build", .ibanBuild), ("bic", .bic),
   ("ci", .creditor), ("ci-build", .creditorBuild), ("scan", .scan)]

def countryOption : ValueOption := ⟨"--country", 'c'⟩
def bbanOption : ValueOption := ⟨"--bban", 'b'⟩
def nationalIdOption : ValueOption := ⟨"--national-id", 'n'⟩
def businessCodeOption : ValueOption := ⟨"--business-code", 'b'⟩
def testFlag : String := "--test"
def helpFlag : String := "--help"

/-- The options of a command. -/
def options : CommandName → Options
  | .ibanBuild => ⟨[countryOption, bbanOption], [helpFlag]⟩
  | .creditorBuild => ⟨[countryOption, nationalIdOption, businessCodeOption], [helpFlag]⟩
  | .bic => ⟨[], [testFlag, helpFlag]⟩
  | .version | .iban | .creditor | .scan => ⟨[], [helpFlag]⟩

/-- The command of a name with its arguments, if they are those that it needs and no others. -/
def ofArguments (name : CommandName) (a : Arguments) : Option Command :=
  match name, a.others with
  | .version, [] => some .version
  | .iban, word :: words => some (.iban (word :: words))
  | .bic, [code] => some (.bic code (a.has testFlag))
  | .creditor, word :: words => some (.creditor (word :: words))
  | .scan, word :: words => some (.scan (word :: words))
  | .ibanBuild, [] => do
    let country ← a.value? countryOption.name
    let bban ← a.value? bbanOption.name
    return .ibanBuild country bban
  | .creditorBuild, [] => do
    let country ← a.value? countryOption.name
    let nationalId ← a.value? nationalIdOption.name
    let businessCode := (a.value? businessCodeOption.name).getD CreditorIdentifier.noBusinessCode
    return .creditorBuild country businessCode nationalId
  | _, _ => none

/-- The end of a run whose command line is out of order. -/
def misuse : Outcome := ⟨2, none⟩

/-- The end of a run that was asked for help. -/
def help : Outcome := ⟨0, none⟩

/-- Reads the arguments of a command. If help is asked for, it does not matter what is missing. -/
def readArguments (name : CommandName) (arguments : List String) : Reading :=
  match Arguments.read? (options name) arguments with
  | none => .refused misuse
  | some a =>
    if a.has helpFlag then .refused help
    else match ofArguments name a with
      | none => .refused misuse
      | some command => .command command

/-- Reads the name of a command, and then its arguments. -/
def readNamed (name : String) (arguments : List String) : Reading :=
  match commandNames.lookup name with
  | none => .unnamed misuse
  | some name => readArguments name arguments

/-- Reads a command line. Two hyphens may stand before the name. -/
def readCommandLine : List String → Reading
  | [] => .unnamed misuse
  | "--" :: name :: arguments => readNamed name arguments
  | name :: arguments => if name = helpFlag then .unnamed help else readNamed name arguments

end BankCodes.Terminal
