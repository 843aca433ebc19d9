import BankCodes.CreditorIdentifier

/-!
# The host of the console

The console does not read command lines itself, and it knows nothing of screens. It runs on a host
that does both: it reads the arguments of a run as a command, or ends the run if they are not in
order, and it shows lines of text.

A run is set up between the two steps in which a host reads, so there are two ways not to be in
order: no command may be named, or a command may be named with arguments that are not its own.

What is taken for granted of a host is `Host.Conforms`: the command lines of these forms are read as
they are meant, where a `WORD` and a `CODE` do not begin with a hyphen. That lines are shown as they
are, `Host.Verbatim`, is true of some lines only, and said where it matters.

    iban WORD ...        bic CODE [--test]        ci WORD ...        scan WORD ...        version
    iban-build --country COUNTRY --bban BBAN
    ci-build --country COUNTRY --national-id ID [--business-code CODE]
-/

namespace BankCodes.Console

/-- A command with its arguments. -/
inductive Command where
  | version
  | iban (words : List String)
  | ibanBuild (country bban : String)
  | bic (code : String) (test : Bool)
  | creditor (words : List String)
  | creditorBuild (country businessCode nationalId : String)
  | scan (words : List String)
deriving DecidableEq, Repr

/-- How a run ends. What the host says about a command line is no output of the run. -/
structure Outcome where
  exitCode : Nat
  output : Option String
deriving DecidableEq, Repr

/-- What a host makes of a command line. -/
inductive Reading where
  /-- No command is named, and the run ends before it is set up. -/
  | unnamed (outcome : Outcome)
  /-- A command is named, but the run ends once it is set up. -/
  | refused (outcome : Outcome)
  | command (c : Command)
deriving DecidableEq, Repr

/-- What a run is given to read its command line and to show lines. -/
structure Host where
  read : List String → Reading
  /-- What is shown for a line of text. -/
  shown : String → String

namespace Host

/-- The command line is read as the command. -/
def Reads (host : Host) (arguments : List String) (command : Command) : Prop :=
  host.read arguments = .command command

/-- The host shows the lines as they are. -/
def Verbatim (host : Host) (lines : List String) : Prop := ∀ line ∈ lines, host.shown line = line

/-- What is written for lines of output. -/
def print (host : Host) (lines : List String) : String :=
  String.join (lines.map fun line => host.shown line ++ "\n")

end Host

/-! ### Command lines in order -/

/-- An argument that is no option: it does not begin with a hyphen, unless it is nothing else. -/
def Plain (argument : String) : Prop :=
  argument.toList.head? = some '-' → argument.toList = ['-']

instance : DecidablePred Plain := fun argument =>
  inferInstanceAs (Decidable (argument.toList.head? = some '-' → argument.toList = ['-']))

/-- Command lines in order, each with its command. -/
inductive InOrder : List String → Command → Prop where
  | version : InOrder ["version"] .version
  | iban {words : List String} :
      words ≠ [] → (∀ word ∈ words, Plain word) → InOrder ("iban" :: words) (.iban words)
  | bic {code : String} : Plain code → InOrder ["bic", code] (.bic code false)
  | testBic {code : String} : Plain code → InOrder ["bic", code, "--test"] (.bic code true)
  | creditor {words : List String} :
      words ≠ [] → (∀ word ∈ words, Plain word) → InOrder ("ci" :: words) (.creditor words)
  | scan {words : List String} :
      words ≠ [] → (∀ word ∈ words, Plain word) → InOrder ("scan" :: words) (.scan words)
  | ibanBuild (country bban : String) :
      InOrder ["iban-build", "--country", country, "--bban", bban] (.ibanBuild country bban)
  | creditorBuild (country nationalId : String) :
      InOrder ["ci-build", "--country", country, "--national-id", nationalId]
        (.creditorBuild country CreditorIdentifier.noBusinessCode nationalId)
  | creditorBuildWith (country nationalId businessCode : String) :
      InOrder ["ci-build", "--country", country, "--national-id", nationalId,
        "--business-code", businessCode] (.creditorBuild country businessCode nationalId)

/-- The host reads command lines that are in order as they are meant. -/
structure Host.Conforms (host : Host) : Prop where
  reads : ∀ {arguments : List String} {command : Command},
    InOrder arguments command → host.Reads arguments command

end BankCodes.Console
