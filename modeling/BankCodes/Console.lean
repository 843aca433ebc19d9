import BankCodes.Console.Host
import BankCodes.Log.Root
import BankCodes.Scan
import BankCodes.Settings

/-!
# The console

A run has its command line read, sets up the log as the environment says, carries out the command
and prints what it found, each thing on a row of its own under a heading. It ends with the code 0,
or with 1 if the text is rejected or nothing is found, or as its host says if the command line is
not in order.

* `Command.report` carries out a command and says what there is to print;
* `run` is a whole run on a host, with the clock standing at `now`: it writes the log as it is, and
  the lines of output as the host shows them.
-/

namespace BankCodes.Console

/-- The version of the program. -/
def version : String := "0.1.0"

/-! ### Rows -/

/-- A heading with what is printed under it. -/
abbrev Row := String × String

/-- The rows as lines, their headings filled with spaces to the longest one. -/
def rowLines (rows : List Row) : List String :=
  let width := rows.foldl (fun w row => max w row.1.length) 0
  rows.map fun row => String.ofList (row.1.toList.rightpad width ' ') ++ "  " ++ row.2

/-- The code of a country with its name. -/
def countryRow (c : Country) : Row := ("country", c.code ++ " (" ++ c.name ++ ")")

/-- The rows of an IBAN, in printed or in canonical form. -/
def ibanRows (printable : Bool) (x : Iban) : List Row :=
  [("iban", if printable then x.printable else x.text), countryRow x.country,
    ("check digits", x.checkDigits), ("bban", x.bban)]

/-- The rows of a BIC. -/
def bicRows (x : Bic) : List Row :=
  [("bic", x.text), ("institution", x.institution), countryRow x.country,
    ("location", x.location), ("branch", x.branch),
    ("test bic", if x.isTest then "yes" else "no")]

/-- The rows of a creditor identifier. -/
def creditorRows (x : CreditorIdentifier) : List Row :=
  [("creditor id", x.text), countryRow x.country, ("check digits", x.checkDigits),
    ("business code", x.businessCode), ("national id", x.nationalId)]

/-- The rows of everything that is found in a text. -/
def scanRows (text : String) : List Row :=
  (Scan.ibans text).found.map ("IBAN", ·) ++ (Scan.bics text).found.map ("BIC", ·) ++
    (Scan.creditorIdentifiers text).found.map ("CI", ·)

/-! ### Commands -/

/-- What a command has to say: events for the log, then lines of output, and its exit code. -/
structure Report where
  events : List Log.Event
  lines : List String
  exitCode : Nat
deriving DecidableEq, Repr

/-- An event of the console. -/
def event (level : Log.Level) (template : String) (argument : Log.Argument) : Log.Event :=
  ⟨level, "bankcheck.cli.app", template, .values [argument], none, none⟩

/-- The report on a text that was to be read: its rows, or the rejection. Any other failure is not
reported but remains one. -/
def reportResult (rows : α → List Row) : Except Failure α → Except Failure Report
  | .ok x => .ok ⟨[], rowLines (rows x), 0⟩
  | .error (.rejected r) => .ok ⟨[], ["INVALID " ++ r.message], 1⟩
  | .error failure => .error failure

/-- The report on what is found in a text. -/
def reportScan (text : String) : Report :=
  let rows := scanRows text
  let events := (Scan.ibans text).log ++ (Scan.bics text).log ++
    (Scan.creditorIdentifiers text).log ++
    [event Log.info "scan: %d identifiers found" (.whole rows.length)]
  if rows.isEmpty then ⟨events, ["nothing found"], 1⟩ else ⟨events, rowLines rows, 0⟩

/-- The words of an argument list as one text. -/
def joined (words : List String) : String := " ".intercalate words

/-- Carries out a command. -/
def Command.report (settings : Settings) : Command → Except Failure Report
  | .version => .ok ⟨[], ["bankcheck " ++ Console.version], 0⟩
  | .iban words => reportResult (ibanRows settings.printable) (Iban.parse (joined words))
  | .ibanBuild country bban =>
    reportResult (ibanRows settings.printable) (Iban.ofParts (.code country) (some bban))
  | .bic code test =>
    reportResult bicRows (Bic.parse code >>= fun x => if test then x.toTest else .ok x)
  | .creditor words => reportResult creditorRows (CreditorIdentifier.parse (joined words))
  | .creditorBuild country businessCode nationalId =>
    reportResult creditorRows
      (CreditorIdentifier.ofParts (.code country) (some businessCode) (some nationalId))
  | .scan words => .ok (reportScan (joined words))

/-! ### Runs -/

/-- What a run tells of its settings. -/
def settingsEvent (settings : Settings) : Log.Event :=
  event Log.debug "config: %s" (.other "AppConfig" settings.describe settings.describe)

/-- The log of a run, which is set up as the settings say. -/
def setUp (settings : Settings) : Except Failure Log.Root :=
  let form := if settings.jsonLog then Log.Form.json else .plain
  match (Log.Root.setup (.name settings.logLevel) form).run .initial with
  | .error failure _ => .error failure
  | .ok _ root => .ok root

/-- What a run writes for events: the lines of those that reach the threshold. -/
def writeEvents (root : Log.Root) (now : Log.Instant) (events : List Log.Event) : String :=
  String.join (events.map fun e => root.emit ⟨e, now⟩)

/-- A run of the program. -/
def run (host : Host) (now : Log.Instant) (env : Environment) (arguments : List String) :
    Except Failure Outcome :=
  let settings := Settings.ofEnvironment env
  match host.read arguments with
  | .unnamed outcome => .ok outcome
  | .refused outcome => do
    let root ← setUp settings
    let log := writeEvents root now [settingsEvent settings]
    return { outcome with output := outcome.output.map (log ++ ·) }
  | .command command => do
    let root ← setUp settings
    let report ← command.report settings
    let log := writeEvents root now (settingsEvent settings :: report.events)
    return ⟨report.exitCode, some (log ++ host.print report.lines)⟩

end BankCodes.Console
