import BankCodes.Console
import BankCodes.Terminal
import Std.Time.DateTime.Timestamp

/-!
# The program

Reads the environment, the clock and the arguments, and prints what a run in the terminal says.
-/

namespace BankCodes

/-- The variables of the environment that the settings look at. -/
def variableNames : List String :=
  ["BANKCHECK_ENV", "BANKCHECK_LOG_LEVEL", "BANKCHECK_LOG_JSON", "BANKCHECK_PRINTABLE"]

/-- The variables that are set, with their values. -/
def environment : IO Environment :=
  variableNames.filterMapM fun name => return (← IO.getEnv name).map (name, ·)

/-- The instant at which it is called. -/
def now : IO Log.Instant := do
  let nanoseconds := (← Std.Time.Timestamp.now).toNanosecondsSinceUnixEpoch.val
  return ⟨nanoseconds.fdiv 1000000000, nanoseconds.fdiv 1000⟩

/-- The width of the screen, if it is known. -/
def screenWidth : IO Nat := do
  return ((← IO.getEnv "COLUMNS").bind String.toNat?).getD Terminal.usualWidth

end BankCodes

open BankCodes in
def main (arguments : List String) : IO UInt32 := do
  match Console.run (Terminal.host (← screenWidth)) (← now) (← environment) arguments with
  | .ok outcome =>
    match outcome.output with
    | some output => IO.print output
    | none => IO.eprintln "usage: bankcheck (version | iban | iban-build | bic | ci | ci-build | scan)"
    return outcome.exitCode.toUInt32
  | .error failure =>
    IO.eprintln failure.message
    return 1
