import BankCodes.Identifier
import BankCodes.Log.Event

/-!
# Verdicts

A verdict on a text is a plain yes or no: a text that is rejected as an identifier is not valid, and
the rejection is told in the log. What is no text at all is not valid either, and nothing is told.
-/

namespace BankCodes

/-- Whether a text is valid, and what is told about it. -/
structure Verdict where
  valid : Bool
  log : List Log.Event
deriving DecidableEq, Repr

namespace Verdict

/-- The verdict that follows from reading a text. Only a rejection is a verdict; any other failure
remains one. -/
def ofResult (kind : String) : Except Failure α → Except Failure Verdict
  | .ok _ => .ok ⟨true, []⟩
  | .error (.rejected r) => .ok ⟨false, [.rejection kind (.rejected r)]⟩
  | .error failure => .error failure

/-- The verdict on a value, which is not valid if it is no text. -/
def on (kind : Kind) (registry : Option Registry) : Option String → Except Failure Verdict
  | none => .ok ⟨false, []⟩
  | some input => ofResult kind.label (Identifier.parse kind registry input)

end Verdict

end BankCodes
