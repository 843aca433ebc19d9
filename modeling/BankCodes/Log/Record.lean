import BankCodes.Log.Event
import BankCodes.Log.Instant
import BankCodes.Text.JsonString

/-!
# Records and their lines

A record is an event with the instant of its making. It is written in one of two forms:

* as a JSON object on one line, whose members keep the parts of the record apart;
* as a plain line of columns, which the report on an error follows on lines of its own.

Both need the message of the record, and there is no line if the arguments do not fit the template.
-/

namespace BankCodes.Log

/-- An event with its time. -/
structure Record extends Event where
  created : Instant
deriving DecidableEq, Repr

namespace Record

/-- The members of the JSON form, in order. An error and a kind are there only if the record has
them. -/
def members (r : Record) (message : String) : List (String × String) :=
  [("ts", String.ofList r.created.exactText), ("level", levelName r.level),
    ("logger", r.logger), ("msg", message)] ++
  (match r.error with
    | none => []
    | some report => [("exc", report)]) ++
  (match r.kind with
    | none | some "" => []
    | some kind => [("identifier_kind", kind)])

/-- A member of a JSON object. -/
def member (m : String × String) : String := Text.jsonString m.1 ++ ": " ++ Text.jsonString m.2

/-- The record with its message as a JSON object. -/
def jsonLine (r : Record) (message : String) : String :=
  "\x7b" ++ ", ".intercalate ((r.members message).map member) ++ "\x7d"

/-- The record as a JSON object. -/
def json (r : Record) : Except Misfit String := r.message.map r.jsonLine

/-- A text with the report on an error below it. The report starts a line of its own. -/
def reported (text : String) : Option String → String
  | none | some "" => text
  | some report => (if text.toList.getLast? == some '\n' then text else text ++ "\n") ++ report

/-- The record with its message as a line of columns, with the report on an error below it. -/
def plainLines (r : Record) (message : String) : String :=
  reported (String.ofList r.created.plainText ++ " | " ++ levelName r.level ++ " | " ++
    r.logger ++ " | " ++ message) r.error

/-- The record as a line of columns. -/
def plain (r : Record) : Except Misfit String := r.message.map r.plainLines

end Record

end BankCodes.Log
