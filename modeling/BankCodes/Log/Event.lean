import BankCodes.Failure
import BankCodes.Log.Template

/-!
# Events

An event is what a part of the program has to say: a level, the name of the logger, a template with
its arguments apart, and perhaps the kind of identifier it is about and the report on an error. It
has no time yet; `Log/Record.lean` stamps it. Whether the arguments fit the template is not looked
at before the message is asked for.
-/

namespace BankCodes.Log

/-! ### Levels -/

/-- The urgency of an event. The named levels are multiples of ten. -/
abbrev Level := Int

def debug : Level := 10
def info : Level := 20
def warning : Level := 30

/-- The name of a level. -/
def levelName (level : Level) : String :=
  if level = 0 then "NOTSET"
  else if level = 10 then "DEBUG"
  else if level = 20 then "INFO"
  else if level = 30 then "WARNING"
  else if level = 40 then "ERROR"
  else if level = 50 then "CRITICAL"
  else "Level " ++ toString level

/-- The levels that may be asked for by name; two of them have a second name. -/
def namedLevels : List (String × Level) :=
  [("CRITICAL", 50), ("FATAL", 50), ("ERROR", 40), ("WARN", 30), ("WARNING", 30), ("INFO", 20),
   ("DEBUG", 10), ("NOTSET", 0)]

/-! ### Events -/

/-- Something to be told, without a time. -/
structure Event where
  level : Level
  logger : String
  template : String
  arguments : Arguments
  kind : Option String
  /-- The report on an error: its traceback and its text, or that nothing has been raised. -/
  error : Option String
deriving DecidableEq, Repr

/-- The report on an error without a traceback: its type with its text, if it has one. -/
def errorReport (type text : String) : String :=
  if text.isEmpty then type else type ++ ": " ++ text

/-- The message of an event. A template without arguments is taken as it is. -/
def Event.message (e : Event) : Except Misfit String :=
  if e.arguments.isEmpty then .ok e.template
  else (format e.template.toList e.arguments).map String.ofList

/-! ### Events of the library -/

/-- A text has been rejected as an identifier of the kind. -/
def Event.rejection (kind : String) (failure : Failure) : Event :=
  ⟨debug, "bankcheck.detection.base", "%s rejected: %s", .texts [kind, failure.message],
    some kind, none⟩

/-- A layout expression has been compiled for the first time. -/
def Event.compiled (pattern : Pattern) : Event :=
  ⟨debug, "bankcheck.swift.pattern", "compiled SWIFT expression %s -> %s",
    .texts [pattern.expression, pattern.regex], none, none⟩

end BankCodes.Log
