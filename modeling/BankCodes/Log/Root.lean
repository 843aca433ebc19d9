import BankCodes.Log.Record

/-!
# The root logger

The root logger has a threshold and any number of writers, each with the form it writes records in.
A set-up stores its level as the threshold, then puts a writer in the place of all that are there.
The level is looked at before it is stored. A record goes to every writer if its level is above zero
and reaches the threshold. A writer that finds that the arguments of a record do not fit its template
writes nothing, and whoever made the record is not told.
-/

namespace BankCodes.Log

/-- The two forms of a written record. -/
inductive Form where
  | plain
  | json
deriving DecidableEq, Repr

/-- The record in a form, if it has a message. -/
def Form.write : Form → Record → Except Misfit String
  | plain, r => r.plain
  | json, r => r.json

/-- The root logger, with the form of each of its writers. -/
structure Root where
  threshold : Level
  writers : List Form
deriving DecidableEq, Repr

/-- What may be given where a level is asked for. -/
inductive LevelArgument where
  | number (level : Level)
  | name (text : String)
  /-- Neither a number nor a text, but a value shown like this. -/
  | other (shown : String)

/-- The level of a set-up that asks for none. -/
def LevelArgument.usual : LevelArgument := .name "WARNING"

/-- The level that is meant. -/
def LevelArgument.resolve : LevelArgument → Except Failure Level
  | .number level => .ok level
  | .name text => match namedLevels.lookup text with
    | some level => .ok level
    | none => .error (.unknownLevel text)
  | .other shown => .error (.notLevel shown)

namespace Root

/-- The root logger before any set-up. -/
def initial : Root := ⟨warning, []⟩

/-- How many writers there are. -/
def handlers (root : Root) : Nat := root.writers.length

/-- The form of the first writer, if there is one. -/
def form (root : Root) : Option Form := root.writers.head?

/-- What is done to the root logger. If it fails, whatever has been done until then stays. -/
abbrev Action := EStateM Failure Root

/-- Stores the threshold. -/
def setLevel (level : LevelArgument) : Action Unit := do
  let threshold ← ofExcept level.resolve
  modify fun root => { root with threshold }

/-- Puts writers in the place of all that are there. -/
def setWriters (writers : List Form) : Action Unit :=
  modify fun root => { root with writers }

/-- Sets the root logger up with a level and a form: first the threshold, then the writer. -/
def setup (level : LevelArgument) (form : Form) : Action Unit := do
  setLevel level
  setWriters [form]

/-- Whether records of a level are written. -/
def isEnabledFor (root : Root) (level : Level) : Bool := 0 < level && root.threshold ≤ level

/-- The record as the writers write it, each once. One that fails writes nothing. -/
def written (root : Root) (r : Record) : List String :=
  if root.isEnabledFor r.level then root.writers.filterMap fun form => (form.write r).toOption
  else []

/-- What comes out for a record, each writing ended by a line break. -/
def emit (root : Root) (r : Record) : String := String.join ((root.written r).map (· ++ "\n"))

/-! ### Sequences of set-ups and records -/

/-- What may be done with the root logger. -/
inductive Step where
  | setup (level : LevelArgument) (form : Form)
  | emit (r : Record)

/-- What comes of a step. -/
inductive Answer where
  | ready (root : Root)
  | failed (failure : Failure)
  | written (text : String)

/-- The root logger after a step, and what comes of it. -/
def step (root : Root) : Step → Root × Answer
  | .setup level form => match (setup level form).run root with
    | .ok _ root => (root, .ready root)
    | .error failure root => (root, .failed failure)
  | .emit r => (root, .written (root.emit r))

/-- What comes of a sequence of steps. -/
def run (root : Root) : List Step → List Answer
  | [] => []
  | s :: steps =>
    let (root, answer) := root.step s
    answer :: root.run steps

end Root

end BankCodes.Log
