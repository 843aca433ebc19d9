import BankCodes.Text.Blank
import BankCodes.Text.Case
import BankCodes.Text.Quoted

/-!
# Settings

The settings come from variables of the environment, each of which may be absent. Levels are
taken in upper case; a flag is set by one of four words in any case, with or without spaces around
it, and by nothing else.
-/

namespace BankCodes

/-- The variables of an environment with their values. -/
abbrev Environment := List (String × String)

/-- The settings of a run. -/
structure Settings where
  environment : String
  logLevel : String
  jsonLog : Bool
  printable : Bool
deriving DecidableEq, Repr

namespace Settings

open Text

/-- The words that set a flag. -/
def setWords : List (List Char) :=
  [['1'], ['t', 'r', 'u', 'e'], ['y', 'e', 's'], ['o', 'n']]

/-- Whether the value sets a flag. The words are ASCII, and no other character has an ASCII letter
of them as its lower-case form. -/
def isSet (value : String) : Bool :=
  setWords.contains ((strip value.toList).map Char.toLower)

/-- The text in upper case. -/
def upperText (s : String) : String := String.ofList (upper s.toList)

/-- The settings of an environment. -/
def ofEnvironment (env : Environment) : Settings where
  environment := (env.lookup "BANKCHECK_ENV").getD "dev"
  logLevel := upperText ((env.lookup "BANKCHECK_LOG_LEVEL").getD "WARNING")
  jsonLog := isSet ((env.lookup "BANKCHECK_LOG_JSON").getD "0")
  printable := isSet ((env.lookup "BANKCHECK_PRINTABLE").getD "1")

/-- Whether the run is one for debugging. -/
def isDebug (s : Settings) : Bool := upperText s.logLevel == "DEBUG"

/-- A flag as it is shown. -/
def shownFlag (b : Bool) : String := if b then "True" else "False"

/-- The settings with their names. -/
def describe (s : Settings) : String :=
  "AppConfig(env=" ++ quoted s.environment ++ ", log_level=" ++ quoted s.logLevel ++
    ", log_json=" ++ shownFlag s.jsonLog ++ ", printable=" ++ shownFlag s.printable ++ ")"

end Settings

end BankCodes
