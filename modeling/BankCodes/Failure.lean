import BankCodes.CheckDigits
import BankCodes.Pattern
import BankCodes.Rejection

/-!
# Failures

Everything that can go wrong in an operation of the library: a text may be rejected as an
identifier, and an argument may be missing or of no use. Rejections are what `Verdict` turns into a
plain "no"; the others are faults of the caller.
-/

namespace BankCodes

/-- Why an operation has no result. -/
inductive Failure where
  | rejected (r : Rejection)
  /-- A required argument is missing. -/
  | missing (argument : String)
  /-- A country is given as something that is neither a country nor a text. -/
  | notCountry (type : String)
  | checkDigits (fault : CheckDigits.Fault)
  | pattern (fault : Pattern.Fault)
  /-- A table of layouts has an entry for no country. -/
  | notCountryCode (code : String)
  /-- A log level has no such name. -/
  | unknownLevel (name : String)
  /-- A log level is given as something that is neither a number nor a text. -/
  | notLevel (shown : String)
  /-- The operation is left to the particular kinds of identifiers. -/
  | unimplemented
deriving DecidableEq, Repr

def Failure.message : Failure → String
  | .rejected r => r.message
  | .missing argument => "the " ++ argument ++ " argument cannot be None"
  | .notCountry type => "country must be an IsoCountry or a str, not " ++ type
  | .checkDigits fault => fault.message
  | .pattern fault => fault.message
  | .notCountryCode code => Text.quoted code ++ " is not an ISO 3166-1-alpha-2 code"
  | .unknownLevel name => "Unknown level: " ++ Text.quoted name
  | .notLevel shown => "Level not an integer or a valid string: " ++ shown
  | .unimplemented => ""

/-- The value of a required argument. -/
def given (argument : String) : Option α → Except Failure α
  | none => .error (.missing argument)
  | some a => .ok a

end BankCodes
