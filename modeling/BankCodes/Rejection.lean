/-!
# Rejections

A rejection says why a text is no identifier of some kind. It keeps the text as its author typed
it, before any normalization, and one cause; the wording is made from these in `message` alone.
-/

namespace BankCodes

namespace Rejection

/-- The causes of a rejection, in the order in which they are looked for. -/
inductive Cause where
  /-- No particular cause is given. -/
  | unspecified
  /-- The text has not the general form of its kind. -/
  | malformed
  /-- The country code is not in the ISO 3166-1 table. -/
  | unknownCountry
  /-- There is no layout for the country. -/
  | unsupportedCountry (code : String)
  /-- The body does not follow the layout of its country. -/
  | wrongStructure (rule : String)
  /-- The check digits are not those of the body. -/
  | wrongCheckDigits
deriving DecidableEq, Repr

end Rejection

/-- A text that is no identifier of the kind, and why. -/
structure Rejection where
  kind : String
  input : String
  cause : Rejection.Cause
deriving DecidableEq, Repr

/-- The wording of a rejection. -/
def Rejection.message (r : Rejection) : String :=
  match r.cause with
  | .unspecified => "'" ++ r.input ++ "' is not a valid " ++ r.kind
  | .malformed => "'" ++ r.input ++ "' is not a well-formed " ++ r.kind
  | .unknownCountry =>
    "'" ++ r.input ++ "' country code is not an ISO 3166-1-alpha-2 code"
  | .unsupportedCountry code => "'" ++ code ++ "' country does not support " ++ r.kind
  | .wrongStructure rule =>
    "'" ++ r.input ++ "' structure is not valid against the " ++ r.kind ++
      " structure used in " ++ rule
  | .wrongCheckDigits => "'" ++ r.input ++ "' check digits are incorrect"

end BankCodes
