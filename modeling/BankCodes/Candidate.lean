import BankCodes.Registry

/-!
# Candidates and the stages of their examination

A candidate is a text taken for an identifier of some kind. It passes through stages, each of which
rejects it or hands on what was found: a general form, a country, a layout rule of a registry, the
check digits of country and body. The kinds of identifiers put these stages together.
-/

namespace BankCodes

/-- A text as it was typed, taken for an identifier of a kind. -/
structure Candidate where
  kind : String
  input : String

namespace Candidate

/-- The failure of a candidate, for a cause. -/
def reject (c : Candidate) (cause : Rejection.Cause) : Failure :=
  .rejected ⟨c.kind, c.input, cause⟩

/-- Goes on only if the condition holds. -/
def ensure (c : Candidate) (condition : Bool) (cause : Rejection.Cause) : Except Failure Unit :=
  if condition then .ok () else .error (c.reject cause)

/-- The country whose code is the given characters. -/
def country (c : Candidate) (code : List Char) : Except Failure Country :=
  match Country.ofChars? code with
  | some country => .ok country
  | none => .error (c.reject .unknownCountry)

/-- The rule of the registry for the country. -/
def rule (c : Candidate) (registry : Registry) (country : Country) : Except Failure Rule :=
  match registry.lookup country with
  | some rule => .ok rule
  | none => .error (c.reject (.unsupportedCountry country.code))

/-- Goes on only if the body follows the rule. -/
def follow (c : Candidate) (rule : Rule) (body : String) : Except Failure Unit :=
  c.ensure (rule.accepts body) (.wrongStructure rule.label)

end Candidate

/-- The check digits that belong to a body in a country. -/
def checkDigitsOf (country : Country) (body : String) : Except Failure String :=
  (CheckDigits.compute (country.code ++ "00" ++ body)).mapError .checkDigits

end BankCodes
