import BankCodes.Candidate

/-!
# Countries as arguments

Where an operation asks for a country, a country may be given or the text of its code, and also
nothing or a value of no use. Making an identifier insists on a country; looking up a rule takes
everything that is no country for one without a rule.
-/

namespace BankCodes

/-- What may be given where a country is asked for. -/
inductive CountryArgument where
  | absent
  | member (country : Country)
  | code (text : String)
  /-- Neither a country nor a text, but a value of the named type. -/
  | other (type : String)

/-- The country that is meant. A code may be in any case, with or without spaces around it. -/
def CountryArgument.resolve (kind : String) : CountryArgument → Except Failure Country
  | .absent => .error (.missing "country")
  | .member country => .ok country
  | .code text => match Country.ofCode? text with
    | some country => .ok country
    | none => .error (Candidate.reject ⟨kind, text⟩ .unknownCountry)
  | .other type => .error (.notCountry type)

/-- The rule for the country that is meant, if there is one. Only texts and countries mean one. -/
def Registry.lookupArgument (r : Registry) : CountryArgument → Option Rule
  | .member country => r.lookup country
  | .code text => r.lookupCode text
  | .absent | .other _ => none

/-- Whether there is a rule for the country that is meant. -/
def Registry.contains (r : Registry) (country : CountryArgument) : Bool :=
  (r.lookupArgument country).isSome

end BankCodes
