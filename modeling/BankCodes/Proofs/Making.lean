import BankCodes.Proofs.CreditorIdentifier.Parts

/-!
# What comes of making an identifier of parts

To make an identifier of parts, the country is looked at first, whatever the other parts are; then
whether all parts are there, the business code of a creditor identifier, the rule of the country and
the body. If each of these is in order, the identifier is made. Otherwise the first that is not is
what making fails for, and it does so as `Iban.PartsFault` and `CreditorIdentifier.PartsFault` say.
There is nothing else that it could fail for: whatever the rule of the country is, a body that
follows it in canonical form has check digits.

* `CountryArgument.resolve_eq_ok_iff` and `resolve_eq_error_iff`: the country;
* `Iban.ofParts_eq_error_iff` and `CreditorIdentifier.ofParts_eq_error_iff`: every failure;
* `made_or_first_fault`: all outcomes for both kinds.
-/

namespace BankCodes

open Candidate Pattern Text

/-! ## Countries as arguments -/

/-- A country is found by its code, in upper case and without the spaces around it. -/
theorem Country.ofCode?_eq_some_iff {text : String} {country : Country} :
    Country.ofCode? text = some country ↔ upper (strip text.toList) = country.code.toList := by
  rw [Country.ofCode?, Country.ofChars?_eq_some_iff, Country.toList_code]

theorem Country.ofCode?_eq_none_iff {text : String} :
    Country.ofCode? text = none ↔
      ∀ country : Country, upper (strip text.toList) ≠ country.code.toList := by
  rw [Option.eq_none_iff_forall_ne_some]
  apply forall_congr'
  intro country
  rw [ne_eq, Country.ofCode?_eq_some_iff]

namespace CountryArgument

/-- The country that is meant: a country means itself, and a text the one whose code it is in upper
case and without the spaces around it. -/
inductive Means : CountryArgument → Country → Prop where
  | member (country : Country) : Means (.member country) country
  | code {text : String} {country : Country} :
      upper (strip text.toList) = country.code.toList → Means (.code text) country

/-- Why no country is meant: none is given, or a value that is neither country nor text, or a text
that is the code of no country. -/
inductive Useless (kind : String) : CountryArgument → Failure → Prop where
  | absent : Useless kind .absent (.missing "country")
  | other (type : String) : Useless kind (.other type) (.notCountry type)
  | unknown {text : String} :
      (∀ country : Country, upper (strip text.toList) ≠ country.code.toList) →
      Useless kind (.code text) (.rejected ⟨kind, text, .unknownCountry⟩)

variable {kind : String} {argument : CountryArgument}

theorem resolve_eq_ok_iff {country : Country} :
    argument.resolve kind = .ok country ↔ argument.Means country := by
  constructor
  · intro h
    unfold resolve at h
    split at h
    · cases h
    · cases h
      exact .member _
    · split at h
      · next hcode =>
        cases h
        exact .code (Country.ofCode?_eq_some_iff.1 hcode)
      · cases h
    · cases h
  · intro h
    cases h with
    | member => rfl
    | code hcode => simp only [resolve, Country.ofCode?_eq_some_iff.2 hcode]

theorem resolve_eq_error_iff {failure : Failure} :
    argument.resolve kind = .error failure ↔ argument.Useless kind failure := by
  constructor
  · intro h
    unfold resolve at h
    split at h
    · cases h
      exact .absent
    · cases h
    · split at h
      · cases h
      · next hcode =>
        cases h
        exact .unknown (Country.ofCode?_eq_none_iff.1 hcode)
    · cases h
      exact .other _
  · intro h
    cases h with
    | absent => rfl
    | other type => rfl
    | unknown hnone => simp only [resolve, Country.ofCode?_eq_none_iff.2 hnone, reject]

end CountryArgument

/-! ## IBANs -/

namespace Iban

/-- What making an IBAN of parts fails for. -/
inductive PartsFault (registry : Registry) : CountryArgument → Option String → Failure → Prop where
  | country {argument : CountryArgument} {bban : Option String} {failure : Failure} :
      argument.Useless kind failure → PartsFault registry argument bban failure
  | missing {argument : CountryArgument} {country : Country} :
      argument.Means country → PartsFault registry argument none (.missing "bban")
  | body {argument : CountryArgument} {country : Country} {input : String}
      {cause : Rejection.Cause} :
      argument.Means country → BodyFault registry country (canonicalChars input.toList) cause →
      PartsFault registry argument (some input) (.rejected ⟨kind, input, cause⟩)

variable {argument : CountryArgument} {bban : Option String} {registry : Registry}

theorem ofParts_eq_error_iff {failure : Failure} :
    ofParts argument bban registry = .error failure ↔
      PartsFault registry argument bban failure := by
  rw [ofParts_eq_assemble]
  simp only [bind_eq_error_iff, CountryArgument.resolve_eq_ok_iff,
    CountryArgument.resolve_eq_error_iff, given_eq_ok_iff, given_eq_error_iff,
    assemble_eq_error_iff]
  constructor
  · rintro (h | ⟨country, hcountry, ⟨rfl, rfl⟩ | ⟨input, rfl, ⟨cause, hfault, rfl⟩ | ⟨_, _, ⟨⟩⟩⟩⟩)
    · exact .country h
    · exact .missing hcountry
    · exact .body hcountry hfault
  · intro h
    cases h with
    | country h => exact .inl h
    | missing hcountry => exact .inr ⟨_, hcountry, .inl ⟨rfl, rfl⟩⟩
    | body hcountry hfault =>
      exact .inr ⟨_, hcountry, .inr ⟨_, rfl, .inl ⟨_, hfault, rfl⟩⟩⟩

/-- An IBAN is made if and only if there are a country and a BBAN, and the BBAN follows the rule of
the country. -/
theorem exists_ofParts_eq_ok_iff :
    (∃ x, ofParts argument bban registry = .ok x) ↔
      ∃ country input, argument.Means country ∧ bban = some input ∧
        ∃ rule ∈ registry.rules, rule.country = country ∧
          Spells rule.pattern.groups (canonicalChars input.toList) := by
  simp only [ofParts_eq_assemble, bind_eq_ok_iff, CountryArgument.resolve_eq_ok_iff,
    given_eq_ok_iff]
  constructor
  · rintro ⟨x, country, hcountry, input, rfl, digits, hdigits, -⟩
    exact ⟨country, input, hcountry, rfl, exists_assemble_eq_ok_iff.1 ⟨digits, hdigits⟩⟩
  · rintro ⟨country, input, hcountry, rfl, hrule⟩
    obtain ⟨digits, hdigits⟩ := exists_assemble_eq_ok_iff.2 hrule
    exact ⟨_, country, hcountry, input, rfl, digits, hdigits, rfl⟩

end Iban

/-! ## Creditor identifiers -/

namespace CreditorIdentifier

/-- Three capitals and digits, in canonical form. -/
def IsBusinessCode (typed : String) : Prop :=
  (canonicalChars typed.toList).length = 3 ∧
    ∀ c ∈ canonicalChars typed.toList, c.isUpper = true ∨ c.isDigit = true

/-- What making a creditor identifier of parts fails for. -/
inductive PartsFault (registry : Registry) :
    CountryArgument → Option String → Option String → Failure → Prop where
  | country {argument : CountryArgument} {businessCode nationalId : Option String}
      {failure : Failure} :
      argument.Useless kind failure →
      PartsFault registry argument businessCode nationalId failure
  | missingBusinessCode {argument : CountryArgument} {country : Country}
      {nationalId : Option String} :
      argument.Means country →
      PartsFault registry argument none nationalId (.missing "business_code")
  | missingNationalId {argument : CountryArgument} {country : Country} {typed : String} :
      argument.Means country →
      PartsFault registry argument (some typed) none (.missing "national_id")
  | businessCode {argument : CountryArgument} {country : Country} {typed input : String} :
      argument.Means country → ¬ IsBusinessCode typed →
      PartsFault registry argument (some typed) (some input)
        (.rejected ⟨kind, typed, .malformed⟩)
  | body {argument : CountryArgument} {country : Country} {typed input : String}
      {cause : Rejection.Cause} :
      argument.Means country → IsBusinessCode typed →
      BodyFault registry country (canonicalChars input.toList) cause →
      PartsFault registry argument (some typed) (some input) (.rejected ⟨kind, input, cause⟩)

variable {argument : CountryArgument} {businessCode nationalId : Option String}
  {registry : Registry}

theorem isBusinessCode_iff {typed : String} :
    IsBusinessCode typed ↔ businessCodeForm.accepts (canonical typed) = true := by
  rw [businessCodeForm_accepts_iff, toList_canonical]
  rfl

theorem ofParts_eq_error_iff {failure : Failure} :
    ofParts argument businessCode nationalId registry = .error failure ↔
      PartsFault registry argument businessCode nationalId failure := by
  rw [ofParts_eq_assemble]
  simp only [bind_eq_error_iff, CountryArgument.resolve_eq_ok_iff,
    CountryArgument.resolve_eq_error_iff, given_eq_ok_iff, given_eq_error_iff, ensure_eq_ok_iff,
    ensure_eq_error_iff, assemble_eq_error_iff, ← Bool.not_eq_true, ← isBusinessCode_iff]
  constructor
  · rintro (h | ⟨country, hcountry, ⟨rfl, rfl⟩ | ⟨typed, rfl, ⟨rfl, rfl⟩ | ⟨input, rfl, h⟩⟩⟩)
    · exact .country h
    · exact .missingBusinessCode hcountry
    · exact .missingNationalId hcountry
    · rcases h with ⟨hform, rfl⟩ | ⟨_, hform, ⟨cause, hfault, rfl⟩ | ⟨_, _, ⟨⟩⟩⟩
      · exact .businessCode hcountry hform
      · exact .body hcountry hform hfault
  · intro h
    cases h with
    | country h => exact .inl h
    | missingBusinessCode hcountry => exact .inr ⟨_, hcountry, .inl ⟨rfl, rfl⟩⟩
    | missingNationalId hcountry =>
      exact .inr ⟨_, hcountry, .inr ⟨_, rfl, .inl ⟨rfl, rfl⟩⟩⟩
    | businessCode hcountry hform =>
      exact .inr ⟨_, hcountry, .inr ⟨_, rfl, .inr ⟨_, rfl, .inl ⟨hform, rfl⟩⟩⟩⟩
    | body hcountry hform hfault =>
      refine .inr ⟨_, hcountry, .inr ⟨_, rfl, .inr ⟨_, rfl, .inr ⟨(), hform, ?_⟩⟩⟩⟩
      exact .inl ⟨_, hfault, rfl⟩

/-- A creditor identifier is made if and only if there are a country, a business code in order, and
a national identifier that follows the rule of the country. -/
theorem exists_ofParts_eq_ok_iff :
    (∃ y, ofParts argument businessCode nationalId registry = .ok y) ↔
      ∃ country typed input, argument.Means country ∧ businessCode = some typed ∧
        IsBusinessCode typed ∧ nationalId = some input ∧
        ∃ rule ∈ registry.rules, rule.country = country ∧
          Spells rule.pattern.groups (canonicalChars input.toList) := by
  simp only [ofParts_eq_assemble, bind_eq_ok_iff, CountryArgument.resolve_eq_ok_iff,
    given_eq_ok_iff, ensure_eq_ok_iff, ← isBusinessCode_iff]
  constructor
  · rintro ⟨y, country, hcountry, typed, rfl, input, rfl, -, hform, digits, hdigits, -⟩
    exact ⟨country, typed, input, hcountry, rfl, hform, rfl,
      exists_assemble_eq_ok_iff.1 ⟨digits, hdigits⟩⟩
  · rintro ⟨country, typed, input, hcountry, rfl, hform, rfl, hrule⟩
    obtain ⟨digits, hdigits⟩ := exists_assemble_eq_ok_iff.2 hrule
    exact ⟨_, country, hcountry, typed, rfl, input, rfl, (), hform, digits, hdigits, rfl⟩

end CreditorIdentifier

/-! ## Both kinds -/

/-- Whatever the registry and the parts are: an IBAN is made if and only if a country is meant, a
BBAN is given, and its canonical form follows the rule of the country; for a creditor identifier, a
business code of three capitals and digits has to be given as well. In every other case making fails
for the first of the faults, and the check digits are never one. -/
theorem made_or_first_fault (registry : Registry) (argument : CountryArgument) :
    (∀ bban : Option String,
      ((∃ x, Iban.ofParts argument bban registry = .ok x) ↔
        ∃ country input, argument.Means country ∧ bban = some input ∧
          ∃ rule ∈ registry.rules, rule.country = country ∧
            Spells rule.pattern.groups (canonicalChars input.toList)) ∧
      (∀ failure, Iban.ofParts argument bban registry = .error failure ↔
        Iban.PartsFault registry argument bban failure) ∧
      ∀ fault, Iban.ofParts argument bban registry ≠ .error (.checkDigits fault)) ∧
    ∀ businessCode nationalId : Option String,
      ((∃ y, CreditorIdentifier.ofParts argument businessCode nationalId registry = .ok y) ↔
        ∃ country typed input, argument.Means country ∧ businessCode = some typed ∧
          CreditorIdentifier.IsBusinessCode typed ∧ nationalId = some input ∧
          ∃ rule ∈ registry.rules, rule.country = country ∧
            Spells rule.pattern.groups (canonicalChars input.toList)) ∧
      (∀ failure,
        CreditorIdentifier.ofParts argument businessCode nationalId registry = .error failure ↔
          CreditorIdentifier.PartsFault registry argument businessCode nationalId failure) ∧
      ∀ fault, CreditorIdentifier.ofParts argument businessCode nationalId registry ≠
        .error (.checkDigits fault) := by
  constructor
  · intro bban
    refine ⟨Iban.exists_ofParts_eq_ok_iff, fun _ => Iban.ofParts_eq_error_iff, ?_⟩
    intro fault h
    cases Iban.ofParts_eq_error_iff.1 h with
    | country h => cases h
  · intro businessCode nationalId
    refine ⟨CreditorIdentifier.exists_ofParts_eq_ok_iff,
      fun _ => CreditorIdentifier.ofParts_eq_error_iff, ?_⟩
    intro fault h
    cases CreditorIdentifier.ofParts_eq_error_iff.1 h with
    | country h => cases h

/-- An IBAN that is made, so that its BBAN follows the rule of a country, one that fails for its
country though its BBAN is missing, and a creditor identifier that fails for its business code
though its national identifier is of no use. -/
theorem made_or_first_fault_samples :
    ((∃ x, Iban.ofParts (.code " gb ") (some "west 123456 98765432") .bban = .ok x) ∧
      ∃ country, (CountryArgument.code " gb ").Means country ∧
        ∃ rule ∈ Registry.bban.rules, rule.country = country ∧
          Spells rule.pattern.groups (canonicalChars "west 123456 98765432".toList)) ∧
    Iban.ofParts (.code " zz ") none .bban =
      .error (.rejected ⟨Iban.kind, " zz ", .unknownCountry⟩) ∧
    CreditorIdentifier.ofParts (.code "de") (some "z z") (some "") .creditor =
      .error (.rejected ⟨CreditorIdentifier.kind, "z z", .malformed⟩) := by
  refine ⟨?_, ?_, ?_⟩
  · have hmade : ∃ x, Iban.ofParts (.code " gb ") (some "west 123456 98765432") .bban = .ok x :=
      exists_eq_ok (by decide +kernel)
    obtain ⟨country, _, hcountry, ⟨⟩, hrule⟩ := ((made_or_first_fault _ _).1 _).1.1 hmade
    exact ⟨hmade, country, hcountry, hrule⟩
  · apply (((made_or_first_fault _ _).1 _).2.1 _).2
    exact .country (.unknown (Country.ofCode?_eq_none_iff.1 (by decide +kernel)))
  · have hcountry : ∃ country, (CountryArgument.code "de").Means country := by
      have hresolve : ∃ country, (CountryArgument.code "de").resolve "" = .ok country :=
        exists_eq_ok (by decide +kernel)
      simpa only [CountryArgument.resolve_eq_ok_iff] using hresolve
    obtain ⟨country, hcountry⟩ := hcountry
    apply (((made_or_first_fault _ _).2 _ _).2.1 _).2
    apply CreditorIdentifier.PartsFault.businessCode hcountry
    rw [CreditorIdentifier.isBusinessCode_iff]
    decide +kernel

end BankCodes
