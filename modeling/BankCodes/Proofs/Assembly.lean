import BankCodes.CountryArgument
import BankCodes.Proofs.Examination

/-!
# The making of an identifier from its parts

IBANs and creditor identifiers are made of parts alike: the country has a rule, the body in
canonical form follows the rule, and the check digits are those of country and body. `assemble` puts
these stages together, and `assemble_spec` says what comes of it. Check digits are made whenever the
body follows the rule: a canonical body that does has at least one character, and only capitals and
digits (`capitals_of_follows`).

The general form of the identifier is not looked at. Whether a body is longer than this form admits
is left to the rule.
-/

namespace BankCodes.Candidate

open CheckDigits Pattern Text

/-- The check digits for a body that follows the rule of its country. -/
def assemble (candidate : Candidate) (registry : Registry) (country : Country) (body : String) :
    Except Failure String := do
  let rule ← candidate.rule registry country
  candidate.follow rule body
  checkDigitsOf country body

/-- The outcomes of making check digits for a body. -/
inductive Assembled (candidate : Candidate) (registry : Registry) (country : Country)
    (body : List Char) : Except Failure String → Prop where
  | made {rule : Rule} {digits : List Char} :
      rule ∈ registry.rules → rule.country = country → Genuine rule digits body →
      Assembled candidate registry country body (.ok (String.ofList digits))
  | unsupportedCountry :
      (∀ rule ∈ registry.rules, rule.country ≠ country) →
      Assembled candidate registry country body
        (.error (candidate.reject (.unsupportedCountry country.code)))
  | wrongStructure {rule : Rule} :
      rule ∈ registry.rules → rule.country = country → ¬ Spells rule.pattern.groups body →
      Assembled candidate registry country body
        (.error (candidate.reject (.wrongStructure rule.label)))

/-- Making check digits for a canonical body has one of its outcomes. -/
theorem assemble_spec (candidate : Candidate) (registry : Registry) (country : Country)
    (input : String) :
    Assembled candidate registry country (canonicalChars input.toList)
      (candidate.assemble registry country (canonical input)) := by
  -- the rule of the country
  unfold assemble Candidate.rule
  cases hrule : registry.lookup country with
  | none => exact .unsupportedCountry (Registry.lookup_eq_none_iff.1 hrule)
  | some rule =>
    obtain ⟨hmem, rfl⟩ := Registry.lookup_eq_some_iff.1 hrule
    have haccepts := rule.accepts_iff_spells (canonical input)
    rw [toList_canonical] at haccepts
    -- the body against the rule
    show Assembled _ _ _ _ (candidate.follow rule (canonical input) >>= _)
    rw [follow, ensure_bind]
    split
    · next h =>
      have hfollows := haccepts.1 h
      obtain ⟨hne, hcapitals⟩ := capitals_of_follows hfollows fun _ => id
      obtain ⟨htwo, -⟩ :=
        padded_issued_spec rule.country.code.toList (canonicalChars input.toList)
      rw [checkDigitsOf_eq (by rwa [toList_canonical]) (by
        rw [toList_canonical]
        exact fun c hc => isAlphanum_of_capital (hcapitals c hc)), toList_canonical]
      exact .made hmem rfl ((Genuine.iff_issued htwo hfollows).2 rfl)
    · next h => exact .wrongStructure hmem rfl fun hs => h (haccepts.2 hs)

/-- The check digits that are made are those that make the body genuine. -/
theorem assemble_eq_ok_iff {candidate : Candidate} {registry : Registry} {country : Country}
    {input digits : String} :
    candidate.assemble registry country (canonical input) = .ok digits ↔
      ∃ rule ∈ registry.rules, rule.country = country ∧
        Genuine rule digits.toList (canonicalChars input.toList) := by
  have hspec := assemble_spec candidate registry country input
  constructor
  · intro h
    rw [h] at hspec
    cases hspec with
    | made hmem hcountry hgenuine =>
      exact ⟨_, hmem, hcountry, by rwa [String.toList_ofList]⟩
  · rintro ⟨rule, hmem, rfl, hgenuine⟩
    revert hspec
    generalize candidate.assemble registry rule.country (canonical input) = res
    rintro (⟨hmem', hcountry, hgenuine'⟩ | hnone | ⟨hmem', hcountry, hnot⟩)
    · -- the country has one rule, and the body has one pair of genuine digits
      obtain rfl := Registry.eq_of_country_eq hmem hmem' hcountry
      have hissued := (Genuine.iff_issued hgenuine.twoDigits hgenuine.follows).1 hgenuine
      have hissued' := (Genuine.iff_issued hgenuine'.twoDigits hgenuine'.follows).1 hgenuine'
      rw [hissued', ← hissued, String.ofList_toList]
    · exact absurd rfl (hnone rule hmem)
    · obtain rfl := Registry.eq_of_country_eq hmem hmem' hcountry
      exact absurd hgenuine.follows hnot

/-- What is wrong with a body of which check digits are to be made. -/
inductive BodyFault (registry : Registry) (country : Country) (body : List Char) :
    Rejection.Cause → Prop where
  | unsupportedCountry :
      (∀ rule ∈ registry.rules, rule.country ≠ country) →
      BodyFault registry country body (.unsupportedCountry country.code)
  | wrongStructure {rule : Rule} :
      rule ∈ registry.rules → rule.country = country → ¬ Spells rule.pattern.groups body →
      BodyFault registry country body (.wrongStructure rule.label)

section BodyFault

variable {registry : Registry} {country : Country} {body : List Char} {cause : Rejection.Cause}
  (h : BodyFault registry country body cause)
include h

/-- If anything is wrong with a body, it does not follow the rule of its country. -/
theorem BodyFault.not_spells {rule : Rule} (hmem : rule ∈ registry.rules)
    (hcountry : rule.country = country) : ¬ Spells rule.pattern.groups body := by
  cases h with
  | unsupportedCountry hnone => exact absurd hcountry (hnone rule hmem)
  | wrongStructure hother hother' hnot =>
    obtain rfl := Registry.eq_of_country_eq hmem hother (hother'.trans hcountry.symm)
    exact hnot

/-- One thing is wrong with a body at most. -/
theorem BodyFault.unique {cause' : Rejection.Cause}
    (h' : BodyFault registry country body cause') : cause = cause' := by
  cases h with
  | unsupportedCountry hnone =>
    cases h' with
    | unsupportedCountry => rfl
    | wrongStructure hmem hcountry => exact absurd hcountry (hnone _ hmem)
  | wrongStructure hmem hcountry =>
    cases h' with
    | unsupportedCountry hnone => exact absurd hcountry (hnone _ hmem)
    | wrongStructure hmem' hcountry' =>
      rw [Registry.eq_of_country_eq hmem hmem' (hcountry'.trans hcountry.symm)]

end BodyFault

/-- Check digits fail to be made for a fault of the body, and for nothing else: the engine does not
fail. -/
theorem assemble_eq_error_iff {candidate : Candidate} {registry : Registry} {country : Country}
    {input : String} {failure : Failure} :
    candidate.assemble registry country (canonical input) = .error failure ↔
      ∃ cause, BodyFault registry country (canonicalChars input.toList) cause ∧
        failure = candidate.reject cause := by
  have hspec := assemble_spec candidate registry country input
  generalize candidate.assemble registry country (canonical input) = result at hspec
  constructor
  · rintro rfl
    cases hspec with
    | unsupportedCountry hnone => exact ⟨_, .unsupportedCountry hnone, rfl⟩
    | wrongStructure hmem hcountry hnot => exact ⟨_, .wrongStructure hmem hcountry hnot, rfl⟩
  · rintro ⟨cause, hfault, rfl⟩
    cases hspec with
    | made hmem hcountry hgenuine => exact absurd hgenuine.follows (hfault.not_spells hmem hcountry)
    | unsupportedCountry hnone => rw [hfault.unique (.unsupportedCountry hnone)]
    | wrongStructure hmem hcountry hnot => rw [hfault.unique (.wrongStructure hmem hcountry hnot)]

/-- Check digits are made for every body that follows the rule of its country. -/
theorem exists_assemble_eq_ok_iff {candidate : Candidate} {registry : Registry} {country : Country}
    {input : String} :
    (∃ digits, candidate.assemble registry country (canonical input) = .ok digits) ↔
      ∃ rule ∈ registry.rules, rule.country = country ∧
        Spells rule.pattern.groups (canonicalChars input.toList) := by
  constructor
  · rintro ⟨digits, h⟩
    obtain ⟨rule, hmem, hcountry, hgenuine⟩ := assemble_eq_ok_iff.1 h
    exact ⟨rule, hmem, hcountry, hgenuine.follows⟩
  · rintro ⟨rule, hmem, hcountry, hfollows⟩
    cases h : candidate.assemble registry country (canonical input) with
    | ok digits => exact ⟨digits, rfl⟩
    | error failure =>
      obtain ⟨cause, hfault, -⟩ := assemble_eq_error_iff.1 h
      exact absurd hfollows (hfault.not_spells hmem hcountry)

theorem given_eq_error_iff {argument : String} {value : Option α} {failure : Failure} :
    given argument value = .error failure ↔ value = none ∧ failure = .missing argument := by
  cases value with
  | none => exact ⟨fun h => ⟨rfl, (Except.error.inj h).symm⟩, fun h => h.2 ▸ rfl⟩
  | some a => exact ⟨nofun, nofun⟩

theorem given_eq_ok_iff {argument : String} {value : Option α} {a : α} :
    given argument value = .ok a ↔ value = some a := by
  cases value with
  | none => exact ⟨nofun, nofun⟩
  | some b => exact ⟨fun h => congrArg some (Except.ok.inj h), fun h => by cases h; rfl⟩

end BankCodes.Candidate
