import BankCodes.Proofs.CheckDigits.Issue
import BankCodes.Proofs.Pattern.Spelling
import BankCodes.Proofs.Stages
import BankCodes.Text.Canonical

/-!
# The examination of a candidate

Once the general form of a candidate is known, IBANs and creditor identifiers are examined alike:
the country of the code, the rule of the country, the body against the rule, and the check digits
against the body. `examine` puts these stages together. What can come of it is said once, in
`Genuine` for the segments that pass and in `Fault` for the first thing that is wrong with the
others (`examine_spec`).

The candidate itself plays no part in what is found: two candidates with the same segments fare
alike, up to the name in a rejection (`examine_about`).
-/

namespace BankCodes

theorem Rule.accepts_iff_spells (rule : Rule) (body : String) :
    rule.accepts body = true ↔ Pattern.Spells rule.pattern.groups body.toList :=
  Pattern.accepts_iff_spells

/-- The failure, told of another candidate. Only a rejection names one. -/
def Failure.about (candidate : Candidate) : Failure → Failure
  | .rejected r => candidate.reject r.cause
  | failure => failure

namespace Candidate

open CheckDigits Pattern Text

/-! ## The stages -/

/-- Country, rule, body and check digits, in this order. -/
def examine (candidate : Candidate) (registry : Registry) (code digits body : List Char) :
    Except Failure (Country × String) := do
  let country ← candidate.country code
  let rule ← candidate.rule registry country
  candidate.follow rule (String.ofList body)
  let checkDigits ← checkDigitsOf country (String.ofList body)
  candidate.ensure (digits == checkDigits.toList) .wrongCheckDigits
  return (country, checkDigits)

/-! ## The name of the candidate -/

section About

variable (candidate other : Candidate)

theorem ensure_about (condition : Bool) (cause : Rejection.Cause) :
    (candidate.ensure condition cause).mapError (.about other) = other.ensure condition cause := by
  cases condition <;> rfl

theorem country_about (code : List Char) :
    (candidate.country code).mapError (.about other) = other.country code := by
  unfold country
  cases Country.ofChars? code <;> rfl

theorem rule_about (registry : Registry) (country : Country) :
    (candidate.rule registry country).mapError (.about other) = other.rule registry country := by
  unfold rule
  cases registry.lookup country <;> rfl

/-- The engine of the check digits knows of no candidate. -/
theorem checkDigitsOf_about (country : Country) (body : String) :
    (checkDigitsOf country body).mapError (.about other) = checkDigitsOf country body := by
  unfold checkDigitsOf
  cases CheckDigits.compute _ <;> rfl

/-- Two candidates with the same segments fare alike. -/
theorem examine_about (registry : Registry) (code digits body : List Char) :
    (candidate.examine registry code digits body).mapError (.about other) =
      other.examine registry code digits body := by
  unfold examine follow
  simp only [mapError_bind, ensure_about, country_about, rule_about, checkDigitsOf_about]
  rfl

end About

/-! ## Outcomes -/

theorem ensure_bind (candidate : Candidate) (condition : Bool) (cause : Rejection.Cause)
    (next : Unit → Except Failure α) :
    (candidate.ensure condition cause >>= next) =
      if condition then next () else .error (candidate.reject cause) := by
  cases condition <;> rfl

theorem ensure_eq_ok_iff {candidate : Candidate} {condition : Bool} {cause : Rejection.Cause}
    {u : Unit} : candidate.ensure condition cause = .ok u ↔ condition = true := by
  cases condition with
  | false => exact ⟨nofun, nofun⟩
  | true => exact ⟨fun _ => rfl, fun _ => rfl⟩

theorem ensure_eq_error_iff {candidate : Candidate} {condition : Bool} {cause : Rejection.Cause}
    {failure : Failure} :
    candidate.ensure condition cause = .error failure ↔
      condition = false ∧ failure = candidate.reject cause := by
  cases condition with
  | false => exact ⟨fun h => ⟨rfl, (Except.error.inj h).symm⟩, fun h => h.2 ▸ rfl⟩
  | true => exact ⟨nofun, nofun⟩

/-- Digits and body that belong to a rule. The digits lie in the issued range, the body follows the
layout, and the number that body, code and digits write leaves the remainder 1. -/
structure Genuine (rule : Rule) (digits body : List Char) : Prop where
  twoDigits : TwoDigits digits
  lowest : 2 ≤ numeralValue digits
  highest : numeralValue digits ≤ 98
  follows : Spells rule.pattern.groups body
  remainder : writtenNumber rule.country.code.toList body digits % 97 = 1

/-- The first thing that is wrong with the segments of a candidate. -/
inductive Fault (registry : Registry) (code digits body : List Char) : Rejection.Cause → Prop where
  | unknownCountry :
      (∀ country : Country, country.code.toList ≠ code) →
      Fault registry code digits body .unknownCountry
  | unsupportedCountry {country : Country} :
      country.code.toList = code →
      (∀ rule ∈ registry.rules, rule.country ≠ country) →
      Fault registry code digits body (.unsupportedCountry country.code)
  | wrongStructure {rule : Rule} :
      rule ∈ registry.rules → rule.country.code.toList = code →
      ¬ Spells rule.pattern.groups body →
      Fault registry code digits body (.wrongStructure rule.label)
  | wrongCheckDigits {rule : Rule} :
      rule ∈ registry.rules → rule.country.code.toList = code →
      Spells rule.pattern.groups body → ¬ Genuine rule digits body →
      Fault registry code digits body .wrongCheckDigits

/-! ## What comes of it -/

/-- A body of a canonical text that follows a rule is not empty, and is of capitals and digits. -/
theorem capitals_of_follows {p : Pattern} {cs body : List Char} (h : Spells p.groups body)
    (hbody : ∀ c ∈ body, c ∈ canonicalChars cs) :
    body ≠ [] ∧ ∀ c ∈ body, c.isUpper = true ∨ c.isDigit = true := by
  refine ⟨ne_nil_of_spells h, fun c hc => ?_⟩
  rcases isAlphanum_or_space_of_spells h c hc with halphanum | rfl
  · exact isUpper_or_isDigit_of_mem_canonicalChars (hbody c hc) halphanum
  · -- the class of spaces has no use: blanks do not get into a canonical text
    have hblank := (of_mem_canonicalChars (hbody _ hc)).1
    cases hblank

/-- Digits are the computed ones if and only if they are genuine. -/
theorem Genuine.iff_issued {rule : Rule} {digits body : List Char} (hdigits : TwoDigits digits)
    (hfollows : Spells rule.pattern.groups body) :
    Genuine rule digits body ↔
      digits = padded 10 2 (issued rule.country.code.toList body) := by
  have hbounds := issued_bounds rule.country.code.toList body
  rw [hdigits.eq_padded_iff (by omega), eq_issued_iff hdigits]
  constructor
  · exact fun h => ⟨h.lowest, h.highest, h.remainder⟩
  · exact fun ⟨h₁, h₂, h₃⟩ => ⟨hdigits, h₁, h₂, hfollows, h₃⟩

/-- If the country has a rule, it is the body or the digits that are wrong. -/
theorem Fault.of_rule {registry : Registry} {rule : Rule} {digits body : List Char}
    {cause : Rejection.Cause} (hmem : rule ∈ registry.rules)
    (h : Fault registry rule.country.code.toList digits body cause) :
    (cause = .wrongStructure rule.label ∧ ¬ Spells rule.pattern.groups body) ∨
      (cause = .wrongCheckDigits ∧ Spells rule.pattern.groups body ∧
        ¬ Genuine rule digits body) := by
  have hsame : ∀ {country : Country}, country.code.toList = rule.country.code.toList →
      country = rule.country := fun h => Country.ext_code (String.toList_inj.1 h)
  rcases h with h | ⟨hcode, h⟩ | ⟨hother, hcode, h⟩ | ⟨hother, hcode, hfollows, h⟩
  · exact absurd rfl (h rule.country)
  · exact absurd (hsame hcode).symm (h rule hmem)
  · obtain rfl := Registry.eq_of_country_eq hmem hother (hsame hcode)
    exact .inl ⟨rfl, h⟩
  · obtain rfl := Registry.eq_of_country_eq hmem hother (hsame hcode)
    exact .inr ⟨rfl, hfollows, h⟩

/-- Nothing is wrong with segments that are genuine for the rule of their country. -/
theorem Fault.not_of_genuine {registry : Registry} {rule : Rule} {digits body : List Char}
    {cause : Rejection.Cause} (hmem : rule ∈ registry.rules) (hgenuine : Genuine rule digits body) :
    ¬ Fault registry rule.country.code.toList digits body cause := by
  intro hfault
  rcases hfault.of_rule hmem with ⟨-, h⟩ | ⟨-, -, h⟩
  · exact h hgenuine.follows
  · exact h hgenuine

/-- The outcomes of an examination. -/
inductive Examined (candidate : Candidate) (registry : Registry) (code digits body : List Char) :
    Except Failure (Country × String) → Prop where
  | passed {rule : Rule} :
      rule ∈ registry.rules → rule.country.code.toList = code → Genuine rule digits body →
      Examined candidate registry code digits body (.ok (rule.country, String.ofList digits))
  | failed {cause : Rejection.Cause} :
      Fault registry code digits body cause →
      Examined candidate registry code digits body (.error (candidate.reject cause))

/-- Every examination of two digits and a body of symbols has one of its outcomes. -/
theorem examine_spec (candidate : Candidate) (registry : Registry) (code : List Char)
    {digits body : List Char}
    (hdigits : TwoDigits digits) (hbody : body ≠ [])
    (hsymbols : ∀ c ∈ body, c.isAlphanum = true) :
    Examined candidate registry code digits body
      (candidate.examine registry code digits body) := by
  -- the country of the code
  unfold examine Candidate.country
  cases hcountry : Country.ofChars? code with
  | none => exact .failed (.unknownCountry (Country.ofChars?_eq_none_iff.1 hcountry))
  | some country =>
    have hcode : country.code.toList = code := by
      rw [Country.toList_code, Country.ofChars?_eq_some_iff.1 hcountry]
    -- the rule of the country
    show Examined _ _ _ _ _ (candidate.rule registry country >>= _)
    unfold Candidate.rule
    cases hrule : registry.lookup country with
    | none => exact .failed (.unsupportedCountry hcode (Registry.lookup_eq_none_iff.1 hrule))
    | some rule =>
      obtain ⟨hmem, rfl⟩ := Registry.lookup_eq_some_iff.1 hrule
      have haccepts := rule.accepts_iff_spells (String.ofList body)
      rw [String.toList_ofList] at haccepts
      have hissued : checkDigitsOf rule.country (String.ofList body) =
          .ok (String.ofList (padded 10 2 (issued rule.country.code.toList body))) := by
        rw [checkDigitsOf_eq (by rwa [String.toList_ofList]) (by rwa [String.toList_ofList]),
          String.toList_ofList]
      -- the body against the rule
      show Examined _ _ _ _ _ (candidate.follow rule (String.ofList body) >>= _)
      rw [follow, ensure_bind, hissued]
      split
      · next h =>
        have hgenuine := Genuine.iff_issued hdigits (haccepts.1 h)
        -- the digits against those computed anew
        show Examined _ _ _ _ _ (candidate.ensure (digits == (String.ofList _).toList) _ >>= _)
        rw [String.toList_ofList, ensure_bind]
        split
        · next heq =>
          have heq := eq_of_beq heq
          rw [← heq]
          exact .passed hmem hcode (hgenuine.2 heq)
        · next hne =>
          refine .failed (.wrongCheckDigits hmem hcode (haccepts.1 h) fun hg => hne ?_)
          exact beq_iff_eq.2 (hgenuine.1 hg)
      · next h => exact .failed (.wrongStructure hmem hcode fun hs => h (haccepts.2 hs))

/-- If the body follows the rule of the country, the digits decide, by being those that are computed
anew. -/
theorem examine_of_follows (candidate : Candidate) {registry : Registry} {rule : Rule}
    {digits body : List Char} (hmem : rule ∈ registry.rules) (hdigits : TwoDigits digits)
    (hbody : body ≠ []) (hsymbols : ∀ c ∈ body, c.isAlphanum = true)
    (hfollows : Spells rule.pattern.groups body) :
    candidate.examine registry rule.country.code.toList digits body =
      if digits = padded 10 2 (issued rule.country.code.toList body) then
        .ok (rule.country, String.ofList digits)
      else .error (candidate.reject .wrongCheckDigits) := by
  have hissued := Genuine.iff_issued hdigits hfollows
  have hexamined := examine_spec candidate registry rule.country.code.toList hdigits hbody hsymbols
  revert hexamined
  generalize candidate.examine _ _ _ _ = res
  rintro (⟨hother, hcode, hgenuine⟩ | hfault)
  · have hsame := Country.ext_code (String.toList_inj.1 hcode)
    obtain rfl := Registry.eq_of_country_eq hmem hother hsame
    rw [if_pos (hissued.1 hgenuine)]
  · rcases hfault.of_rule hmem with ⟨-, h⟩ | ⟨rfl, -, h⟩
    · exact absurd hfollows h
    · rw [if_neg (mt hissued.2 h)]

end Candidate

end BankCodes
