import BankCodes.Proofs.CreditorIdentifier.Acceptance

/-!
# Computed digits and valid digits

Check digits can be tested in two ways. `isValid` looks for the remainder 1 with the digits in their
place. IBANs and creditor identifiers compute the digits again, with zeros in their place, and
compare. The digits that `compute` gives are valid, but not the only ones, since digits that differ
by 97 leave the same remainder:

    valid = computed, or its alias: 00 for 97, 01 for 98, 99 for 02

The aliases are the digits that are never issued. Leaving these out makes the two ways agree.
-/

namespace BankCodes.CheckDigits

open Text

/-! ## Digits out of range -/

/-- Check digits, each with the digits that leave the same remainder in their place. -/
def aliases : List (List Char × List Char) :=
  [(['9', '7'], ['0', '0']), (['9', '8'], ['0', '1']), (['0', '2'], ['9', '9'])]

/-- The digits that are issued for no code and no body. -/
def neverIssued : List (List Char) := [['0', '0'], ['0', '1'], ['9', '9']]

/-- The aliases are the digits that differ by the modulus. -/
theorem mem_aliases_iff {issued ds : List Char} (hissued : TwoDigits issued) (h : TwoDigits ds)
    (hlowest : 2 ≤ numeralValue issued) (hhighest : numeralValue issued ≤ 98) :
    (issued, ds) ∈ aliases ↔
      numeralValue ds + 97 = numeralValue issued ∨ numeralValue ds = numeralValue issued + 97 := by
  have hlt := h.numeralValue_lt
  have haliases : aliases = [(padded 10 2 97, padded 10 2 0), (padded 10 2 98, padded 10 2 1),
    (padded 10 2 2, padded 10 2 99)] := by decide
  rw [haliases]
  simp (disch := omega) only [List.mem_cons, List.not_mem_nil, or_false, Prod.mk.injEq,
    hissued.eq_padded_iff, h.eq_padded_iff]
  omega

/-- The digits that are never issued are those out of the range of the others. -/
theorem not_mem_neverIssued_iff {ds : List Char} (h : TwoDigits ds) :
    ds ∉ neverIssued ↔ 2 ≤ numeralValue ds ∧ numeralValue ds ≤ 98 := by
  have hlt := h.numeralValue_lt
  have hnever : neverIssued = [padded 10 2 0, padded 10 2 1, padded 10 2 99] := by decide
  rw [hnever]
  simp (disch := omega) only [List.mem_cons, List.not_mem_nil, or_false, h.eq_padded_iff]
  omega

/-! ## The two ways -/

/-- What is valid is what was computed, or an alias of it. -/
theorem writtenNumber_mod_iff_aliases {code body ds : List Char} (h : TwoDigits ds) :
    writtenNumber code body ds % 97 = 1 ↔
      ds = padded 10 2 (issued code body) ∨ (padded 10 2 (issued code body), ds) ∈ aliases := by
  obtain ⟨hlowest, hhighest⟩ := issued_bounds code body
  obtain ⟨htwo, hvalue⟩ := padded_issued_spec code body
  rw [writtenNumber_mod_eq_one_iff h, h.eq_padded_iff (by omega),
    mem_aliases_iff htwo h (by omega) (by omega), hvalue]

/-- What was computed is what is valid, less what is never issued. -/
theorem eq_padded_issued_iff {code body ds : List Char} (h : TwoDigits ds) :
    ds = padded 10 2 (issued code body) ↔
      writtenNumber code body ds % 97 = 1 ∧ ds ∉ neverIssued := by
  have hbounds := issued_bounds code body
  rw [h.eq_padded_iff (by omega), eq_issued_iff h, not_mem_neverIssued_iff h]
  constructor
  · exact fun ⟨hlowest, hhighest, hone⟩ => ⟨hone, hlowest, hhighest⟩
  · exact fun ⟨hone, hlowest, hhighest⟩ => ⟨hlowest, hhighest, hone⟩

/-- A code of two symbols and a body of symbols have check digits from 02 to 98, which are valid in
their place. Other digits are valid only as their alias, so that in the range no others are, and the
digits computed are those that are valid and not among the never issued. It is by this test that an
IBAN or a creditor identifier whose body follows the rule of its country is accepted or rejected. -/
theorem isValid_iff_computed (code body : List Char) (hcode : code.length = 2) (hbody : body ≠ [])
    (hsymbols : ∀ c ∈ code ++ body, c.isAlphanum = true) :
    ∃ result : List Char,
      compute (String.ofList (code ++ ['0', '0'] ++ body)) = .ok (String.ofList result) ∧
      (TwoDigits result ∧ 2 ≤ numeralValue result ∧ numeralValue result ≤ 98) ∧
      isValid (String.ofList (code ++ result ++ body)) = .ok true ∧
      ∀ digits, TwoDigits digits → ∃ valid : Bool,
        isValid (String.ofList (code ++ digits ++ body)) = .ok valid ∧
        (valid = true ↔ digits = result ∨ (result, digits) ∈ aliases) ∧
        (2 ≤ numeralValue digits → numeralValue digits ≤ 98 → (valid = true ↔ digits = result)) ∧
        (digits = result ↔ valid = true ∧ digits ∉ neverIssued) ∧
        ∀ (input : String) (registry : Registry), ∀ rule ∈ registry.rules,
          rule.country.code.toList = code → rule.accepts (String.ofList body) = true →
          (canonicalChars input.toList = code ++ digits ++ body → body.length ≤ 30 →
            Iban.parse input registry =
              if valid = true ∧ digits ∉ neverIssued then
                .ok ⟨rule.country, String.ofList digits, String.ofList body⟩
              else .error (.rejected ⟨Iban.kind, input, .wrongCheckDigits⟩)) ∧
          ∀ business : List Char,
            canonicalChars input.toList = code ++ digits ++ business ++ body →
            business.length = 3 → (∀ c ∈ business, c.isAlphanum = true) → body.length ≤ 28 →
            CreditorIdentifier.parse input registry =
              if valid = true ∧ digits ∉ neverIssued then
                .ok ⟨rule.country, String.ofList digits, String.ofList business,
                  String.ofList body⟩
              else .error (.rejected ⟨CreditorIdentifier.kind, input, .wrongCheckDigits⟩) := by
  obtain ⟨hlowest, hhighest⟩ := issued_bounds code body
  obtain ⟨htwo, hvalue⟩ := padded_issued_spec code body
  have hvalid : ∀ {ds}, TwoDigits ds → isValid (String.ofList (code ++ ds ++ body)) =
      .ok (writtenNumber code body ds % 97 == 1) := fun h =>
    isValid_eq String.toList_ofList hcode h hbody hsymbols
  refine ⟨padded 10 2 (issued code body), ?_, ⟨htwo, by omega, by omega⟩, ?_, ?_⟩
  · exact compute_eq String.toList_ofList hcode hbody hsymbols
  · rw [hvalid htwo, (writtenNumber_mod_iff_aliases htwo).2 (.inl rfl)]
    rfl
  · intro digits hdigits
    have hissued := @eq_padded_issued_iff code body digits hdigits
    refine ⟨_, hvalid hdigits, ?_, ?_, ?_, ?_⟩
    · rw [beq_iff_eq]
      exact writtenNumber_mod_iff_aliases hdigits
    · intro hlow hhigh
      rw [beq_iff_eq, hissued, and_iff_left ((not_mem_neverIssued_iff hdigits).2 ⟨hlow, hhigh⟩)]
    · rw [beq_iff_eq]
      exact hissued
    · intro input registry rule hmem hcountry haccepts
      subst hcountry
      rw [Rule.accepts_iff_spells, String.toList_ofList] at haccepts
      simp only [beq_iff_eq, ← hissued]
      constructor
      · intro hcs hle
        exact Iban.parse_of_follows hmem hcs hdigits hle haccepts
      · intro business hcs hlen hbusiness hle
        exact CreditorIdentifier.parse_of_follows hmem hcs hdigits hlen hbusiness hle haccepts

/-- The digits 00 of an IBAN that are valid as the alias of 97 and nevertheless rejected, and the
digits of a creditor identifier that are accepted. -/
theorem isValid_iff_computed_samples :
    (∃ result, compute "GB00WEST12345698765453" = .ok (String.ofList result) ∧
      (result, ['0', '0']) ∈ aliases ∧
      Iban.parse "gb00 WEST 1234 5698 7654 53" .bban =
        .error (.rejected ⟨Iban.kind, "gb00 WEST 1234 5698 7654 53", .wrongCheckDigits⟩)) ∧
    ∃ country, CreditorIdentifier.parse "de98 ZZZ 0999 9999 999" .creditor =
      .ok ⟨country, "98", "ZZZ", "09999999999"⟩ := by
  constructor
  · let body := "WEST12345698765453".toList
    obtain ⟨result, hcompute, -, -, htest⟩ :=
      isValid_iff_computed ['G', 'B'] body rfl (by decide) (List.all_eq_true.1 (by decide))
    obtain ⟨valid, hvalid, haliases, -, hissued, hparse⟩ :=
      htest ['0', '0'] ⟨rfl, List.all_eq_true.1 rfl⟩
    obtain ⟨rule, hmem, hcode, haccepts⟩ : ∃ rule ∈ Registry.bban.rules,
        rule.country.code.toList = ['G', 'B'] ∧ rule.accepts (String.ofList body) = true := by
      decide +kernel
    have hone : (isValid (String.ofList (['G', 'B'] ++ ['0', '0'] ++ body))).toOption =
        some true := by
      decide +kernel
    have hnever : ['0', '0'] ∈ neverIssued := by decide
    rw [hvalid] at hone
    obtain rfl := Option.some.inj hone
    refine ⟨result, hcompute, ?_, ?_⟩
    · apply (haliases.1 rfl).resolve_left
      exact fun h => (hissued.1 h).2 hnever
    · rw [(hparse _ _ rule hmem hcode haccepts).1 (by decide +kernel) (by decide),
        if_neg fun h => h.2 hnever]
  · let body := "09999999999".toList
    obtain ⟨result, -, -, -, htest⟩ :=
      isValid_iff_computed ['D', 'E'] body rfl (by decide) (List.all_eq_true.1 (by decide))
    obtain ⟨valid, hvalid, -, -, -, hparse⟩ := htest ['9', '8'] ⟨rfl, List.all_eq_true.1 rfl⟩
    obtain ⟨rule, hmem, hcode, haccepts⟩ : ∃ rule ∈ Registry.creditor.rules,
        rule.country.code.toList = ['D', 'E'] ∧ rule.accepts (String.ofList body) = true := by
      decide +kernel
    have hone : (isValid (String.ofList (['D', 'E'] ++ ['9', '8'] ++ body))).toOption =
        some true := by
      decide +kernel
    rw [hvalid] at hone
    obtain rfl := Option.some.inj hone
    refine ⟨rule.country, ?_⟩
    rw [(hparse _ _ rule hmem hcode haccepts).2 ['Z', 'Z', 'Z'] (by decide +kernel) rfl
      (List.all_eq_true.1 (by decide)) (by decide), if_pos ⟨rfl, by decide⟩]
    rfl

end BankCodes.CheckDigits
