import BankCodes.CreditorIdentifier
import BankCodes.Proofs.Iban.Acceptance

/-!
# Which texts are creditor identifiers

A creditor identifier is read like an IBAN that has a business code put in behind its check digits:

    parse input = Iban.parse (input without the business code), with the business code put in

for every text of the general form, in whichever registry, and with the same cause if there is a
rejection (`parse_eq_parse_iban`). So everything known of IBANs carries over.

* `form_accepts_iff`: the general form, `[A-Z]{2}[0-9]{2}[A-Z0-9]{3}[A-Z0-9]{1,28}` on canonical
  texts;
* `parse_eq_ok_iff`: a text is read as a creditor identifier if and only if this is valid and the
  text is one way to type it;
* `parse_iff_parse_without_businessCode`: the outcome for every text, and that it does not depend
  on the business code.
-/

namespace BankCodes.CreditorIdentifier

open Candidate CheckDigits Pattern Text

/-! ## The general form -/

/-- Two capital letters, two digits, and four to 31 capitals and digits: a business code of three
and a national identifier. -/
structure WellFormed (cs : List Char) : Prop where
  letters : ∀ c ∈ cs.take 2, c.isUpper = true
  digits : ∀ c ∈ (cs.drop 2).take 2, c.isDigit = true
  symbols : ∀ c ∈ cs.drop 4, c.isUpper = true ∨ c.isDigit = true
  lt_length : 7 < cs.length
  length_le : cs.length ≤ 35

/-- The form of creditor identifiers admits small letters, but a canonical text has none. -/
theorem form_accepts_iff (s : String) :
    form.accepts (String.ofList (canonicalChars s.toList)) = true ↔
      WellFormed (canonicalChars s.toList) := by
  have hgroups : form.groups =
      [.exactly 2 .upper, .exactly 2 .digit, .exactly 3 .alphanumeric, .upTo 28 .alphanumeric] :=
    rfl
  rw [accepts_iff_spells, String.toList_ofList, hgroups, spells_cons_exact rfl,
    spells_cons_exact rfl, spells_cons_exact rfl, spells_singleton]
  simp only [Group.Admits, Group.count_exactly, Group.kind_exactly, Group.count_upTo,
    Group.kind_upTo, Group.exact_upTo, List.drop_drop, List.length_drop, Bool.false_eq_true,
    if_false]
  have hcut : (canonicalChars s.toList).drop 4 =
      ((canonicalChars s.toList).drop 4).take 3 ++ (canonicalChars s.toList).drop 7 := by
    rw [← List.drop_drop (i := 3) (j := 4), List.take_append_drop]
  constructor
  · rintro ⟨-, hletters, -, hdigits, -, hcode, hbody, hlen⟩
    refine ⟨hletters, hdigits, fun c hc => ?_, by omega, by omega⟩
    apply isUpper_or_isDigit_of_mem_canonicalChars (List.mem_of_mem_drop hc)
    rw [hcut, List.mem_append] at hc
    exact hc.elim (hcode c) (hbody c)
  · rintro ⟨hletters, hdigits, hsymbols, hlt, hle⟩
    have hall : ∀ c ∈ (canonicalChars s.toList).drop 4, c.isAlphanum = true := fun c hc =>
      isAlphanum_of_capital (hsymbols c hc)
    rw [hcut] at hall
    exact ⟨by omega, hletters, by omega, hdigits, by omega,
      fun c hc => hall c (List.mem_append_left _ hc),
      fun c hc => hall c (List.mem_append_right _ hc), by omega⟩

/-! ## The segments -/

/-- Four segments are cut out of their text again. -/
theorem cut_append {code digits business : List Char} (hcode : code.length = 2)
    (hdigits : digits.length = 2) (hbusiness : business.length = 3) (body : List Char) :
    (code ++ digits ++ business ++ body).take 2 = code ∧
      ((code ++ digits ++ business ++ body).drop 2).take 2 = digits ∧
      ((code ++ digits ++ business ++ body).drop 4).take 3 = business ∧
      (code ++ digits ++ business ++ body).drop 7 = body := by
  rw [List.append_assoc]
  obtain ⟨htake, hmiddle, hdrop⟩ := Iban.cut_append hcode hdigits (business ++ body)
  refine ⟨htake, hmiddle, ?_, ?_⟩
  · rw [hdrop, List.take_left' hbusiness]
  · rw [← List.drop_drop (i := 3) (j := 4), hdrop, List.drop_left' hbusiness]

/-- The general form, said of the four segments. -/
theorem wellFormed_append {code digits business body : List Char} (hcode : code.length = 2)
    (hdigits : digits.length = 2) (hbusiness : business.length = 3) :
    WellFormed (code ++ digits ++ business ++ body) ↔
      (∀ c ∈ code, c.isUpper = true) ∧ (∀ c ∈ digits, c.isDigit = true) ∧
        (∀ c ∈ business, c.isUpper = true ∨ c.isDigit = true) ∧
        (∀ c ∈ body, c.isUpper = true ∨ c.isDigit = true) ∧ 1 ≤ body.length ∧ body.length ≤ 28 := by
  obtain ⟨htake, hmiddle, hdrop⟩ := Iban.cut_append hcode hdigits (business ++ body)
  have hlen : (code ++ digits ++ (business ++ body)).length = 7 + body.length := by
    simp only [List.length_append, hcode, hdigits, hbusiness]
    omega
  rw [List.append_assoc]
  constructor
  · intro ⟨hletters, hnumber, hsymbols, hlt, hle⟩
    rw [htake] at hletters
    rw [hmiddle] at hnumber
    rw [hdrop] at hsymbols
    exact ⟨hletters, hnumber, fun c hc => hsymbols c (List.mem_append_left _ hc),
      fun c hc => hsymbols c (List.mem_append_right _ hc), by omega, by omega⟩
  · intro ⟨hletters, hnumber, hcapitals, hbody, hlt, hle⟩
    refine ⟨?_, ?_, ?_, by omega, by omega⟩
    · rwa [htake]
    · rwa [hmiddle]
    · rw [hdrop]
      exact fun c hc => (List.mem_append.1 hc).elim (hcapitals c) (hbody c)

/-- A well-formed text is four segments. -/
theorem WellFormed.exists_segments {cs : List Char} (h : WellFormed cs) :
    ∃ code digits business body, cs = code ++ digits ++ business ++ body ∧
      code.length = 2 ∧ digits.length = 2 ∧ business.length = 3 := by
  have := h.lt_length
  refine ⟨cs.take 2, (cs.drop 2).take 2, (cs.drop 4).take 3, cs.drop 7, ?_, ?_, ?_, ?_⟩
  · rw [List.append_assoc, ← List.drop_drop (i := 3) (j := 4), List.take_append_drop, Iban.segments]
  all_goals
    simp only [List.length_take, List.length_drop]
    omega

/-- A well-formed text is of capitals and digits throughout. -/
theorem WellFormed.capitals {cs : List Char} (h : WellFormed cs) :
    ∀ c ∈ cs, c.isUpper = true ∨ c.isDigit = true := by
  intro c hc
  rw [← Iban.segments cs, List.mem_append, List.mem_append] at hc
  rcases hc with (hc | hc) | hc
  · exact .inl (h.letters c hc)
  · exact .inr (h.digits c hc)
  · exact h.symbols c hc

@[simp] theorem toList_text (x : CreditorIdentifier) :
    x.text.toList = x.country.code.toList ++ x.checkDigits.toList ++ x.businessCode.toList ++
      x.nationalId.toList := by
  simp [text]

/-! ## Without the business code -/

/-- The segments of a creditor identifier without its business code. -/
def withoutBusinessCode (x : CreditorIdentifier) : Iban := ⟨x.country, x.checkDigits, x.nationalId⟩

/-- The segments of an IBAN with a business code put in. -/
def withBusinessCode (business : String) (x : Iban) : CreditorIdentifier :=
  ⟨x.country, x.checkDigits, business, x.bban⟩

/-- What is left of a well-formed text without its business code has the general form of IBANs. -/
theorem WellFormed.withoutBusinessCode {code digits business body : List Char}
    (hcode : code.length = 2) (hdigits : digits.length = 2) (hbusiness : business.length = 3)
    (h : WellFormed (code ++ digits ++ business ++ body)) :
    Iban.WellFormed (code ++ digits ++ body) := by
  obtain ⟨hletters, hnumber, -, hbody, hlt, hle⟩ :=
    (wellFormed_append hcode hdigits hbusiness).1 h
  exact (Iban.wellFormed_append hcode hdigits).2 ⟨hletters, hnumber, hbody, hlt, by omega⟩

/-- Reading is the test of the general form, followed by the examination. -/
theorem parse_eq_examine (input : String) (registry : Registry) {cs : List Char}
    (hcs : canonicalChars input.toList = cs) :
    parse input registry =
      if form.accepts (String.ofList cs) then do
        let (country, digits) ← Candidate.examine ⟨kind, input⟩ registry (cs.take 2)
          ((cs.drop 2).take 2) (cs.drop 7)
        return ⟨country, digits, String.ofList ((cs.drop 4).take 3), String.ofList (cs.drop 7)⟩
      else .error (.rejected ⟨kind, input, .malformed⟩) := by
  subst hcs
  show (Candidate.ensure ⟨kind, input⟩ _ _ >>= _) = _
  rw [ensure_bind]
  unfold examine
  simp only [bind_assoc, pure_bind]
  rfl

theorem parse_of_not_wellFormed {input : String} {registry : Registry}
    (h : ¬ WellFormed (canonicalChars input.toList)) :
    parse input registry = .error (.rejected ⟨kind, input, .malformed⟩) := by
  rw [parse_eq_examine input registry rfl, if_neg (mt (form_accepts_iff input).1 h)]

/-- A well-formed text is read as the IBAN without the business code is. -/
theorem parse_eq_parse_iban {input : String} {code digits business body : List Char}
    (hcs : canonicalChars input.toList = code ++ digits ++ business ++ body)
    (hcode : code.length = 2) (hdigits : digits.length = 2) (hbusiness : business.length = 3)
    (hwell : WellFormed (canonicalChars input.toList)) (registry : Registry) :
    parse input registry =
      ((Iban.parse (String.ofList (code ++ digits ++ body)) registry).map
        (withBusinessCode (String.ofList business))).mapError (.about ⟨kind, input⟩) := by
  have haccepts := (form_accepts_iff input).2 hwell
  have hwell' : Iban.WellFormed (code ++ digits ++ body) :=
    (hcs ▸ hwell).withoutBusinessCode hcode hdigits hbusiness
  -- the text without the business code is its own canonical form
  have hcs' := canonicalChars_ofList hwell'.capitals
  have haccepts' := (Iban.form_accepts_iff (String.ofList (code ++ digits ++ body))).2
    (hcs'.symm ▸ hwell')
  rw [hcs'] at haccepts'
  rw [hcs] at haccepts
  obtain ⟨htake, hmiddle, hthree, hdrop⟩ := cut_append hcode hdigits hbusiness body
  obtain ⟨htake', hmiddle', hdrop'⟩ := Iban.cut_append hcode hdigits body
  rw [parse_eq_examine input registry hcs, Iban.parse_eq_examine _ registry hcs',
    if_pos haccepts, if_pos haccepts', htake, hmiddle, hthree, hdrop, htake', hmiddle', hdrop',
    ← examine_about ⟨Iban.kind, String.ofList (code ++ digits ++ body)⟩ ⟨kind, input⟩]
  cases Candidate.examine _ registry code digits body <;> rfl

section Segments

variable {input : String} {code digits business body : List Char}
  (hcs : canonicalChars input.toList = code ++ digits ++ business ++ body)
  (hcode : code.length = 2) (hdigits : digits.length = 2) (hbusiness : business.length = 3)
  (hwell : WellFormed (canonicalChars input.toList)) {registry : Registry}
include hcs hcode hdigits hbusiness hwell

/-- A well-formed text is accepted with the segments that it has as an IBAN without the business
code. -/
theorem parse_eq_ok_iff_parse_iban {y : CreditorIdentifier} :
    parse input registry = .ok y ↔
      y.businessCode = String.ofList business ∧
        Iban.parse (String.ofList (code ++ digits ++ body)) registry =
          .ok y.withoutBusinessCode := by
  rw [parse_eq_parse_iban hcs hcode hdigits hbusiness hwell registry]
  cases Iban.parse (String.ofList (code ++ digits ++ body)) registry with
  | error failure => exact ⟨nofun, fun h => nomatch h.2⟩
  | ok x =>
    show Except.ok (withBusinessCode (String.ofList business) x) = .ok y ↔ _
    constructor
    · rintro ⟨⟩
      exact ⟨rfl, rfl⟩
    · rintro ⟨hsame, ⟨⟩⟩
      rw [← hsame]
      rfl

/-- A well-formed text is rejected for the cause for which it is as an IBAN without the business
code. -/
theorem parse_eq_error_iff_parse_iban {failure : Failure} :
    parse input registry = .error failure ↔
      ∃ cause, failure = .rejected ⟨kind, input, cause⟩ ∧
        Iban.parse (String.ofList (code ++ digits ++ body)) registry =
          .error (.rejected ⟨Iban.kind, String.ofList (code ++ digits ++ body), cause⟩) := by
  rw [parse_eq_parse_iban hcs hcode hdigits hbusiness hwell registry]
  cases hiban : Iban.parse (String.ofList (code ++ digits ++ body)) registry with
  | ok x =>
    constructor
    · rintro ⟨⟩
    · rintro ⟨cause, -, ⟨⟩⟩
  | error failure' =>
    obtain ⟨cause, rfl, -⟩ := Iban.exists_cause_of_parse_eq_error hiban
    show Except.error (.rejected ⟨kind, input, cause⟩) = .error failure ↔ _
    constructor
    · rintro ⟨⟩
      exact ⟨cause, rfl, rfl⟩
    · rintro ⟨_, rfl, ⟨⟩⟩
      rfl

end Segments

/-- What is read as no creditor identifier is rejected. -/
theorem exists_rejected {input : String} {registry : Registry}
    (h : ∀ y, parse input registry ≠ .ok y) :
    ∃ cause, parse input registry = .error (.rejected ⟨kind, input, cause⟩) := by
  by_cases hwell : WellFormed (canonicalChars input.toList)
  · obtain ⟨code, digits, business, body, hcs, hcode, hdigits, hbusiness⟩ := hwell.exists_segments
    cases hparse : parse input registry with
    | ok y => exact absurd hparse (h y)
    | error failure =>
      obtain ⟨cause, rfl, -⟩ :=
        (parse_eq_error_iff_parse_iban hcs hcode hdigits hbusiness hwell).1 hparse
      exact ⟨cause, rfl⟩
  · exact ⟨_, parse_of_not_wellFormed hwell⟩

/-- A text is rejected for its form exactly if it does not have the general form. -/
theorem parse_malformed_iff {input : String} {registry : Registry} :
    (∃ r, parse input registry = .error (.rejected r) ∧ r.cause = .malformed) ↔
      ¬ WellFormed (canonicalChars input.toList) := by
  constructor
  · rintro ⟨r, hr, hcause⟩ hwell
    obtain ⟨code, digits, business, body, hcs, hcode, hdigits, hbusiness⟩ := hwell.exists_segments
    have hwell' := (hcs ▸ hwell).withoutBusinessCode hcode hdigits hbusiness
    obtain ⟨cause, hfailure, hiban⟩ :=
      (parse_eq_error_iff_parse_iban hcs hcode hdigits hbusiness hwell).1 hr
    obtain ⟨_, ⟨⟩, hfault⟩ := Iban.exists_cause_of_parse_eq_error hiban
    rw [canonicalChars_ofList hwell'.capitals] at hfault
    cases hfailure
    exact hfault.ne_malformed hwell' hcause
  · intro hnot
    exact ⟨_, parse_of_not_wellFormed hnot, rfl⟩

/-- If the national identifier follows the rule of the country and is not too long, the digits
decide. -/
theorem parse_of_follows {input : String} {registry : Registry} {rule : Rule}
    {digits business body : List Char} (hmem : rule ∈ registry.rules)
    (hcs : canonicalChars input.toList = rule.country.code.toList ++ digits ++ business ++ body)
    (hdigits : TwoDigits digits) (hlen : business.length = 3)
    (hbusiness : ∀ c ∈ business, c.isAlphanum = true) (hle : body.length ≤ 28)
    (hfollows : Spells rule.pattern.groups body) :
    parse input registry =
      if digits = padded 10 2 (issued rule.country.code.toList body) then
        .ok ⟨rule.country, String.ofList digits, String.ofList business, String.ofList body⟩
      else .error (.rejected ⟨kind, input, .wrongCheckDigits⟩) := by
  have hcode : rule.country.code.toList.length = 2 := by simp
  have hin : ∀ c ∈ business ++ body, c ∈ canonicalChars input.toList := by
    intro c hc
    rw [hcs, List.append_assoc]
    exact List.mem_append_right _ hc
  obtain ⟨hne, hcapitals⟩ := capitals_of_follows hfollows fun c hc =>
    hin c (List.mem_append_right _ hc)
  have hwell : WellFormed (rule.country.code.toList ++ digits ++ business ++ body) :=
    (wellFormed_append hcode hdigits.length_eq hlen).2 ⟨Country.isUpper_of_mem_code,
      hdigits.digits, fun c hc => isUpper_or_isDigit_of_mem_canonicalChars
        (hin c (List.mem_append_left _ hc)) (hbusiness c hc),
      hcapitals, List.length_pos_iff.2 hne, hle⟩
  have hwell' := hwell.withoutBusinessCode hcode hdigits.length_eq hlen
  -- the text without the business code is its own canonical form
  have hcs' := canonicalChars_ofList hwell'.capitals
  rw [parse_eq_parse_iban hcs hcode hdigits.length_eq hlen (hcs ▸ hwell),
    Iban.parse_of_follows hmem hcs' hdigits (Nat.le_trans hle (by decide)) hfollows]
  split <;> rfl

/-! ## Valid creditor identifiers -/

/-- A creditor identifier of a registry. -/
structure Valid (registry : Registry) (y : CreditorIdentifier) : Prop where
  businessCode_length : y.businessCode.toList.length = 3
  businessCode_capitals : ∀ c ∈ y.businessCode.toList, c.isUpper = true ∨ c.isDigit = true
  nationalId_length_le : y.nationalId.toList.length ≤ 28
  withoutBusinessCode : y.withoutBusinessCode.Valid registry

theorem toList_text_withoutBusinessCode (y : CreditorIdentifier) :
    y.withoutBusinessCode.text.toList =
      y.country.code.toList ++ y.checkDigits.toList ++ y.nationalId.toList :=
  Iban.toList_text _

theorem Valid.checkDigits_length {registry : Registry} {y : CreditorIdentifier}
    (h : y.Valid registry) : y.checkDigits.toList.length = 2 := by
  obtain ⟨rule, -, -, hgenuine⟩ := h.withoutBusinessCode.genuine
  exact hgenuine.twoDigits.length_eq

/-- The text of a valid creditor identifier has the general form. -/
theorem Valid.wellFormed {registry : Registry} {y : CreditorIdentifier} (h : y.Valid registry) :
    WellFormed y.text.toList := by
  have hwell := h.withoutBusinessCode.wellFormed
  rw [toList_text_withoutBusinessCode,
    Iban.wellFormed_append (by simp) h.checkDigits_length] at hwell
  obtain ⟨hletters, hnumber, hbody, hlt, -⟩ := hwell
  rw [toList_text, wellFormed_append (by simp) h.checkDigits_length h.businessCode_length]
  exact ⟨hletters, hnumber, h.businessCode_capitals, hbody, hlt, h.nationalId_length_le⟩

/-- A text is read as a creditor identifier if and only if this is valid and its text is the
canonical form. -/
theorem parse_eq_ok_iff {input : String} {registry : Registry} {y : CreditorIdentifier} :
    parse input registry = .ok y ↔ y.Valid registry ∧ y.text = canonical input := by
  constructor
  · intro h
    have hwell : WellFormed (canonicalChars input.toList) := by
      apply Classical.byContradiction
      intro hnot
      rw [parse_of_not_wellFormed hnot] at h
      cases h
    obtain ⟨code, digits, business, body, hcs, hcode, hdigits, hbusiness⟩ := hwell.exists_segments
    obtain ⟨-, -, hcapitals, -, -, hle⟩ :=
      (wellFormed_append hcode hdigits hbusiness).1 (hcs ▸ hwell)
    have hwell' := (hcs ▸ hwell).withoutBusinessCode hcode hdigits hbusiness
    obtain ⟨hsame, hiban⟩ :=
      (parse_eq_ok_iff_parse_iban hcs hcode hdigits hbusiness hwell).1 h
    obtain ⟨hvalid, htext⟩ := (Iban.parse_ofList_eq_ok_iff hwell'.capitals).1 hiban
    obtain ⟨hcode', hdigits', hbody'⟩ := hvalid.segments_eq hcode hdigits htext
    have hbusiness' : y.businessCode.toList = business := by rw [hsame, String.toList_ofList]
    refine ⟨⟨?_, ?_, ?_, hvalid⟩, ?_⟩
    · rw [hbusiness']
      exact hbusiness
    · rw [hbusiness']
      exact hcapitals
    · show y.withoutBusinessCode.bban.toList.length ≤ 28
      rw [hbody']
      exact hle
    · rw [← String.toList_inj, toList_canonical, hcs, toList_text, hbusiness', ← hcode', ← hdigits',
        ← hbody']
      rfl
  · intro ⟨hvalid, htext⟩
    have hcs : canonicalChars input.toList = y.text.toList := by rw [htext, toList_canonical]
    have hwell : WellFormed (canonicalChars input.toList) := hcs ▸ hvalid.wellFormed
    rw [toList_text] at hcs
    have hwell' := (hcs ▸ hwell).withoutBusinessCode (by simp) hvalid.checkDigits_length
      hvalid.businessCode_length
    have hiban : Iban.parse (String.ofList (y.country.code.toList ++ y.checkDigits.toList ++
        y.nationalId.toList)) registry = .ok y.withoutBusinessCode :=
      (Iban.parse_ofList_eq_ok_iff hwell'.capitals).2
        ⟨hvalid.withoutBusinessCode, toList_text_withoutBusinessCode y⟩
    exact (parse_eq_ok_iff_parse_iban hcs (by simp) hvalid.checkDigits_length
      hvalid.businessCode_length hwell).2 ⟨String.ofList_toList.symm, hiban⟩

/-! ## The contract of reading -/

/-- A text is rejected for its form exactly if it is not two letters, two digits, a business code of
three capitals and digits, and one to 28 more of them. Any other text fares like the IBAN without
the business code: it is accepted with the same segments, or rejected for the same cause. So every
other business code in its place gives the same outcome. -/
theorem parse_iff_parse_without_businessCode (input : String) (registry : Registry) :
    ((∃ r, parse input registry = .error (.rejected r) ∧ r.cause = .malformed) ↔
      ¬ WellFormed (canonicalChars input.toList)) ∧
    ∀ code digits business body : List Char,
      canonicalChars input.toList = code ++ digits ++ business ++ body →
      code.length = 2 → digits.length = 2 → business.length = 3 →
      WellFormed (canonicalChars input.toList) →
      ((∃ y, parse input registry = .ok y) ↔
        ∃ x, Iban.parse (String.ofList (code ++ digits ++ body)) registry = .ok x) ∧
      (∀ y, parse input registry = .ok y → y.businessCode = String.ofList business ∧
        Iban.parse (String.ofList (code ++ digits ++ body)) registry =
          .ok y.withoutBusinessCode) ∧
      (∀ failure, parse input registry = .error failure →
        ∃ cause, failure = .rejected ⟨kind, input, cause⟩ ∧
          Iban.parse (String.ofList (code ++ digits ++ body)) registry =
            .error (.rejected ⟨Iban.kind, String.ofList (code ++ digits ++ body), cause⟩)) ∧
      ∀ (other : String) (business' : List Char),
        canonicalChars other.toList = code ++ digits ++ business' ++ body →
        business'.length = 3 → (∀ c ∈ business', c.isUpper = true ∨ c.isDigit = true) →
        (∀ y, parse input registry = .ok y →
          parse other registry = .ok { y with businessCode := String.ofList business' }) ∧
        (∀ cause, parse input registry = .error (.rejected ⟨kind, input, cause⟩) →
          parse other registry = .error (.rejected ⟨kind, other, cause⟩)) := by
  refine ⟨parse_malformed_iff, ?_⟩
  intro code digits business body hcs hcode hdigits hbusiness hwell
  have hok := @parse_eq_ok_iff_parse_iban _ _ _ _ _ hcs hcode hdigits hbusiness hwell registry
  have herror := @parse_eq_error_iff_parse_iban _ _ _ _ _ hcs hcode hdigits hbusiness hwell registry
  refine ⟨⟨?_, ?_⟩, ?_, ?_, ?_⟩
  · intro ⟨y, hy⟩
    exact ⟨_, (hok.1 hy).2⟩
  · intro ⟨x, hx⟩
    exact ⟨withBusinessCode (String.ofList business) x, hok.2 ⟨rfl, hx⟩⟩
  · intro y hy
    exact hok.1 hy
  · intro failure hfailure
    exact herror.1 hfailure
  · intro other business' hcs' hbusiness' hcapitals'
    -- the other text is well-formed too, and leaves the same IBAN
    have hwell' : WellFormed (canonicalChars other.toList) := by
      rw [hcs, wellFormed_append hcode hdigits hbusiness] at hwell
      rw [hcs', wellFormed_append hcode hdigits hbusiness']
      exact ⟨hwell.1, hwell.2.1, hcapitals', hwell.2.2.2⟩
    constructor
    · intro y hy
      apply (parse_eq_ok_iff_parse_iban hcs' hcode hdigits hbusiness' hwell').2
      exact ⟨rfl, (hok.1 hy).2⟩
    · intro cause hrejected
      obtain ⟨_, ⟨⟩, hiban⟩ := herror.1 hrejected
      apply (parse_eq_error_iff_parse_iban hcs' hcode hdigits hbusiness' hwell').2
      exact ⟨cause, rfl, hiban⟩

/-- A text in groups, the same with another business code in mixed case, and a text whose national
identifier is missing. -/
theorem parse_iff_parse_without_businessCode_samples :
    (∃ y, parse "de98 ZZZ 0999 9999 999" .creditor = .ok y ∧
      Iban.parse "DE9809999999999" .creditor = .ok y.withoutBusinessCode ∧
      parse "DE98 b2c 0999 9999 999" .creditor = .ok { y with businessCode := "B2C" }) ∧
    ∃ r, parse "DE98 ZZZ" .creditor = .error (.rejected r) ∧ r.cause = .malformed := by
  have hwell : WellFormed (canonicalChars "de98 ZZZ 0999 9999 999".toList) :=
    (form_accepts_iff _).1 (by decide +kernel)
  have hshort : ¬ WellFormed (canonicalChars "DE98 ZZZ".toList) :=
    mt (form_accepts_iff _).2 (by decide +kernel)
  obtain ⟨hok, hsame, -, hother⟩ :=
    (parse_iff_parse_without_businessCode "de98 ZZZ 0999 9999 999" .creditor).2
      ['D', 'E'] ['9', '8'] ['Z', 'Z', 'Z'] ['0', '9', '9', '9', '9', '9', '9', '9', '9', '9', '9']
      (by decide +kernel) rfl rfl rfl hwell
  obtain ⟨y, hy⟩ := hok.2 (Iban.exists_parse_eq_ok (by decide +kernel))
  refine ⟨⟨y, hy, (hsame y hy).2, ?_⟩,
    (parse_iff_parse_without_businessCode "DE98 ZZZ" .creditor).1.2 hshort⟩
  have hcapitals : ∀ c ∈ ['B', '2', 'C'], c.isUpper = true ∨ c.isDigit = true := by simp
  exact (hother "DE98 b2c 0999 9999 999" ['B', '2', 'C'] (by decide +kernel) rfl hcapitals).1 y hy

end BankCodes.CreditorIdentifier
