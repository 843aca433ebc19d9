import BankCodes.Iban
import BankCodes.Proofs.Examination

/-!
# Which texts are IBANs

`Iban.parse` brings a text to canonical form and examines it stage by stage. What it accepts can be
said without the stages: the code of a country with a rule, two digits from 02 to 98, and a body of
the layout of the country, such that the number written by body, code and digits leaves the
remainder 1 modulo 97.

* `form_accepts_iff`: the general form, `[A-Z]{2}[0-9]{2}[A-Z0-9]{1,30}` on canonical texts;
* `parse_spec`: every outcome of reading a text;
* `parse_eq_ok_iff`: a text is read as an IBAN if and only if this is valid and the text is one way
  to type it.
-/

namespace BankCodes.Iban

open Candidate CheckDigits Pattern Text

/-! ## The general form -/

/-- Two capital letters, two digits, and one to thirty capitals and digits. -/
structure WellFormed (cs : List Char) : Prop where
  letters : ∀ c ∈ cs.take 2, c.isUpper = true
  digits : ∀ c ∈ (cs.drop 2).take 2, c.isDigit = true
  body : ∀ c ∈ cs.drop 4, c.isUpper = true ∨ c.isDigit = true
  lt_length : 4 < cs.length
  length_le : cs.length ≤ 34

/-- The form of IBANs admits small letters in the body, but a canonical text has none. -/
theorem form_accepts_iff (s : String) :
    form.accepts (String.ofList (canonicalChars s.toList)) = true ↔
      WellFormed (canonicalChars s.toList) := by
  have hgroups : form.groups = [.exactly 2 .upper, .exactly 2 .digit, .upTo 30 .alphanumeric] := rfl
  rw [accepts_iff_spells, String.toList_ofList, hgroups, spells_cons_exact rfl,
    spells_cons_exact rfl, spells_singleton]
  simp only [Group.Admits, Group.count_exactly, Group.kind_exactly, Group.count_upTo,
    Group.kind_upTo, Group.exact_upTo, List.drop_drop, List.length_drop, Bool.false_eq_true,
    if_false]
  constructor
  · rintro ⟨-, hletters, -, hdigits, hbody, hlen⟩
    refine ⟨hletters, hdigits, fun c hc => ?_, by omega, by omega⟩
    exact isUpper_or_isDigit_of_mem_canonicalChars (List.mem_of_mem_drop hc) (hbody c hc)
  · intro ⟨hletters, hdigits, hbody, hlt, hle⟩
    refine ⟨by omega, hletters, by omega, hdigits, fun c hc => ?_, by omega⟩
    exact isAlphanum_of_capital (hbody c hc)

/-- The digits of a well-formed text are two. -/
theorem WellFormed.twoDigits {cs : List Char} (h : WellFormed cs) :
    TwoDigits ((cs.drop 2).take 2) := by
  refine ⟨?_, h.digits⟩
  have := h.lt_length
  rw [List.length_take, List.length_drop]
  omega

/-- Three segments are cut out of their text again. -/
theorem cut_append {code digits : List Char} (hcode : code.length = 2)
    (hdigits : digits.length = 2) (body : List Char) :
    (code ++ digits ++ body).take 2 = code ∧ ((code ++ digits ++ body).drop 2).take 2 = digits ∧
      (code ++ digits ++ body).drop 4 = body := by
  have hhead : (code ++ digits).length = 4 := by rw [List.length_append, hcode, hdigits]
  refine ⟨?_, ?_, List.drop_left' hhead⟩
  · rw [List.append_assoc, List.take_left' hcode]
  · rw [List.append_assoc, List.drop_left' hcode, List.take_left' hdigits]

/-- The general form, said of the three segments. -/
theorem wellFormed_append {code digits body : List Char} (hcode : code.length = 2)
    (hdigits : digits.length = 2) :
    WellFormed (code ++ digits ++ body) ↔
      (∀ c ∈ code, c.isUpper = true) ∧ (∀ c ∈ digits, c.isDigit = true) ∧
        (∀ c ∈ body, c.isUpper = true ∨ c.isDigit = true) ∧ 1 ≤ body.length ∧ body.length ≤ 30 := by
  obtain ⟨htake, hmiddle, hdrop⟩ := cut_append hcode hdigits body
  have hlen : (code ++ digits ++ body).length = 4 + body.length := by
    rw [List.length_append, List.length_append, hcode, hdigits]
  constructor
  · intro ⟨hletters, hnumber, hbody, hlt, hle⟩
    rw [htake] at hletters
    rw [hmiddle] at hnumber
    rw [hdrop] at hbody
    exact ⟨hletters, hnumber, hbody, by omega, by omega⟩
  · intro ⟨hletters, hnumber, hbody, hlt, hle⟩
    refine ⟨?_, ?_, ?_, by omega, by omega⟩
    · rwa [htake]
    · rwa [hmiddle]
    · rwa [hdrop]

/-- A well-formed text is its three segments. -/
theorem segments (cs : List Char) : cs.take 2 ++ (cs.drop 2).take 2 ++ cs.drop 4 = cs := by
  rw [← List.take_add, List.take_append_drop]

/-- A well-formed text is of capitals and digits throughout. -/
theorem WellFormed.capitals {cs : List Char} (h : WellFormed cs) :
    ∀ c ∈ cs, c.isUpper = true ∨ c.isDigit = true := by
  intro c hc
  rw [← segments cs, List.mem_append, List.mem_append] at hc
  rcases hc with (hc | hc) | hc
  · exact .inl (h.letters c hc)
  · exact .inr (h.digits c hc)
  · exact h.body c hc

@[simp] theorem toList_text (x : Iban) :
    x.text.toList = x.country.code.toList ++ x.checkDigits.toList ++ x.bban.toList := by
  simp [text]

/-! ## Every outcome -/

/-- The first thing that is wrong with a canonical text: its general form, or what its examination
finds. -/
inductive FirstFault (registry : Registry) (cs : List Char) : Rejection.Cause → Prop where
  | malformed : ¬ WellFormed cs → FirstFault registry cs .malformed
  | examined {cause : Rejection.Cause} :
      WellFormed cs → Fault registry (cs.take 2) ((cs.drop 2).take 2) (cs.drop 4) cause →
      FirstFault registry cs cause

/-- An IBAN of a registry. -/
structure Valid (registry : Registry) (x : Iban) : Prop where
  nonempty : 1 ≤ x.bban.toList.length
  length_le : x.bban.toList.length ≤ 30
  capitals : ∀ c ∈ x.bban.toList, c.isUpper = true ∨ c.isDigit = true
  genuine : ∃ rule ∈ registry.rules, rule.country = x.country ∧
    Genuine rule x.checkDigits.toList x.bban.toList

/-- The outcomes of reading a text. -/
inductive Reading (input : String) (registry : Registry) : Except Failure Iban → Prop where
  | accepted {x : Iban} :
      x.Valid registry → x.text = canonical input → Reading input registry (.ok x)
  | rejected {cause : Rejection.Cause} :
      FirstFault registry (canonicalChars input.toList) cause →
      Reading input registry (.error (.rejected ⟨kind, input, cause⟩))

/-- Reading is the test of the general form, followed by the examination. -/
theorem parse_eq_examine (input : String) (registry : Registry) {cs : List Char}
    (hcs : canonicalChars input.toList = cs) :
    parse input registry =
      if form.accepts (String.ofList cs) then do
        let (country, digits) ← Candidate.examine ⟨kind, input⟩ registry (cs.take 2)
          ((cs.drop 2).take 2) (cs.drop 4)
        return ⟨country, digits, String.ofList (cs.drop 4)⟩
      else .error (.rejected ⟨kind, input, .malformed⟩) := by
  subst hcs
  show (Candidate.ensure ⟨kind, input⟩ _ _ >>= _) = _
  rw [ensure_bind]
  unfold examine
  simp only [bind_assoc, pure_bind]
  rfl

/-- Reading a text has one of its outcomes. -/
theorem parse_spec (input : String) (registry : Registry) :
    Reading input registry (parse input registry) := by
  obtain ⟨cs, hcs⟩ : ∃ cs, canonicalChars input.toList = cs := ⟨_, rfl⟩
  have hform := form_accepts_iff input
  rw [parse_eq_examine input registry hcs]
  rw [hcs] at hform
  split
  · next haccepts =>
    have hwell := hform.1 haccepts
    have hbody : cs.drop 4 ≠ [] := by
      rw [ne_eq, List.drop_eq_nil_iff]
      have := hwell.lt_length
      omega
    have hsymbols : ∀ c ∈ cs.drop 4, c.isAlphanum = true := fun c hc =>
      isAlphanum_of_capital (hwell.body c hc)
    -- a well-formed text is examined in its three segments
    have hexamined := examine_spec ⟨kind, input⟩ registry (cs.take 2) hwell.twoDigits hbody
      hsymbols
    revert hexamined
    generalize Candidate.examine _ _ _ _ _ = res
    rintro (⟨hmem, hcode, hgenuine⟩ | hfault)
    · refine .accepted ⟨?_, ?_, ?_, _, hmem, rfl, ?_⟩ ?_
      · have := hwell.lt_length
        simp
        omega
      · have := hwell.length_le
        simp
        omega
      · simpa using hwell.body
      · simpa using hgenuine
      · rw [← String.toList_inj, toList_text, hcode, String.toList_ofList, String.toList_ofList,
          segments, toList_canonical, hcs]
    · exact .rejected (hcs ▸ .examined hwell hfault)
  · next hrefused =>
    exact .rejected (hcs ▸ .malformed fun h => hrefused (hform.2 h))

/-- If the body follows the rule of the country and is not too long, the digits decide. -/
theorem parse_of_follows {input : String} {registry : Registry} {rule : Rule}
    {digits body : List Char} (hmem : rule ∈ registry.rules)
    (hcs : canonicalChars input.toList = rule.country.code.toList ++ digits ++ body)
    (hdigits : TwoDigits digits) (hle : body.length ≤ 30)
    (hfollows : Spells rule.pattern.groups body) :
    parse input registry =
      if digits = padded 10 2 (issued rule.country.code.toList body) then
        .ok ⟨rule.country, String.ofList digits, String.ofList body⟩
      else .error (.rejected ⟨kind, input, .wrongCheckDigits⟩) := by
  have hcode : rule.country.code.toList.length = 2 := by simp
  have hin : ∀ c ∈ body, c ∈ canonicalChars input.toList := fun c hc =>
    hcs ▸ List.mem_append_right _ hc
  obtain ⟨hne, hcapitals⟩ := capitals_of_follows hfollows hin
  have hwell : WellFormed (rule.country.code.toList ++ digits ++ body) :=
    (wellFormed_append hcode hdigits.length_eq).2 ⟨Country.isUpper_of_mem_code,
      hdigits.digits, hcapitals, List.length_pos_iff.2 hne, hle⟩
  have haccepts := (form_accepts_iff input).2 (hcs ▸ hwell)
  rw [hcs] at haccepts
  obtain ⟨htake, hmiddle, hdrop⟩ := cut_append hcode hdigits.length_eq body
  rw [parse_eq_examine input registry hcs, if_pos haccepts, htake, hmiddle, hdrop,
    examine_of_follows _ hmem hdigits hne
      (fun c hc => isAlphanum_of_capital (hcapitals c hc)) hfollows]
  split <;> rfl

/-- A text that is not accepted is rejected as it was typed, for the first thing wrong with it. -/
theorem exists_cause_of_parse_eq_error {input : String} {registry : Registry} {failure : Failure}
    (h : parse input registry = .error failure) :
    ∃ cause, failure = .rejected ⟨kind, input, cause⟩ ∧
      FirstFault registry (canonicalChars input.toList) cause := by
  have hspec := parse_spec input registry
  rw [h] at hspec
  cases hspec with
  | rejected hfault => exact ⟨_, rfl, hfault⟩

/-- A well-formed text is not rejected for its form. -/
theorem FirstFault.ne_malformed {registry : Registry} {cs : List Char} {cause : Rejection.Cause}
    (h : FirstFault registry cs cause) (hwell : WellFormed cs) : cause ≠ .malformed := by
  rintro rfl
  cases h with
  | malformed hnot => exact hnot hwell
  | examined _ hfault => cases hfault

/-! ## Valid IBANs -/

/-- The segments of a valid IBAN, cut out of its text again. -/
theorem Valid.cut {registry : Registry} {x : Iban} (h : x.Valid registry) :
    x.text.toList.take 2 = x.country.code.toList ∧
      (x.text.toList.drop 2).take 2 = x.checkDigits.toList ∧
      x.text.toList.drop 4 = x.bban.toList := by
  obtain ⟨rule, -, -, hgenuine⟩ := h.genuine
  rw [toList_text]
  exact cut_append (by simp) hgenuine.twoDigits.length_eq _

/-- The segments of a valid IBAN are the only ones that its text can be cut into. -/
theorem Valid.segments_eq {registry : Registry} {x : Iban} (h : x.Valid registry)
    {code digits body : List Char} (hcode : code.length = 2) (hdigits : digits.length = 2)
    (htext : x.text.toList = code ++ digits ++ body) :
    x.country.code.toList = code ∧ x.checkDigits.toList = digits ∧ x.bban.toList = body := by
  obtain ⟨htake, hmiddle, hdrop⟩ := h.cut
  obtain ⟨htake', hmiddle', hdrop'⟩ := cut_append hcode hdigits body
  rw [htext] at htake hmiddle hdrop
  exact ⟨htake.symm.trans htake', hmiddle.symm.trans hmiddle', hdrop.symm.trans hdrop'⟩

/-- The text of a valid IBAN has the general form. -/
theorem Valid.wellFormed {registry : Registry} {x : Iban} (h : x.Valid registry) :
    WellFormed x.text.toList := by
  obtain ⟨rule, -, -, hgenuine⟩ := h.genuine
  rw [toList_text, wellFormed_append (by simp) hgenuine.twoDigits.length_eq]
  exact ⟨Country.isUpper_of_mem_code, hgenuine.twoDigits.digits, h.capitals, h.nonempty,
    h.length_le⟩

/-- A valid IBAN is known by its text. -/
theorem Valid.ext_text {registry : Registry} {x y : Iban} (hx : x.Valid registry)
    (hy : y.Valid registry) (h : x.text = y.text) : x = y := by
  obtain ⟨hcode, hdigits, hbody⟩ := hx.cut
  obtain ⟨hcode', hdigits', hbody'⟩ := hy.cut
  rw [h] at hcode hdigits hbody
  obtain ⟨country, digits, bban⟩ := x
  obtain ⟨country', digits', bban'⟩ := y
  have h₁ : country = country' :=
    Country.ext_code (String.toList_inj.1 (hcode.symm.trans hcode'))
  have h₂ : digits = digits' := String.toList_inj.1 (hdigits.symm.trans hdigits')
  have h₃ : bban = bban' := String.toList_inj.1 (hbody.symm.trans hbody')
  rw [h₁, h₂, h₃]

/-- If layouts are of fixed lengths, no IBAN is a proper beginning of another. -/
theorem Valid.eq_of_beginnings {registry : Registry} {x y : Iban} {cs : List Char}
    (hfixed : ∀ rule ∈ registry.rules, ∃ n, rule.length? = some n) (hx : x.Valid registry)
    (hy : y.Valid registry) (hxs : x.text.toList <+: cs) (hys : y.text.toList <+: cs) : x = y := by
  obtain ⟨rule, hrule, hcountry, hgenuine⟩ := hx.genuine
  obtain ⟨rule', hrule', hcountry', hgenuine'⟩ := hy.genuine
  have hcode : ∀ {z : Iban}, z.Valid registry → z.text.toList <+: cs →
      z.country.code.toList = cs.take 2 := by
    rintro z hz ⟨rest, rfl⟩
    have := hz.wellFormed.lt_length
    rw [← hz.cut.1, List.take_append_of_le_length (by omega)]
  have hcode : x.country = y.country :=
    Country.ext_code (String.toList_inj.1 ((hcode hx hxs).trans (hcode hy hys).symm))
  -- the country gives the rule, and the rule the length
  obtain rfl : rule' = rule :=
    Registry.eq_of_country_eq hrule hrule' (by rw [hcountry, hcountry', hcode])
  obtain ⟨n, hn⟩ := hfixed rule' hrule
  have hlen := length_of_fixedLength? hn hgenuine.follows
  have hlen' := length_of_fixedLength? hn hgenuine'.follows
  have hsame : x.text.toList.length = y.text.toList.length := by
    simp only [toList_text, List.length_append, hgenuine.twoDigits.length_eq,
      hgenuine'.twoDigits.length_eq, hlen, hlen', hcode]
  apply hx.ext_text hy
  rw [← String.toList_inj]
  exact (List.prefix_of_prefix_length_le hxs hys (Nat.le_of_eq hsame)).eq_of_length hsame

/-- A text is read as an IBAN if and only if this is valid and its text is the canonical form. -/
theorem parse_eq_ok_iff {input : String} {registry : Registry} {x : Iban} :
    parse input registry = .ok x ↔ x.Valid registry ∧ x.text = canonical input := by
  have hspec := parse_spec input registry
  constructor
  · intro h
    rw [h] at hspec
    cases hspec with
    | accepted hvalid htext => exact ⟨hvalid, htext⟩
  · intro ⟨hvalid, htext⟩
    have hcs : canonicalChars input.toList = x.text.toList := by rw [htext, toList_canonical]
    revert hspec
    generalize parse input registry = res
    rintro (⟨hvalid', htext'⟩ | hfault)
    · rw [hvalid'.ext_text hvalid (htext'.trans htext.symm)]
    · rw [hcs] at hfault
      obtain ⟨rule, hmem, hcountry, hgenuine⟩ := hvalid.genuine
      obtain ⟨hcode, hdigits, hbody⟩ := hvalid.cut
      cases hfault with
      | malformed h => exact absurd hvalid.wellFormed h
      | examined _ h =>
        rw [hcode, hdigits, hbody, ← hcountry] at h
        exact absurd h (Fault.not_of_genuine hmem hgenuine)

/-- The text of a valid IBAN is read as this IBAN. -/
theorem Valid.parse_text {registry : Registry} {x : Iban} (h : x.Valid registry) :
    parse x.text registry = .ok x :=
  parse_eq_ok_iff.2 ⟨h, (canonical_of_capitals h.wellFormed.capitals).symm⟩

/-- If the body does not follow the rule of the country, it is the structure that is wrong. -/
theorem parse_of_not_follows {input : String} {registry : Registry} {rule : Rule}
    {digits body : List Char} (hmem : rule ∈ registry.rules)
    (hcs : canonicalChars input.toList = rule.country.code.toList ++ digits ++ body)
    (hwell : WellFormed (canonicalChars input.toList)) (hdigits : digits.length = 2)
    (hnot : ¬ Spells rule.pattern.groups body) :
    parse input registry = .error (.rejected ⟨kind, input, .wrongStructure rule.label⟩) := by
  have hcode : rule.country.code.toList.length = 2 := by simp
  have hspec := parse_spec input registry
  revert hspec
  generalize parse input registry = res
  rintro (⟨hvalid, htext⟩ | hfault)
  · rw [← toList_canonical, ← htext] at hcs
    obtain ⟨hsame, -, hbody⟩ := hvalid.segments_eq hcode hdigits hcs
    obtain ⟨other, hother, hcountry, hgenuine⟩ := hvalid.genuine
    obtain rfl := Registry.eq_of_country_eq hmem hother
      (hcountry.trans (Country.ext_code (String.toList_inj.1 hsame)))
    exact absurd (hbody ▸ hgenuine.follows) hnot
  · cases hfault with
    | malformed h => exact absurd hwell h
    | examined _ h =>
      obtain ⟨htake, -, hdrop⟩ := cut_append hcode hdigits body
      rw [hcs, htake, hdrop] at h
      rcases h.of_rule hmem with ⟨rfl, -⟩ | ⟨-, hfollows, -⟩
      · rfl
      · exact absurd hfollows hnot

/-- Capitals and digits are read as the IBAN whose text they are. -/
theorem parse_ofList_eq_ok_iff {cs : List Char} (h : ∀ c ∈ cs, c.isUpper = true ∨ c.isDigit = true)
    {registry : Registry} {x : Iban} :
    parse (String.ofList cs) registry = .ok x ↔ x.Valid registry ∧ x.text.toList = cs := by
  rw [parse_eq_ok_iff, ← String.toList_inj, toList_canonical, canonicalChars_ofList h]

theorem exists_parse_eq_ok {input : String} {registry : Registry}
    (h : (parse input registry).isOk = true) : ∃ x, parse input registry = .ok x :=
  exists_eq_ok h

/-! ## The contract of reading -/

/-- A text is accepted if and only if its canonical form is the code of a country with a rule, two
digits, and one to thirty capitals and digits that are genuine for the rule, and this canonical form
is then the text of the IBAN. Otherwise the text is rejected, as it was typed, for the first thing
that is wrong with it. -/
theorem parse_iff_genuine (input : String) (registry : Registry) :
    ((∃ x, parse input registry = .ok x) ↔
      ∃ rule ∈ registry.rules, ∃ digits body : List Char,
        canonicalChars input.toList = rule.country.code.toList ++ digits ++ body ∧
        (1 ≤ body.length ∧ body.length ≤ 30) ∧
        (∀ c ∈ body, c.isUpper = true ∨ c.isDigit = true) ∧ Genuine rule digits body) ∧
    (∀ x, parse input registry = .ok x → x.text = canonical input) ∧
    (∀ failure, parse input registry = .error failure →
      ∃ cause, failure = .rejected ⟨kind, input, cause⟩ ∧
        FirstFault registry (canonicalChars input.toList) cause) := by
  refine ⟨⟨?_, ?_⟩, ?_, ?_⟩
  · intro ⟨x, hx⟩
    obtain ⟨hvalid, htext⟩ := parse_eq_ok_iff.1 hx
    obtain ⟨rule, hmem, hcountry, hgenuine⟩ := hvalid.genuine
    refine ⟨rule, hmem, _, _, ?_, ⟨hvalid.nonempty, hvalid.length_le⟩, hvalid.capitals, hgenuine⟩
    rw [← toList_canonical, ← htext, toList_text, hcountry]
  · intro ⟨rule, hmem, digits, body, hcut, ⟨hpos, hle⟩, hcapitals, hgenuine⟩
    let x : Iban := ⟨rule.country, String.ofList digits, String.ofList body⟩
    refine ⟨x, parse_eq_ok_iff.2 ⟨⟨?_, ?_, ?_, rule, hmem, rfl, ?_⟩, ?_⟩⟩
    · simpa [x] using hpos
    · simpa [x] using hle
    · simpa [x] using hcapitals
    · simpa [x] using hgenuine
    · rw [← String.toList_inj, toList_text, toList_canonical, hcut]
      simp [x]
  · intro x hx
    exact (parse_eq_ok_iff.1 hx).2
  · intro failure hfailure
    have hspec := parse_spec input registry
    rw [hfailure] at hspec
    cases hspec with
    | rejected hfault => exact ⟨_, rfl, hfault⟩

/-- A text in groups and in mixed case, and one with check digits that leave the remainder 1 but are
never issued. -/
theorem parse_iff_genuine_samples :
    (∃ x, parse "gb82 WEST 1234 5698 7654 32" .bban = .ok x ∧
      x.text = canonical "gb82 WEST 1234 5698 7654 32") ∧
    ∃ failure, parse "GB00 WEST 1234 5698 7654 53" .bban = .error failure ∧
      ∃ cause, failure = .rejected ⟨kind, "GB00 WEST 1234 5698 7654 53", cause⟩ ∧
        FirstFault .bban (canonicalChars "GB00 WEST 1234 5698 7654 53".toList) cause := by
  have hok : (parse "gb82 WEST 1234 5698 7654 32" .bban).isOk = true := by decide +kernel
  have herror : (parse "GB00 WEST 1234 5698 7654 53" .bban).isOk = false := by decide +kernel
  constructor
  · obtain ⟨x, hx⟩ := exists_parse_eq_ok hok
    exact ⟨x, hx, (parse_iff_genuine _ _).2.1 x hx⟩
  · cases h : parse "GB00 WEST 1234 5698 7654 53" .bban with
    | ok x =>
      rw [h] at herror
      cases herror
    | error failure => exact ⟨failure, rfl, (parse_iff_genuine _ _).2.2 failure h⟩

end BankCodes.Iban
