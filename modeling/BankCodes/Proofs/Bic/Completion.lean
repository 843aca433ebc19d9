import BankCodes.Proofs.Segments

/-!
# BICs with and without a branch code

A BIC of eight characters is short for the one with the branch code of the primary office. So a text
is read as a BIC if and only if this is valid and its text is the canonical form of the other one,
completed if it is of eight characters:

    parse input = .ok x ↔ x.Valid ∧ x.text = completed (canonical input)

* `wellFormed_completed_iff`: to complete a text does not change whether it is well-formed;
* `Valid.ext_text`: a valid BIC is known by its text;
* `parse_eq_ok_iff` and `accepted_and_completed`: which texts are BICs, of what they are rejected
  for, and which of them are the same BIC.
-/

namespace BankCodes.Bic

open Text

/-! ## Completed texts -/

theorem completed_of_length {cs : List Char} (h : cs.length = 8) :
    completed cs = cs ++ ['X', 'X', 'X'] :=
  if_pos h

theorem completed_of_length_ne {cs : List Char} (h : cs.length ≠ 8) : completed cs = cs :=
  if_neg h

/-- The branch code of the primary office is in order. -/
theorem wellFormed_completed_iff {cs : List Char} : WellFormed (completed cs) ↔ WellFormed cs := by
  by_cases hlen : cs.length = 8
  · have hdrop : (cs ++ ['X', 'X', 'X']).drop 6 = cs.drop 6 ++ ['X', 'X', 'X'] :=
      List.drop_append_of_le_length (by omega)
    have htake : (cs ++ ['X', 'X', 'X']).take 6 = cs.take 6 :=
      List.take_append_of_le_length (by omega)
    rw [completed_of_length hlen]
    constructor
    · intro h
      have hletters := h.letters
      have hsymbols := h.symbols
      rw [htake] at hletters
      rw [hdrop] at hsymbols
      exact ⟨hletters, fun c hc => hsymbols c (List.mem_append_left _ hc), .inl hlen⟩
    · intro h
      refine ⟨by rw [htake]; exact h.letters, ?_, .inr (by simp [hlen])⟩
      rw [hdrop, List.forall_mem_append]
      exact ⟨h.symbols, by simp⟩
  · rw [completed_of_length_ne hlen]

theorem code_completed (cs : List Char) :
    ((completed cs).drop 4).take 2 = (cs.drop 4).take 2 := by
  by_cases hlen : cs.length = 8
  · rw [completed_of_length hlen, List.drop_append_of_le_length (by omega),
      List.take_append_of_le_length (by rw [List.length_drop]; omega)]
  · rw [completed_of_length_ne hlen]

/-! ## Valid BICs -/

/-- The segments of a valid BIC, cut out of its text again. -/
theorem Valid.cut {x : Bic} (h : x.Valid) :
    x.text.toList.take 4 = x.institution.toList ∧
      (x.text.toList.drop 4).take 2 = x.country.code.toList ∧
      x.text.toList.drop 6 = x.site :: x.mark :: x.branch.toList := by
  have hcode : x.country.code.toList.length = 2 := by simp
  have hfront : (x.institution.toList ++ x.country.code.toList).length = 6 := by
    rw [List.length_append, h.institution_length, hcode]
  rw [toList_text, List.append_assoc, List.drop_left' hfront, List.append_assoc,
    List.take_left' h.institution_length, List.drop_left' h.institution_length,
    List.take_left' hcode]
  exact ⟨rfl, rfl, rfl⟩

/-- A valid BIC is known by its text. -/
theorem Valid.ext_text {x y : Bic} (hx : x.Valid) (hy : y.Valid) (h : x.text = y.text) : x = y := by
  obtain ⟨hinstitution, hcode, hrest⟩ := hx.cut
  obtain ⟨hinstitution', hcode', hrest'⟩ := hy.cut
  rw [h] at hinstitution hcode hrest
  have hcountry : x.country = y.country :=
    Country.ext_code (String.toList_inj.1 (hcode.symm.trans hcode'))
  have hbank : x.institution = y.institution :=
    String.toList_inj.1 (hinstitution.symm.trans hinstitution')
  obtain ⟨hsite, hmark, hbranch⟩ : x.site = y.site ∧ x.mark = y.mark ∧
      x.branch.toList = y.branch.toList := by
    simpa using hrest.symm.trans hrest'
  obtain ⟨institution, country, site, mark, branch⟩ := x
  obtain ⟨institution', country', site', mark', branch'⟩ := y
  simp only at hcountry hbank hsite hmark hbranch
  rw [hcountry, hbank, hsite, hmark, String.toList_inj.1 hbranch]

theorem Valid.length_text {x : Bic} (h : x.Valid) : x.text.toList.length = 11 := by
  simp [h.institution_length, h.branch_length]

/-- The text of a valid BIC has the general form. -/
theorem Valid.wellFormed {x : Bic} (h : x.Valid) : WellFormed x.text.toList := by
  refine ⟨fun c hc => ?_, fun c hc => ?_, .inr h.length_text⟩
  · rw [List.take_add (i := 4) (j := 2), h.cut.1, h.cut.2.1, List.mem_append] at hc
    exact hc.elim (h.institution_letters c) (Country.isUpper_of_mem_code c)
  · exact h.text_capitals c (List.mem_of_mem_drop hc)

/-- What is completed to the text of a valid BIC is well-formed and names its country. -/
theorem Valid.typed {x : Bic} {cs : List Char} (h : x.Valid) (htext : x.text.toList = completed cs) :
    WellFormed cs ∧ x.country.code.toList = (cs.drop 4).take 2 := by
  rw [← wellFormed_completed_iff, ← code_completed, ← htext]
  exact ⟨h.wellFormed, h.cut.2.1.symm⟩

/-! ## Outcomes -/

/-- The outcomes of reading a text exclude each other. -/
theorem Reading.unique {input : String} {cs : List Char} {res res' : Except Failure Bic}
    (h : Reading input cs res) (h' : Reading input cs res') : res = res' := by
  cases h with
  | accepted hvalid htext =>
    obtain ⟨hwell, hcountry⟩ := hvalid.typed htext
    cases h' with
    | accepted hvalid' htext' =>
      rw [hvalid.ext_text hvalid' (String.toList_inj.1 (htext.trans htext'.symm))]
    | malformed hnot => exact absurd hwell hnot
    | unknownCountry _ hnone => exact absurd hcountry (hnone _)
  | malformed hnot =>
    cases h' with
    | accepted hvalid htext => exact absurd (hvalid.typed htext).1 hnot
    | malformed => rfl
    | unknownCountry hwell => exact absurd hwell hnot
  | unknownCountry hwell hnone =>
    cases h' with
    | accepted hvalid htext => exact absurd (hvalid.typed htext).2 (hnone _)
    | malformed hnot => exact absurd hwell hnot
    | unknownCountry => rfl

theorem parse_eq_iff_reading {input : String} {res : Except Failure Bic} :
    parse input = res ↔ Reading input (canonicalChars input.toList) res := by
  constructor
  · rintro rfl
    exact parse_spec input
  · exact (parse_spec input).unique

/-- A text is read as a BIC if and only if this is valid and its text is the completed canonical
form. -/
theorem parse_eq_ok_iff {input : String} {x : Bic} :
    parse input = .ok x ↔ x.Valid ∧ x.text.toList = completed (canonicalChars input.toList) := by
  rw [parse_eq_iff_reading]
  constructor
  · rintro ⟨hvalid, htext⟩
    exact ⟨hvalid, htext⟩
  · intro ⟨hvalid, htext⟩
    exact .accepted hvalid htext

theorem parse_malformed_iff {input : String} :
    parse input = .error (.rejected ⟨kind, input, .malformed⟩) ↔
      ¬ WellFormed (canonicalChars input.toList) := by
  rw [parse_eq_iff_reading]
  constructor
  · rintro (- | hnot | -)
    exact hnot
  · exact .malformed

theorem parse_unknownCountry_iff {input : String} :
    parse input = .error (.rejected ⟨kind, input, .unknownCountry⟩) ↔
      WellFormed (canonicalChars input.toList) ∧
      ∀ country : Country, country.code.toList ≠ ((canonicalChars input.toList).drop 4).take 2 := by
  rw [parse_eq_iff_reading]
  constructor
  · rintro (- | - | ⟨hwell, hnone⟩)
    exact ⟨hwell, hnone⟩
  · intro ⟨hwell, hnone⟩
    exact .unknownCountry hwell hnone

/-- A well-formed text is accepted if it names a country. -/
theorem exists_parse_eq_ok_iff {input : String} :
    (∃ x, parse input = .ok x) ↔ WellFormed (canonicalChars input.toList) ∧
      ∃ country : Country, country.code.toList = ((canonicalChars input.toList).drop 4).take 2 := by
  constructor
  · rintro ⟨x, hx⟩
    obtain ⟨hvalid, htext⟩ := parse_eq_ok_iff.1 hx
    obtain ⟨hwell, hcountry⟩ := hvalid.typed htext
    exact ⟨hwell, x.country, hcountry⟩
  · rintro ⟨hwell, country, hcountry⟩
    obtain ⟨site, mark, rest, hcut, -⟩ := hwell.exists_location
    exact ⟨_, parse_eq_iff_reading.2 (hwell.accepted hcountry hcut input)⟩

/-- The text of a valid BIC is read as this BIC. -/
theorem Valid.parse_text {x : Bic} (h : x.Valid) : parse x.text = .ok x := by
  apply parse_eq_ok_iff.2
  have hlen := h.length_text
  rw [canonicalChars_of_capitals h.text_capitals, completed_of_length_ne (by omega)]
  exact ⟨h, rfl⟩

/-- Eight characters with the branch code of the primary office are completed already. -/
theorem completed_canonicalChars_append {input : String} (hlen : (canonical input).length = 8) :
    completed (canonicalChars (canonical input ++ "XXX").toList) =
      completed (canonicalChars input.toList) := by
  rw [← String.length_toList, toList_canonical] at hlen
  have hprimary : canonicalChars "XXX".toList = ['X', 'X', 'X'] := by decide
  rw [String.toList_append, canonicalChars_append, toList_canonical, canonicalChars_idem, hprimary,
    completed_of_length hlen, completed_of_length_ne]
  simp [hlen]

/-- A canonical form of eight characters names the primary office. -/
theorem isPrimaryOffice_of_length {input : String} {x : Bic} (hx : parse input = .ok x)
    (hlen : (canonical input).length = 8) : x.isPrimaryOffice = true := by
  obtain ⟨hvalid, htext⟩ := parse_eq_ok_iff.1 hx
  rw [← String.length_toList, toList_canonical] at hlen
  have hbranch : x.branch.toList = ['X', 'X', 'X'] := by
    have hdrop : x.text.toList.drop 8 = x.branch.toList := by
      rw [← List.drop_drop (i := 2) (j := 6), hvalid.cut.2.2]
      rfl
    rw [← hdrop, htext, completed_of_length hlen, List.drop_left' hlen]
  rw [isPrimaryOffice, beq_iff_eq, ← String.toList_inj, hbranch]
  rfl

/-! ## Acceptance and completion -/

/-- A text is accepted if and only if its canonical form is of six capital letters and two or five
capitals and digits, and names a country. If only the country is wrong, it is rejected for that, and
otherwise for its form. The text of a BIC has eleven characters. A canonical form of eight
characters is read as if the branch code of the primary office were behind it; what is accepted is
the same BIC if and only if the completed canonical forms are the same. -/
theorem accepted_and_completed (input : String) :
    ((∃ x, parse input = .ok x) ↔ WellFormed (canonicalChars input.toList) ∧
      ∃ country : Country, country.code.toList = ((canonicalChars input.toList).drop 4).take 2) ∧
    (parse input = .error (.rejected ⟨kind, input, .unknownCountry⟩) ↔
      WellFormed (canonicalChars input.toList) ∧
      ∀ country : Country, country.code.toList ≠ ((canonicalChars input.toList).drop 4).take 2) ∧
    (parse input = .error (.rejected ⟨kind, input, .malformed⟩) ↔
      ¬ WellFormed (canonicalChars input.toList)) ∧
    (∀ x, Identifier.Obtained (.bic x) → x.text.length = 11) ∧
    ((canonical input).length = 8 → ∀ x,
      (parse input = .ok x ↔ parse (canonical input ++ "XXX") = .ok x) ∧
      (parse input = .ok x → x.isPrimaryOffice = true)) ∧
    ∀ other x y, parse input = .ok x → parse other = .ok y →
      (x = y ↔ completed (canonicalChars input.toList) = completed (canonicalChars other.toList)) := by
  refine ⟨exists_parse_eq_ok_iff, parse_unknownCountry_iff, parse_malformed_iff, fun x hx => ?_,
    fun hlen x => ⟨?_, fun hx => isPrimaryOffice_of_length hx hlen⟩, fun other x y hx hy => ?_⟩
  · have hvalid : x.Valid := hx.sound
    rw [← String.length_toList]
    exact hvalid.length_text
  · rw [parse_eq_ok_iff, parse_eq_ok_iff, completed_canonicalChars_append hlen]
  · obtain ⟨hvalid, htext⟩ := parse_eq_ok_iff.1 hx
    obtain ⟨hvalid', htext'⟩ := parse_eq_ok_iff.1 hy
    rw [← htext, ← htext', String.toList_inj]
    exact ⟨congrArg text, hvalid.ext_text hvalid'⟩

/-- A BIC in small letters and in groups, which is the one with the branch code of the primary
office. -/
theorem accepted_and_completed_sample :
    (canonical "deut de ff").length = 8 ∧
    ∃ x, parse "deut de ff" = .ok x ∧ parse (canonical "deut de ff" ++ "XXX") = .ok x ∧
      x.text.length = 11 ∧ x.isPrimaryOffice = true ∧
      ∃ y, parse "DEUTDEFF\tXXX" = .ok y ∧ x = y := by
  obtain ⟨x, hx⟩ : ∃ x, parse "deut de ff" = .ok x := exists_eq_ok (by decide +kernel)
  obtain ⟨y, hy⟩ : ∃ y, parse "DEUTDEFF\tXXX" = .ok y := exists_eq_ok (by decide +kernel)
  have hlen : (canonical "deut de ff").length = 8 := by decide +kernel
  obtain ⟨-, -, -, heleven, hshort, hsame⟩ := accepted_and_completed "deut de ff"
  have hread : Identifier.parse .bic none "deut de ff" = .ok (.bic x) := by
    rw [Identifier.parse_bic, hx]
    rfl
  exact ⟨hlen, x, hx, (hshort hlen x).1.1 hx, heleven x (.of_parse hread), (hshort hlen x).2 hx, y, hy,
    (hsame _ x y hx hy).2 (by decide +kernel)⟩

end BankCodes.Bic
