import BankCodes.Bic
import BankCodes.Proofs.Examination

/-!
# Which texts are BICs

A BIC is typed with or without a branch code, and its general form is one of two patterns. On
canonical texts they are together `[A-Z]{6}[A-Z0-9]{2}([A-Z0-9]{3})?` (`form_accepts_iff`), and
nothing is read as a BIC that has not this form (`wellFormed_of_parse_eq_ok`).

A text of this form is accepted if it names a country, and completed to the full form if it has no
branch code. Otherwise it is the country that is not known (`parse_spec`).
-/

namespace BankCodes.Bic

open Candidate Pattern Text

/-- Six capital letters, followed by two or five capitals and digits. -/
structure WellFormed (cs : List Char) : Prop where
  letters : ∀ c ∈ cs.take 6, c.isUpper = true
  symbols : ∀ c ∈ cs.drop 6, c.isUpper = true ∨ c.isDigit = true
  length : cs.length = 8 ∨ cs.length = 11

/-- A well-formed text is of capitals and digits throughout. -/
theorem WellFormed.capitals {cs : List Char} (h : WellFormed cs) :
    ∀ c ∈ cs, c.isUpper = true ∨ c.isDigit = true := by
  intro c hc
  rw [← List.take_append_drop 6 cs, List.mem_append] at hc
  exact hc.elim (fun hc => .inl (h.letters c hc)) (h.symbols c)

/-- The groups before the branch code, and others behind them. -/
private theorem spells_front {gs : List Group} {cs : List Char} :
    Spells (.exactly 4 .upper :: .exactly 2 .upper :: .exactly 2 .alphanumeric :: gs) cs ↔
      8 ≤ cs.length ∧ (∀ c ∈ cs.take 6, c.isUpper = true) ∧
        (∀ c ∈ (cs.drop 6).take 2, c.isAlphanum = true) ∧ Spells gs (cs.drop 8) := by
  have hcut : cs.take 6 = cs.take 4 ++ (cs.drop 4).take 2 :=
    List.take_add (i := 4) (j := 2)
  rw [spells_cons_exact rfl, spells_cons_exact rfl, spells_cons_exact rfl, hcut]
  simp only [Group.count_exactly, Group.kind_exactly, CharClass.contains, List.drop_drop,
    List.length_drop, List.forall_mem_append]
  constructor
  · intro ⟨_, hbank, _, hcountry, hlen, hlocation, hrest⟩
    exact ⟨by omega, ⟨hbank, hcountry⟩, hlocation, hrest⟩
  · intro ⟨hlen, ⟨hbank, hcountry⟩, hlocation, hrest⟩
    exact ⟨by omega, hbank, by omega, hcountry, by omega, hlocation, hrest⟩

/-- The forms of BICs admit small letters behind the country, but a canonical text has none. -/
theorem form_accepts_iff (s : String) :
    (shortForm.accepts (String.ofList (canonicalChars s.toList)) ||
        fullForm.accepts (String.ofList (canonicalChars s.toList))) = true ↔
      WellFormed (canonicalChars s.toList) := by
  have hshort : shortForm.groups =
      [.exactly 4 .upper, .exactly 2 .upper, .exactly 2 .alphanumeric] := rfl
  have hfull : fullForm.groups =
      [.exactly 4 .upper, .exactly 2 .upper, .exactly 2 .alphanumeric, .exactly 3 .alphanumeric] :=
    rfl
  generalize hcs : canonicalChars s.toList = cs
  have hcapital : ∀ c ∈ cs, c.isAlphanum = true → c.isUpper = true ∨ c.isDigit = true := by
    intro c hc
    exact isUpper_or_isDigit_of_mem_canonicalChars (hcs ▸ hc)
  have hcut : cs.drop 6 = (cs.drop 6).take 2 ++ cs.drop 8 := by
    rw [← List.drop_drop (i := 2) (j := 6), List.take_append_drop]
  rw [Bool.or_eq_true, accepts_iff_spells, accepts_iff_spells, String.toList_ofList, hshort, hfull,
    spells_front, spells_front, spells_nil, spells_cons_exact rfl, spells_nil]
  simp only [Group.count_exactly, Group.kind_exactly, CharClass.contains, List.drop_drop,
    List.length_drop, List.drop_eq_nil_iff]
  constructor
  · rintro (⟨hle, hletters, hlocation, hlen⟩ | ⟨hle, hletters, hlocation, hle', hbranch, hlen⟩)
    · refine ⟨hletters, fun c hc => ?_, .inl (by omega)⟩
      apply hcapital c (List.mem_of_mem_drop hc)
      rw [hcut, List.drop_eq_nil_iff.2 hlen, List.append_nil] at hc
      exact hlocation c hc
    · refine ⟨hletters, fun c hc => ?_, .inr (by omega)⟩
      apply hcapital c (List.mem_of_mem_drop hc)
      rw [hcut, List.mem_append] at hc
      rcases hc with hc | hc
      · exact hlocation c hc
      · rw [List.take_of_length_le (by rw [List.length_drop]; omega)] at hbranch
        exact hbranch c hc
  · intro ⟨hletters, hsymbols, hlen⟩
    have hall : ∀ c ∈ cs.drop 6, c.isAlphanum = true := fun c hc =>
      isAlphanum_of_capital (hsymbols c hc)
    rw [hcut, List.forall_mem_append] at hall
    rcases hlen with hlen | hlen
    · exact .inl ⟨by omega, hletters, hall.1, by omega⟩
    · refine .inr ⟨by omega, hletters, hall.1, by omega, ?_, by omega⟩
      exact fun c hc => hall.2 c (List.mem_of_mem_take hc)

/-- What is read as a BIC has the general form. -/
theorem wellFormed_of_parse_eq_ok {input : String} {x : Bic} (h : parse input = .ok x) :
    WellFormed (canonicalChars input.toList) := by
  obtain ⟨_, hform, -⟩ := bind_eq_ok_iff.1 h
  exact (form_accepts_iff input).1 (ensure_eq_ok_iff.1 hform)

@[simp] theorem toList_text (x : Bic) :
    x.text.toList = x.institution.toList ++ x.country.code.toList ++ [x.site, x.mark] ++
      x.branch.toList := by
  simp [text, location]

/-! ## Every outcome -/

/-- The characters with the branch code of the primary office behind them, if they have none. -/
def completed (cs : List Char) : List Char :=
  if cs.length = 8 then cs ++ primaryOffice.toList else cs

/-- A BIC with segments of the right lengths and characters. -/
structure Valid (x : Bic) : Prop where
  institution_length : x.institution.toList.length = 4
  institution_letters : ∀ c ∈ x.institution.toList, c.isUpper = true
  location_capitals : ∀ c ∈ [x.site, x.mark], c.isUpper = true ∨ c.isDigit = true
  branch_length : x.branch.toList.length = 3
  branch_capitals : ∀ c ∈ x.branch.toList, c.isUpper = true ∨ c.isDigit = true

/-- The outcomes of reading a text with the canonical form `cs`. -/
inductive Reading (input : String) (cs : List Char) : Except Failure Bic → Prop where
  | accepted {x : Bic} : x.Valid → x.text.toList = completed cs → Reading input cs (.ok x)
  | malformed :
      ¬ WellFormed cs → Reading input cs (.error (.rejected ⟨kind, input, .malformed⟩))
  | unknownCountry :
      WellFormed cs → (∀ country : Country, country.code.toList ≠ (cs.drop 4).take 2) →
      Reading input cs (.error (.rejected ⟨kind, input, .unknownCountry⟩))

/-- Behind the country stand a location, and a branch code or nothing. -/
theorem WellFormed.exists_location {cs : List Char} (h : WellFormed cs) :
    ∃ site mark rest, cs.drop 6 = site :: mark :: rest ∧
      (rest = [] ∧ cs.length = 8 ∨ rest.length = 3 ∧ cs.length = 11) := by
  have hlen := h.length
  have hdrop : (cs.drop 6).length = cs.length - 6 := List.length_drop
  match hcut : cs.drop 6 with
  | [] | [_] =>
    rw [hcut] at hdrop
    simp only [List.length_nil, List.length_singleton] at hdrop
    omega
  | site :: mark :: rest =>
    rw [hcut, List.length_cons, List.length_cons] at hdrop
    refine ⟨site, mark, rest, rfl, ?_⟩
    rw [← List.length_eq_zero_iff]
    omega

/-- The segments of a well-formed text make a BIC with any branch code. -/
theorem WellFormed.valid {cs rest : List Char} {site mark : Char} (h : WellFormed cs)
    (hcut : cs.drop 6 = site :: mark :: rest) (country : Country) {branch : String}
    (hlen : branch.toList.length = 3)
    (hbranch : ∀ c ∈ branch.toList, c.isUpper = true ∨ c.isDigit = true) :
    Valid ⟨String.ofList (cs.take 4), country, site, mark, branch⟩ := by
  have hlength := h.length
  have hsymbols := h.symbols
  rw [hcut] at hsymbols
  refine ⟨?_, ?_, ?_, hlen, hbranch⟩
  · rw [String.toList_ofList, List.length_take]
    omega
  · intro c hc
    rw [String.toList_ofList] at hc
    exact h.letters c (List.take_subset_take_left cs (by decide) hc)
  · intro c hc
    exact hsymbols c (List.mem_append_left rest hc)

/-- A well-formed text with the code of a country is accepted, and completed if need be. -/
theorem WellFormed.accepted {cs rest : List Char} {site mark : Char} {country : Country}
    (h : WellFormed cs) (hcountry : country.code.toList = (cs.drop 4).take 2)
    (hcut : cs.drop 6 = site :: mark :: rest) (input : String) :
    Reading input cs (.ok ⟨String.ofList (cs.take 4), country, site, mark,
      if rest.isEmpty then primaryOffice else String.ofList rest⟩) := by
  obtain ⟨_, _, _, hcut', hlen⟩ := h.exists_location
  cases hcut.symm.trans hcut'
  have hcs : cs.take 4 ++ country.code.toList ++ [site, mark] ++ rest = cs := by
    rw [hcountry, ← List.take_add, List.append_assoc]
    show cs.take 6 ++ site :: mark :: rest = cs
    rw [← hcut, List.take_append_drop]
  rcases hlen with ⟨rfl, hlen⟩ | ⟨hthree, hlen⟩
  · have hprimary : ∀ c ∈ primaryOffice.toList, c.isUpper = true ∨ c.isDigit = true := by
      show ∀ c ∈ ['X', 'X', 'X'], c.isUpper = true ∨ c.isDigit = true
      simp
    apply Reading.accepted (h.valid hcut country rfl hprimary)
    rw [List.append_nil] at hcs
    rw [toList_text, String.toList_ofList, completed, if_pos hlen]
    show cs.take 4 ++ country.code.toList ++ [site, mark] ++ primaryOffice.toList = _
    rw [hcs]
  · have hsome : rest.isEmpty = false := by grind
    have hsymbols := h.symbols
    rw [hcut] at hsymbols
    have hbranch : ∀ c ∈ rest, c.isUpper = true ∨ c.isDigit = true := fun c hc =>
      hsymbols c (List.mem_append_right [site, mark] hc)
    rw [hsome, if_neg Bool.false_ne_true]
    apply Reading.accepted (h.valid hcut country ?_ ?_)
    · rw [toList_text, String.toList_ofList, String.toList_ofList, hcs, completed,
        if_neg (by omega)]
    · rwa [String.toList_ofList]
    · rwa [String.toList_ofList]

/-- Reading a text has one of its outcomes. -/
theorem parse_spec (input : String) :
    Reading input (canonicalChars input.toList) (parse input) := by
  have hform := form_accepts_iff input
  show Reading _ _ (Candidate.ensure ⟨kind, input⟩ _ _ >>= _)
  rw [ensure_bind]
  generalize canonicalChars input.toList = cs at hform ⊢
  split
  · next haccepts =>
    have hwell := hform.1 haccepts
    -- the country of the code
    show Reading _ _ (Candidate.country ⟨kind, input⟩ ((cs.drop 4).take 2) >>= _)
    unfold Candidate.country
    cases hcountry : Country.ofChars? ((cs.drop 4).take 2) with
    | none => exact .unknownCountry hwell (Country.ofChars?_eq_none_iff.1 hcountry)
    | some country =>
      have hcode : country.code.toList = (cs.drop 4).take 2 := by
        rw [Country.toList_code, Country.ofChars?_eq_some_iff.1 hcountry]
      -- the location and the branch
      obtain ⟨site, mark, rest, hcut, -⟩ := hwell.exists_location
      rw [hcut]
      exact hwell.accepted hcode hcut input
  · next hrefused =>
    apply Reading.malformed
    exact fun h => hrefused (hform.2 h)

theorem valid_of_parse_eq_ok {input : String} {x : Bic} (h : parse input = .ok x) : x.Valid := by
  have hspec := parse_spec input
  rw [h] at hspec
  cases hspec with
  | accepted hvalid => exact hvalid

end BankCodes.Bic
