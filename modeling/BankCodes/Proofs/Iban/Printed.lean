import BankCodes.Proofs.Iban.Acceptance

/-!
# The printed form

An IBAN is printed in groups of four characters, the last one perhaps shorter, with a space between
each two. `Grouped` says what such groups are, and `exists_grouped` finds them in a text.

* `inFours_flatten`: the printed form puts a space before each group but the first;
* `Valid.exists_groups`: the groups of an IBAN, behind the four characters of its head;
* `exists_groups_of_printable` and `filter_inFours`: every IBAN is printed in groups with single
  spaces between them, and nothing but spaces is put in.
-/

namespace BankCodes.Iban

open Text

/-! ## Groups of four -/

/-- Groups of four characters, the last one perhaps shorter. -/
inductive Grouped : List (List Char) → Prop where
  | last {g : List Char} : g ≠ [] → g.length ≤ 4 → Grouped [g]
  | cons {g : List Char} {gs : List (List Char)} :
      g.length = 4 → Grouped gs → Grouped (g :: gs)

/-- A text that is not empty is cut into groups. -/
theorem exists_grouped {cs : List Char} (h : cs ≠ []) : ∃ gs, Grouped gs ∧ gs.flatten = cs := by
  by_cases hlen : cs.length ≤ 4
  · exact ⟨[cs], .last h hlen, by simp⟩
  · have hdrop : cs.drop 4 ≠ [] := by
      rw [ne_eq, List.drop_eq_nil_iff]
      omega
    obtain ⟨gs, hgs, hflat⟩ := exists_grouped hdrop
    refine ⟨cs.take 4 :: gs, .cons ?_ hgs, ?_⟩
    · rw [List.length_take]
      omega
    · rw [List.flatten_cons, hflat, List.take_append_drop]
termination_by cs.length
decreasing_by
  rw [List.length_drop]
  omega

theorem Grouped.ne_nil {gs : List (List Char)} (h : Grouped gs) : gs ≠ [] := by
  cases h <;> simp

/-- No group is empty. -/
theorem Grouped.ne_nil_of_mem {gs : List (List Char)} (h : Grouped gs) : ∀ g ∈ gs, g ≠ [] := by
  induction h with
  | last hne _ => simpa using hne
  | @cons g gs hlen _ ih =>
    intro d hd
    rcases List.mem_cons.1 hd with rfl | hd
    · rintro rfl
      cases hlen
    · exact ih d hd

/-- No group is longer than four characters. -/
theorem Grouped.length_le_of_mem {gs : List (List Char)} (h : Grouped gs) :
    ∀ g ∈ gs, g.length ≤ 4 := by
  induction h with
  | last _ hle => simpa using hle
  | cons hlen _ ih => exact List.forall_mem_cons.2 ⟨Nat.le_of_eq hlen, ih⟩

theorem Grouped.flatten_ne_nil {gs : List (List Char)} (h : Grouped gs) : gs.flatten ≠ [] := by
  cases h with
  | last hne _ => simpa using hne
  | @cons g gs hlen _ =>
    rw [List.flatten_cons]
    have : g ≠ [] := by
      rintro rfl
      cases hlen
    simp [this]

/-- A text is cut into groups in one way only. -/
theorem Grouped.ext_flatten {gs gs' : List (List Char)} (h : Grouped gs) (h' : Grouped gs')
    (heq : gs.flatten = gs'.flatten) : gs = gs' := by
  have htoo_long : ∀ {g d : List Char} {ds : List (List Char)}, g.length ≤ 4 → d.length = 4 →
      Grouped ds → [g].flatten ≠ (d :: ds).flatten := by
    intro g d ds hg hd hds heq
    have := List.length_pos_iff.2 hds.flatten_ne_nil
    have := congrArg List.length heq
    simp only [List.flatten_cons, List.flatten_nil, List.append_nil, List.length_append] at this
    omega
  induction h generalizing gs' with
  | last _ hle =>
    cases h' with
    | last _ _ => simpa using heq
    | cons hlen hgs => exact absurd heq (htoo_long hle hlen hgs)
  | cons hlen hgs ih =>
    cases h' with
    | last _ hle => exact absurd heq.symm (htoo_long hle hlen hgs)
    | cons hlen' hgs' =>
      rw [List.flatten_cons, List.flatten_cons] at heq
      obtain ⟨rfl, hrest⟩ := List.append_inj heq (hlen.trans hlen'.symm)
      rw [ih hgs' hrest]

/-! ## The spaces between them -/

/-- Four characters with more to come are printed with a space behind them. -/
theorem inFours_append {g cs : List Char} (hg : g.length = 4) (hcs : cs ≠ []) :
    inFours (g ++ cs) = g ++ ' ' :: inFours cs := by
  match g, cs, hg, hcs with
  | [a, b, c, d], e :: cs, _, _ => rfl

theorem inFours_eq_self {g : List Char} (hg : g.length ≤ 4) : inFours g = g := by
  match g, hg with
  | [], _ => rfl
  | [a], _ => rfl
  | [a, b], _ => rfl
  | [a, b, c], _ => rfl
  | [a, b, c, d], _ => rfl

/-- Groups are printed with a space before each but the first. -/
theorem inFours_flatten {g : List Char} {gs : List (List Char)} (h : Grouped (g :: gs)) :
    inFours (g ++ gs.flatten) = g ++ gs.flatMap (' ' :: ·) := by
  induction gs generalizing g with
  | nil =>
    cases h with
    | last _ hlen => simpa using inFours_eq_self hlen
    | cons _ hnil => exact absurd rfl hnil.ne_nil
  | cons g' gs ih =>
    cases h with
    | cons hlen hgs =>
      rw [inFours_append hlen hgs.flatten_ne_nil, List.flatten_cons, ih hgs, List.flatMap_cons,
        List.cons_append]

/-! ## The groups of an IBAN -/

/-- A valid IBAN is a head of four characters and groups behind it. -/
theorem Valid.exists_groups {registry : Registry} {x : Iban} (h : x.Valid registry) :
    ∃ head groups, head.length = 4 ∧ Grouped groups ∧
      x.text.toList = head ++ groups.flatten ∧
      x.printable.toList = head ++ groups.flatMap (' ' :: ·) := by
  have hlen := h.wellFormed.lt_length
  have hdrop : x.text.toList.drop 4 ≠ [] := by
    rw [ne_eq, List.drop_eq_nil_iff]
    omega
  obtain ⟨groups, hgroups, hflat⟩ := exists_grouped hdrop
  have hhead : (x.text.toList.take 4).length = 4 := by
    rw [List.length_take]
    omega
  have htext : x.text.toList = x.text.toList.take 4 ++ groups.flatten := by
    rw [hflat, List.take_append_drop]
  refine ⟨x.text.toList.take 4, groups, hhead, hgroups, htext, ?_⟩
  calc x.printable.toList
      = inFours (x.text.toList.take 4 ++ groups.flatten) := by
        rw [← htext, printable, String.toList_ofList]
    _ = x.text.toList.take 4 ++ groups.flatMap (' ' :: ·) := inFours_flatten (.cons hhead hgroups)

/-- An IBAN in printed form is of capitals, digits and spaces. -/
theorem Valid.symbols_of_mem_printable {registry : Registry} {x : Iban} (h : x.Valid registry) :
    ∀ c ∈ x.printable.toList, c = ' ' ∨ c.isUpper = true ∨ c.isDigit = true := by
  obtain ⟨head, groups, -, -, htext, hprintable⟩ := h.exists_groups
  have hcapitals := h.wellFormed.capitals
  rw [htext] at hcapitals
  intro c hc
  rw [hprintable, List.mem_append, List.mem_flatMap] at hc
  rcases hc with hc | ⟨g, hg, hc⟩
  · exact .inr (hcapitals c (List.mem_append_left _ hc))
  · rcases List.mem_cons.1 hc with rfl | hc
    · exact .inl rfl
    · exact .inr (hcapitals c (List.mem_append_right _ (List.mem_flatten.2 ⟨g, hg, hc⟩)))

/-! ## Groups joined by spaces -/

theorem intercalate_space (g : List Char) (gs : List (List Char)) :
    [' '].intercalate (g :: gs) = g ++ gs.flatMap (' ' :: ·) := by
  induction gs generalizing g with
  | nil => simp
  | cons g' gs ih =>
    rw [List.intercalate_cons_cons, ih, List.flatMap_cons, List.append_assoc]
    rfl

/-- Every IBAN is printed in groups of four, with a space between each two. -/
theorem exists_groups_of_printable (x : Iban) :
    ∃ groups, Grouped groups ∧ groups.flatten = x.text.toList ∧
      x.printable.toList = [' '].intercalate groups := by
  have hne : x.text.toList ≠ [] := by simp
  obtain ⟨groups, hgroups, hflat⟩ := exists_grouped hne
  refine ⟨groups, hgroups, hflat, ?_⟩
  obtain _ | ⟨g, gs⟩ := groups
  · exact absurd rfl hgroups.ne_nil
  · rw [intercalate_space, ← inFours_flatten hgroups, ← List.flatten_cons, hflat, printable,
      String.toList_ofList]

/-- Only spaces are put in. -/
theorem filter_inFours {p : Char → Bool} (hspace : p ' ' = false) (cs : List Char) :
    (inFours cs).filter p = cs.filter p := by
  fun_induction inFours cs with
  | case1 => rfl
  | case2 a b c d e cs ih => simp only [List.filter_cons, ih, hspace, Bool.false_eq_true, if_false]
  | case3 => rfl

theorem canonicalChars_inFours (cs : List Char) :
    canonicalChars (inFours cs) = canonicalChars cs := by
  unfold canonicalChars
  rw [filter_inFours rfl]

end BankCodes.Iban
