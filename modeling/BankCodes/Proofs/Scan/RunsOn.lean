import BankCodes.Proofs.Scan.Printed
import BankCodes.Proofs.Text.Words

/-!
# Where the scan passes a word over

Whether the scan for printed IBANs passes over a group of four characters can be seen in the text
before it: there must be a head, and behind it nothing but such groups, less than seven of them and
all one space apart, and the head must not have been passed over in its turn. `RunsOn` says so of
the text, without the scan.

    0 < skipAfter 0 ws (w :: vs) ↔ FourGroup w.chars ∧ RunsOn before

Here `ws` are the words of the text `before` the word `w`.
-/

namespace BankCodes.Scan

open Iban (Grouped)
open Text

/-! ## Heads and full groups are words -/

theorem isWordChar_of_isCapitalOrDigit {c : Char} (h : isCapitalOrDigit c = true) :
    isWordChar c = true := by
  apply isWordChar_of_isAlphanum
  exact isAlphanum_of_capital (isCapitalOrDigit_iff.1 h)

theorem FourGroup.isWordChar {cs : List Char} (h : FourGroup cs) :
    ∀ c ∈ cs, isWordChar c = true :=
  fun c hc => isWordChar_of_isCapitalOrDigit (h.capitals c hc)

theorem IsHead.ne_nil {cs : List Char} (h : IsHead cs) : cs ≠ [] := by
  rintro rfl
  cases h.length_eq

theorem IsHead.isWordChar {cs : List Char} (h : IsHead cs) : ∀ c ∈ cs, isWordChar c = true := by
  intro c hc
  rcases h.symbols c hc with hc | hc
  · exact isWordChar_of_isDecimal hc
  · exact isWordChar_of_isCapitalOrDigit hc

/-- The words of a printed text. -/
theorem words_of_printed {head : List Char} {groups : List (List Char)} (hhead : IsHead head)
    (hgroups : Grouped groups) (hcapitals : ∀ g ∈ groups, ∀ c ∈ g, isCapitalOrDigit c = true) :
    (∀ g ∈ head :: groups, g ≠ []) ∧ ∀ g ∈ head :: groups, ∀ c ∈ g, isWordChar c = true :=
  ⟨List.forall_mem_cons.2 ⟨hhead.ne_nil, hgroups.ne_nil_of_mem⟩,
    List.forall_mem_cons.2 ⟨hhead.isWordChar, fun g hg c hc =>
      isWordChar_of_isCapitalOrDigit (hcapitals g hg c hc)⟩⟩

/-- Full groups are groups, of four characters each. -/
theorem inGroups_of_isFull {us : List Word} (hne : us ≠ []) (hfull : ∀ u ∈ us, IsFull u) :
    InGroups us ∧ (chars us).length = 4 * us.length := by
  induction us with
  | nil => exact absurd rfl hne
  | cons u us ih =>
    have hu := hfull u (by simp)
    rw [chars_cons, List.length_append, List.length_cons, hu.four.length_eq]
    by_cases hnil : us = []
    · subst hnil
      exact ⟨hu.inGroups, rfl⟩
    · obtain ⟨hin, hlen⟩ := ih hnil fun v hv => hfull v (by simp [hv])
      exact ⟨(inGroups_cons hnil).2 ⟨hu, hin⟩, by omega⟩

/-- Groups whose last one is full are all full. -/
theorem InGroups.isFull {us : List Word} {w : Word} (h : InGroups (us ++ [w]))
    (hw : w.chars.length = 4) : ∀ u ∈ us ++ [w], IsFull u := by
  induction us with
  | nil => simpa using ⟨h.gaps w (by simp), hw, h.capitals w (by simp)⟩
  | cons v us ih =>
    obtain ⟨hv, hrest⟩ := (inGroups_cons (by simp)).1 h
    intro u hu
    rcases List.mem_cons.1 hu with rfl | hu
    · exact hv
    · exact ih hrest u hu

/-! ## Words passed over -/

/-- A word of four characters is passed over if and only if it is a full group, as are all words
between it and a head that is not passed over, of which there are less than seven. -/
theorem skipAfter_pos_iff_of_length {ws vs : List Word} {w : Word} (hw : w.chars.length = 4)
    (hne : ∀ u ∈ ws, u.chars ≠ []) :
    0 < skipAfter 0 ws (w :: vs) ↔ ∃ before h us, ws = before ++ h :: us ∧
      skipAfter 0 before (h :: us ++ w :: vs) = 0 ∧ IsHead h.chars ∧ us.length < 7 ∧
      ∀ u ∈ us ++ [w], IsFull u := by
  have hwne : w.chars ≠ [] := by
    intro hnil
    rw [hnil] at hw
    cases hw
  rw [skipAfter_pos_iff]
  constructor
  · rintro ⟨before, h, us, head, groups, rfl, hskip, hgroups, hlt⟩
    have hus : ∀ u ∈ us ++ [w], u.chars ≠ [] := by
      simpa [or_imp, forall_and] using ⟨fun u hu => hne u (by simp [hu]), hwne⟩
    -- the word is one of the groups of the head, and so are those before it
    have hbegins : (us ++ [w]).map Word.chars <+: groups := by
      rw [printedGroups_eq_take hgroups]
      apply List.IsPrefix.map
      rw [List.prefix_take_iff, List.length_append]
      exact ⟨⟨vs, by simp⟩, hlt⟩
    obtain rfl : head = h.chars := (printedGroups_eq_some_iff.1 hgroups).2.2.1
    rw [List.append_cons] at hgroups
    obtain ⟨hhead, hin, -, hle⟩ :=
      (prefix_printedGroups_iff h vs (by simp) hus).1 ⟨groups, hgroups, hbegins⟩
    have hfull := hin.isFull hw
    have hlen := (inGroups_of_isFull (by simp) hfull).2
    rw [List.length_append, List.length_singleton] at hlen
    exact ⟨before, h, us, rfl, hskip, hhead, by omega, hfull⟩
  · rintro ⟨before, h, us, rfl, hskip, hhead, hlt, hfull⟩
    have hsome : us ++ [w] ≠ [] := by simp
    obtain ⟨hin, hlen⟩ := inGroups_of_isFull hsome hfull
    rw [List.length_append, List.length_singleton] at hlen
    obtain ⟨groups, hgroups, hbegins⟩ := (prefix_printedGroups_iff h vs hsome
      fun u hu => (hfull u hu).four.ne_nil).2 ⟨hhead, hin, by omega, by omega⟩
    rw [← List.append_cons] at hgroups
    refine ⟨before, h, us, _, groups, rfl, hskip, hgroups, ?_⟩
    have := hbegins.length_le
    simp only [List.length_map, List.length_append, List.length_singleton] at this
    omega

/-! ## The text before a word -/

/-- A printed text runs on over the end of the text, so that it takes in a group that comes next. The
text ends in a head that stands free, less than seven full groups behind it, each one space behind
the one before, and a space. If the head is a full group itself, no printed text runs on over it. -/
def RunsOn (before : List Char) : Prop :=
  ∃ (front head : List Char) (groups : List (List Char))
      (_ : Stands before front (spaced head groups) [' ']),
    IsHead head ∧ groups.length < 7 ∧ (∀ g ∈ groups, FourGroup g) ∧
    ¬ (FourGroup head ∧ RunsOn front)
termination_by before.length
decreasing_by
  rename_i hstands
  rw [hstands.cut]
  simp only [List.length_append, List.length_singleton]
  omega

/-- There is room for a head and a space at least. -/
theorem RunsOn.five_le_length {before : List Char} (h : RunsOn before) : 5 ≤ before.length := by
  rw [RunsOn] at h
  obtain ⟨front, head, groups, hstands, hhead, -⟩ := h
  simp only [hstands.cut, spaced, List.length_append, hhead.length_eq, List.length_singleton]
  omega

/-- The scan passes a word of four characters over if and only if it is a full group and a printed
text runs on over the text before it. -/
theorem skipAfter_pos_iff_runsOn {ws : List Word} (vs : List Word) {w : Word} {before : List Char}
    (hlaid : Laid 0 ws w.gap before) (hw : w.chars.length = 4) :
    0 < skipAfter 0 ws (w :: vs) ↔ FourGroup w.chars ∧ RunsOn before := by
  -- whether the head is passed over in its turn is a question about a shorter text
  obtain ⟨n, hn⟩ : ∃ n, before.length = n := ⟨_, rfl⟩
  induction n using Nat.strongRecOn generalizing ws vs w before with
  | ind n ih =>
    have hshorter : ∀ {front chars : List Char}, Stands before front chars [' '] →
        front.length < n := by
      intro front chars hstands
      rw [hstands.cut, List.length_append, List.length_singleton, List.length_append] at hn
      omega
    rw [skipAfter_pos_iff_of_length hw hlaid.ne_nil, RunsOn]
    constructor
    · rintro ⟨first, h, us, rfl, hskip, hhead, hlt, hfull⟩
      have hword := hfull w (by simp)
      have hgroups : ∀ g ∈ us.map Word.chars, FourGroup g := by
        intro g hg
        obtain ⟨u, hu, rfl⟩ := List.mem_map.1 hg
        exact (hfull u (by simp [hu])).four
      rw [← List.append_nil us] at hlaid
      obtain ⟨front, after, hstands, -, hfront, hafter⟩ :=
        hlaid.stands fun u hu => (hfull u (by simp [hu])).gap
      rw [hafter.eq_tail, hword.gap] at hstands
      refine ⟨hword.four, front, h.chars, us.map Word.chars, hstands, hhead, by simpa using hlt,
        hgroups, ?_⟩
      rw [← ih _ (hshorter hstands) (us ++ w :: vs) hfront hhead.length_eq rfl]
      exact Nat.not_lt.2 (Nat.le_of_eq hskip)
    · intro ⟨hword, front, head, groups, hstands, hhead, hlt, hfull, hnot⟩
      obtain ⟨first, h, us, others, tail, hwhole, hfront, hafter, rfl, rfl, hgaps⟩ :=
        hstands.laid (List.forall_mem_cons.2 ⟨hhead.ne_nil, fun g hg => (hfull g hg).ne_nil⟩)
          (List.forall_mem_cons.2 ⟨hhead.isWordChar, fun g hg => (hfull g hg).isWordChar⟩)
      -- behind the printed text there is only the space, which is the gap before `w`
      obtain ⟨rfl, rfl⟩ := hafter.unique (.nil (List.forall_mem_singleton.2 (by decide)))
      obtain ⟨rfl, hgap⟩ := hlaid.unique hwhole
      rw [List.append_nil]
      refine ⟨first, h, us, rfl, ?_, hhead, by simpa using hlt, ?_⟩
      · apply Nat.eq_zero_of_not_pos
        rwa [List.cons_append, ih _ (hshorter hstands) _ hfront hhead.length_eq rfl]
      · intro u hu
        rcases List.mem_append.1 hu with hu | hu
        · exact ⟨hgaps u hu, hfull _ (List.mem_map_of_mem hu)⟩
        · obtain rfl := List.mem_singleton.1 hu
          exact ⟨hgap, hword⟩

end BankCodes.Scan
