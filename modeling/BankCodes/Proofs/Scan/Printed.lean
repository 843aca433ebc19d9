import BankCodes.Proofs.Iban.Printed
import BankCodes.Scan
import Mathlib.Data.List.Induction

/-!
# Printed IBANs among the words of a text

The scan for printed IBANs goes over the words of a text once. A head with groups behind it makes a
site, and its words are passed over, so that a word is looked at as a head only if it does not
belong to the site before it.

* `prefix_printedGroups_iff`: the groups of a site are all the groups behind its head, up to 31
  characters of them;
* `exists_candidate_iff`: its candidates are the head with one or more of the groups;
* `mem_printedSites` and `exists_site_iff`: a site begins at each head that the scan does not pass
  over;
* `skipAfter_pos_iff`: a word is passed over because of a site that comes up to it.
-/

namespace BankCodes.Scan

open Iban (Grouped)
open Text

theorem isCapitalOrDigit_iff {c : Char} :
    isCapitalOrDigit c = true ↔ c.isUpper = true ∨ c.isDigit = true :=
  Bool.or_eq_true_iff

/-! ## Heads -/

/-- Two capital letters and two decimal digits. The digits may be those of any script. -/
structure IsHead (cs : List Char) : Prop where
  length_eq : cs.length = 4
  letters : ∀ c ∈ cs.take 2, c.isUpper = true
  digits : ∀ c ∈ cs.drop 2, isDecimal c = true

theorem afterHead_eq_some_iff {cs rest : List Char} :
    afterHead cs = some rest ↔ ∃ head, IsHead head ∧ cs = head ++ rest := by
  constructor
  · intro h
    unfold afterHead at h
    split at h
    · next a b c d cs =>
      split at h
      · next hhead =>
        cases h
        simp only [Bool.and_eq_true] at hhead
        obtain ⟨⟨⟨ha, hb⟩, hc⟩, hd⟩ := hhead
        exact ⟨[a, b, c, d], ⟨rfl, by simp [ha, hb], by simp [hc, hd]⟩, rfl⟩
      · cases h
    · cases h
  · rintro ⟨head, ⟨hlen, hletters, hdigits⟩, rfl⟩
    match head, hlen with
    | [a, b, c, d], _ =>
      simp only [List.take_succ_cons, List.take_zero, List.drop_succ_cons, List.drop_zero,
        List.mem_cons, List.not_mem_nil, or_false, forall_eq_or_imp, forall_eq] at hletters hdigits
      simp [afterHead, hletters, hdigits]

theorem afterHead_eq_nil_iff {cs : List Char} : afterHead cs = some [] ↔ IsHead cs := by
  rw [afterHead_eq_some_iff]
  constructor
  · rintro ⟨head, hhead, rfl⟩
    simpa using hhead
  · intro h
    exact ⟨cs, h, by simp⟩

theorem IsHead.symbols {cs : List Char} (h : IsHead cs) :
    ∀ c ∈ cs, isDecimal c = true ∨ isCapitalOrDigit c = true := by
  intro c hc
  rw [← List.take_append_drop 2 cs, List.mem_append] at hc
  rcases hc with hc | hc
  · exact .inr (isCapitalOrDigit_iff.2 (.inl (h.letters c hc)))
  · exact .inl (h.digits c hc)

/-- Words of the shape of an identifier. -/
theorem hasShape_iff {least most : Nat} {word : List Char} :
    hasShape least most word = true ↔ ∃ head rest, word = head ++ rest ∧ IsHead head ∧
      (least ≤ rest.length ∧ rest.length ≤ most) ∧ ∀ c ∈ rest, isCapitalOrDigit c = true := by
  unfold hasShape
  split
  · next rest hrest =>
    obtain ⟨head, hhead, rfl⟩ := afterHead_eq_some_iff.1 hrest
    simp only [Bool.and_eq_true, decide_eq_true_eq, List.all_eq_true]
    constructor
    · intro ⟨hlen, hall⟩
      exact ⟨head, rest, rfl, hhead, hlen, hall⟩
    · intro ⟨head', rest', hcut, hhead', hlen, hall⟩
      obtain ⟨-, rfl⟩ := List.append_inj hcut (hhead.length_eq.trans hhead'.length_eq.symm)
      exact ⟨hlen, hall⟩
  · next hnone =>
    constructor
    · intro h
      cases h
    · intro ⟨head, rest, hcut, hhead, _⟩
      rw [afterHead_eq_some_iff.2 ⟨head, hhead, hcut⟩] at hnone
      cases hnone

/-- The characters of a word of such a shape. -/
theorem symbols_of_hasShape {least most : Nat} {word : List Char}
    (h : hasShape least most word = true) :
    ∀ c ∈ word, isDecimal c = true ∨ isCapitalOrDigit c = true := by
  obtain ⟨head, rest, rfl, hhead, -, hall⟩ := hasShape_iff.1 h
  intro c hc
  rcases List.mem_append.1 hc with hc | hc
  · exact hhead.symbols c hc
  · exact .inr (hall c hc)

/-! ## Groups -/

/-- Four capitals and digits. -/
structure FourGroup (cs : List Char) : Prop where
  length_eq : cs.length = 4
  capitals : ∀ c ∈ cs, isCapitalOrDigit c = true

/-- A full group, one space behind the word before. -/
structure IsFull (w : Word) : Prop where
  gap : w.gap = [' ']
  four : FourGroup w.chars

/-- Words that stand one space behind each other and are groups of capitals and digits. -/
structure InGroups (us : List Word) : Prop where
  gaps : ∀ u ∈ us, u.gap = [' ']
  capitals : ∀ u ∈ us, ∀ c ∈ u.chars, isCapitalOrDigit c = true
  grouped : Grouped (us.map Word.chars)

/-- The characters of words. -/
def chars (us : List Word) : List Char := us.flatMap Word.chars

@[simp] theorem chars_nil : chars [] = [] := rfl

@[simp] theorem chars_cons (u : Word) (us : List Word) : chars (u :: us) = u.chars ++ chars us :=
  List.flatMap_cons

theorem chars_eq_flatten (us : List Word) : chars us = (us.map Word.chars).flatten :=
  List.flatMap_def

theorem FourGroup.ne_nil {cs : List Char} (h : FourGroup cs) : cs ≠ [] := by
  rintro rfl
  cases h.length_eq

theorem InGroups.ne_nil {us : List Word} (h : InGroups us) : us ≠ [] := by
  rintro rfl
  exact h.grouped.ne_nil rfl

theorem inGroups_singleton {u : Word} :
    InGroups [u] ↔ u.gap = [' '] ∧ (∀ c ∈ u.chars, isCapitalOrDigit c = true) ∧
      u.chars ≠ [] ∧ u.chars.length ≤ 4 := by
  constructor
  · intro ⟨hgap, hcapitals, hgrouped⟩
    refine ⟨hgap u (by simp), hcapitals u (by simp), ?_⟩
    cases hgrouped with
    | last hne hle => exact ⟨hne, hle⟩
    | cons _ hnil => exact absurd rfl hnil.ne_nil
  · intro ⟨hgap, hcapitals, hne, hle⟩
    exact ⟨by simpa using hgap, by simpa using hcapitals, .last hne hle⟩

/-- A full group may stand alone or before other groups. -/
theorem inGroups_cons {u : Word} {us : List Word} (hus : us ≠ []) :
    InGroups (u :: us) ↔ IsFull u ∧ InGroups us := by
  constructor
  · intro ⟨hgap, hcapitals, hgrouped⟩
    rw [List.map_cons] at hgrouped
    generalize hgs : us.map Word.chars = gs at hgrouped
    cases hgrouped with
    | last => exact absurd (List.map_eq_nil_iff.1 hgs) hus
    | cons hlen hgrouped =>
      refine ⟨⟨hgap u (by simp), hlen, hcapitals u (by simp)⟩, ?_⟩
      exact ⟨fun v hv => hgap v (by simp [hv]), fun v hv => hcapitals v (by simp [hv]),
        hgs ▸ hgrouped⟩
  · intro ⟨hu, hgaps, hcapitals, hgrouped⟩
    refine ⟨fun v hv => ?_, fun v hv => ?_, .cons hu.four.length_eq hgrouped⟩
    · rcases List.mem_cons.1 hv with rfl | hv
      · exact hu.gap
      · exact hgaps v hv
    · rcases List.mem_cons.1 hv with rfl | hv
      · exact hu.four.capitals
      · exact hcapitals v hv

/-- A head and the groups behind it are known by what they hold. -/
theorem InGroups.eq_of_append_eq {us : List Word} (h : InGroups us) {w : Word} {head : List Char}
    {groups : List (List Char)} (hw : IsHead w.chars) (hhead : IsHead head)
    (hgroups : Grouped groups) (heq : head ++ groups.flatten = w.chars ++ chars us) :
    head = w.chars ∧ groups = us.map Word.chars := by
  obtain ⟨rfl, hflat⟩ := List.append_inj heq (hhead.length_eq.trans hw.length_eq.symm)
  exact ⟨rfl, hgroups.ext_flatten h.grouped (by rw [hflat, chars_eq_flatten])⟩

theorem IsFull.inGroups {u : Word} (h : IsFull u) : InGroups [u] :=
  inGroups_singleton.2 ⟨h.gap, h.four.capitals, h.four.ne_nil, Nat.le_of_eq h.four.length_eq⟩

/-! ## The groups taken -/

theorem isFull_iff {w : Word} :
    (isNext w && w.chars.length == 4 && w.chars.all isCapitalOrDigit) = true ↔ IsFull w := by
  simp only [isNext, Bool.and_eq_true, beq_iff_eq, List.all_eq_true]
  constructor
  · intro ⟨⟨hgap, hlen⟩, hcapitals⟩
    exact ⟨hgap, hlen, hcapitals⟩
  · intro ⟨hgap, hlen, hcapitals⟩
    exact ⟨⟨hgap, hlen⟩, hcapitals⟩

theorem fullGroups_of_isFull {w : Word} (h : IsFull w) (limit : Nat) (ws : List Word) :
    fullGroups (limit + 1) (w :: ws) =
      (w.chars :: (fullGroups limit ws).1, (fullGroups limit ws).2) := by
  rw [fullGroups, if_pos (isFull_iff.2 h)]

theorem fullGroups_of_not_isFull {w : Word} (h : ¬ IsFull w) (limit : Nat) (ws : List Word) :
    fullGroups (limit + 1) (w :: ws) = ([], w :: ws) := by
  rw [fullGroups, if_neg (mt isFull_iff.1 h)]

/-- The groups that a site takes: full ones, up to a limit, and perhaps a shorter one. -/
def groupsFrom (limit : Nat) (ws : List Word) : List (List Char) :=
  (fullGroups limit ws).1 ++ lastGroup (fullGroups limit ws).2

theorem groupsFrom_of_isFull {w : Word} (h : IsFull w) (limit : Nat) (ws : List Word) :
    groupsFrom (limit + 1) (w :: ws) = w.chars :: groupsFrom limit ws := by
  rw [groupsFrom, fullGroups_of_isFull h]
  rfl

theorem groupsFrom_of_not_isFull {w : Word} (h : ¬ IsFull w) (limit : Nat) (ws : List Word) :
    groupsFrom limit (w :: ws) = lastGroup (w :: ws) := by
  cases limit with
  | zero => rfl
  | succ limit =>
    rw [groupsFrom, fullGroups_of_not_isFull h]
    rfl

private theorem lastGroup_eq_take (ws : List Word) :
    lastGroup ws = (ws.take (lastGroup ws).length).map Word.chars := by
  cases ws with
  | nil => rfl
  | cons w ws =>
    rw [lastGroup]
    split <;> rfl

/-- The groups taken are the first words behind the head. -/
theorem groupsFrom_eq_take (limit : Nat) (ws : List Word) :
    groupsFrom limit ws = (ws.take (groupsFrom limit ws).length).map Word.chars := by
  induction limit generalizing ws with
  | zero => exact lastGroup_eq_take ws
  | succ limit ih =>
    cases ws with
    | nil => rfl
    | cons w ws =>
      by_cases hw : IsFull w
      · rw [groupsFrom_of_isFull hw, List.length_cons, List.take_succ_cons, List.map_cons, ← ih]
      · rw [groupsFrom_of_not_isFull hw]
        exact lastGroup_eq_take _

/-- A shorter group is taken alone. -/
private theorem prefix_lastGroup_iff {u : Word} {us vs : List Word} (hne : u.chars ≠ []) :
    (u :: us).map Word.chars <+: lastGroup (u :: us ++ vs) ↔
      us = [] ∧ InGroups [u] ∧ u.chars.length < 4 := by
  rw [inGroups_singleton, List.map_cons, List.cons_append, lastGroup]
  simp only [isNext, Bool.and_eq_true, beq_iff_eq, decide_eq_true_eq, List.all_eq_true]
  split
  · next h =>
    obtain ⟨⟨hgap, hlt⟩, hcapitals⟩ := h
    rw [List.cons_prefix_cons, List.prefix_nil, List.map_eq_nil_iff]
    constructor
    · rintro ⟨-, rfl⟩
      exact ⟨rfl, ⟨hgap, hcapitals, hne, by omega⟩, hlt⟩
    · rintro ⟨rfl, -⟩
      exact ⟨rfl, rfl⟩
  · next h =>
    rw [List.prefix_nil]
    constructor
    · intro hnil
      cases hnil
    · rintro ⟨-, ⟨hgap, hcapitals, -⟩, hlt⟩
      exact absurd ⟨⟨hgap, hlt⟩, hcapitals⟩ h

/-- Where the limit is reached, or a group is not full, a shorter group is the only one to come. -/
private theorem inGroups_short_iff {limit : Nat} {u : Word} {us : List Word}
    (h : IsFull u → limit = 0) :
    (us = [] ∧ InGroups [u] ∧ u.chars.length < 4) ↔
      InGroups (u :: us) ∧ (chars (u :: us)).length ≤ 4 * limit + 3 := by
  rw [chars_cons, List.length_append]
  constructor
  · rintro ⟨rfl, hu, hlt⟩
    refine ⟨hu, ?_⟩
    rw [chars_nil, List.length_nil]
    omega
  · intro ⟨hgroups, hle⟩
    by_cases hnil : us = []
    · subst hnil
      obtain ⟨hgap, hcapitals, -, hlen⟩ := inGroups_singleton.1 hgroups
      refine ⟨rfl, hgroups, Nat.lt_of_le_of_ne hlen fun hfour => ?_⟩
      have := h ⟨hgap, hfour, hcapitals⟩
      omega
    · have hu := ((inGroups_cons hnil).1 hgroups).1
      have := h hu
      have := hu.four.length_eq
      omega

/-- Words are taken as groups if and only if they are groups and not too many. -/
theorem prefix_groupsFrom_iff (limit : Nat) {us : List Word} (vs : List Word) (hus : us ≠ [])
    (hne : ∀ u ∈ us, u.chars ≠ []) :
    us.map Word.chars <+: groupsFrom limit (us ++ vs) ↔
      InGroups us ∧ (chars us).length ≤ 4 * limit + 3 := by
  -- along the words: each full group uses up one of the limit, and the first other word ends it
  induction us generalizing limit with
  | nil => exact absurd rfl hus
  | cons u us ih =>
    have hu := hne u (by simp)
    by_cases hfull : IsFull u
    · cases limit with
      | zero =>
        show (u :: us).map Word.chars <+: lastGroup (u :: us ++ vs) ↔ _
        rw [prefix_lastGroup_iff hu, inGroups_short_iff fun _ => rfl]
      | succ limit =>
        rw [List.cons_append, groupsFrom_of_isFull hfull, List.map_cons, List.cons_prefix_cons,
          chars_cons, List.length_append, hfull.four.length_eq]
        by_cases hnil : us = []
        · subst hnil
          simp [hfull.inGroups]
          omega
        · rw [ih _ hnil fun v hv => hne v (by simp [hv]), inGroups_cons hnil]
          constructor
          · intro ⟨_, hgroups, hle⟩
            exact ⟨⟨hfull, hgroups⟩, by omega⟩
          · intro ⟨⟨_, hgroups⟩, hle⟩
            exact ⟨rfl, hgroups, by omega⟩
    · rw [List.cons_append, groupsFrom_of_not_isFull hfull, ← List.cons_append,
        prefix_lastGroup_iff hu, inGroups_short_iff fun h => absurd h hfull]

/-- A full group is taken if and only if the groups taken have four characters at least. -/
private theorem fullGroups_ne_nil_iff {limit : Nat} {u : Word} {us vs : List Word}
    (hu : u.chars ≠ [])
    (hbegins : (u :: us).map Word.chars <+: groupsFrom (limit + 1) (u :: us ++ vs)) :
    (fullGroups (limit + 1) (u :: us ++ vs)).1 ≠ [] ↔ 4 ≤ (chars (u :: us)).length := by
  rw [List.cons_append] at hbegins ⊢
  rw [chars_cons, List.length_append]
  by_cases hfull : IsFull u
  · rw [fullGroups_of_isFull hfull, hfull.four.length_eq]
    simp
  · rw [groupsFrom_of_not_isFull hfull, ← List.cons_append, prefix_lastGroup_iff hu] at hbegins
    obtain ⟨rfl, -, hlt⟩ := hbegins
    rw [fullGroups_of_not_isFull hfull, chars_nil, List.length_nil]
    simp only [ne_eq, not_true_eq_false, false_iff]
    omega

/-! ## Sites -/

theorem printedGroups_eq_some_iff {w : Word} {ws : List Word} {head : List Char}
    {groups : List (List Char)} :
    printedGroups (w :: ws) = some (head, groups) ↔
      IsHead w.chars ∧ (fullGroups 7 ws).1 ≠ [] ∧ head = w.chars ∧ groups = groupsFrom 7 ws := by
  rw [← afterHead_eq_nil_iff, groupsFrom, printedGroups]
  generalize fullGroups 7 ws = taken
  obtain ⟨full, rest⟩ := taken
  split
  · next g gs rest' hhead htaken =>
    cases htaken
    simp [hhead, eq_comm]
  · next hno =>
    constructor
    · rintro ⟨⟩
    · rintro ⟨hhead, hfull, -⟩
      cases full with
      | nil => exact absurd rfl hfull
      | cons g gs => exact absurd rfl (hno g gs rest hhead)

/-- The groups of a site are words behind its head. -/
theorem printedGroups_eq_take {w : Word} {ws : List Word} {head : List Char}
    {groups : List (List Char)} (h : printedGroups (w :: ws) = some (head, groups)) :
    groups = (ws.take groups.length).map Word.chars := by
  obtain ⟨-, -, -, rfl⟩ := printedGroups_eq_some_iff.1 h
  exact groupsFrom_eq_take 7 ws

/-- So are the first ones among them. -/
theorem exists_words_of_prefix {w : Word} {ws : List Word} {head : List Char}
    {groups taken : List (List Char)} (h : printedGroups (w :: ws) = some (head, groups))
    (hbegins : taken <+: groups) : ∃ us vs, ws = us ++ vs ∧ us.map Word.chars = taken := by
  refine ⟨_, _, (List.take_append_drop taken.length ws).symm, ?_⟩
  have := hbegins.trans (printedGroups_eq_take h ▸ (List.take_prefix _ _).map Word.chars)
  rw [List.map_take]
  exact (List.prefix_iff_eq_take.1 this).symm

/-- Which words behind a head are taken as its groups. The first of them is always a full one. -/
theorem prefix_printedGroups_iff (w : Word) {us : List Word} (vs : List Word) (hus : us ≠ [])
    (hne : ∀ u ∈ us, u.chars ≠ []) :
    (∃ groups, printedGroups (w :: (us ++ vs)) = some (w.chars, groups) ∧
        us.map Word.chars <+: groups) ↔
      IsHead w.chars ∧ InGroups us ∧ 4 ≤ (chars us).length ∧ (chars us).length ≤ 31 := by
  have htaken := prefix_groupsFrom_iff 7 vs hus hne
  obtain ⟨u, us, rfl⟩ := List.exists_cons_of_ne_nil hus
  have hu := hne u (by simp)
  simp only [printedGroups_eq_some_iff, true_and]
  constructor
  · rintro ⟨groups, ⟨hhead, hsome, rfl⟩, hbegins⟩
    obtain ⟨hgroups, hle⟩ := htaken.1 hbegins
    exact ⟨hhead, hgroups, (fullGroups_ne_nil_iff hu hbegins).1 hsome, hle⟩
  · intro ⟨hhead, hgroups, hge, hle⟩
    have hbegins := htaken.2 ⟨hgroups, hle⟩
    exact ⟨_, ⟨hhead, (fullGroups_ne_nil_iff hu hbegins).2 hge, rfl⟩, hbegins⟩

/-- The candidates of a site are its head with one or more of its groups. -/
theorem mem_trimmed {head c : List Char} {groups : List (List Char)} :
    c ∈ trimmed head groups ↔
      ∃ taken, taken ≠ [] ∧ taken <+: groups ∧ c = head ++ taken.flatten := by
  induction groups generalizing head with
  | nil =>
    simp only [trimmed, List.not_mem_nil, List.prefix_nil, false_iff]
    rintro ⟨taken, hne, hnil, -⟩
    exact hne hnil
  | cons g gs ih =>
    rw [trimmed, List.mem_append, List.mem_singleton, ih]
    constructor
    · rintro (⟨taken, -, hbegins, rfl⟩ | rfl)
      · exact ⟨g :: taken, by simp, List.cons_prefix_cons.2 ⟨rfl, hbegins⟩, by simp⟩
      · exact ⟨[g], by simp, by simp, by simp⟩
    · rintro ⟨taken, hne, hbegins, rfl⟩
      cases taken with
      | nil => exact absurd rfl hne
      | cons t taken =>
        obtain ⟨rfl, hrest⟩ := List.cons_prefix_cons.1 hbegins
        cases taken with
        | nil => exact .inr (by simp)
        | cons t' taken => exact .inl ⟨t' :: taken, by simp, hrest, by simp⟩

/-- The candidates of a site, among the words of a text: the head, and behind it groups with four to
31 characters. -/
theorem exists_candidate_iff {w : Word} {after : List Word} {c : List Char}
    (hne : ∀ u ∈ after, u.chars ≠ []) :
    (∃ head groups, printedGroups (w :: after) = some (head, groups) ∧ c ∈ trimmed head groups) ↔
      ∃ us vs, after = us ++ vs ∧ IsHead w.chars ∧ InGroups us ∧ 4 ≤ (chars us).length ∧
        (chars us).length ≤ 31 ∧ c = w.chars ++ chars us := by
  constructor
  · intro ⟨head, groups, hgroups, hc⟩
    obtain ⟨taken, htaken, hbegins, rfl⟩ := mem_trimmed.1 hc
    obtain rfl : head = w.chars := (printedGroups_eq_some_iff.1 hgroups).2.2.1
    obtain ⟨us, vs, rfl, rfl⟩ := exists_words_of_prefix hgroups hbegins
    have hspec := (prefix_printedGroups_iff w vs (by simpa using htaken)
      fun u hu => hne u (by simp [hu])).1 ⟨groups, hgroups, hbegins⟩
    exact ⟨us, vs, rfl, hspec.1, hspec.2.1, hspec.2.2.1, hspec.2.2.2, by rw [chars_eq_flatten]⟩
  · rintro ⟨us, vs, rfl, hhead, hin, hge, hle, rfl⟩
    obtain ⟨groups, hgroups, hbegins⟩ := (prefix_printedGroups_iff w vs hin.ne_nil
      fun u hu => hne u (by simp [hu])).2 ⟨hhead, hin, hge, hle⟩
    refine ⟨_, groups, hgroups, mem_trimmed.2 ⟨_, ?_, hbegins, by rw [chars_eq_flatten]⟩⟩
    simpa using hin.ne_nil

/-! ## The scan -/

/-- The words to be passed over behind a word, if there are `skip` of them from this word on. -/
def skipNext (skip : Nat) (w : Word) (ws : List Word) : Nat :=
  match skip with
  | skip + 1 => skip
  | 0 => match printedGroups (w :: ws) with
    | some (_, groups) => groups.length
    | none => 0

/-- The words to be passed over behind the first words `ws`, the others being `vs`. -/
def skipAfter (skip : Nat) : List Word → List Word → Nat
  | [], _ => skip
  | w :: ws, vs => skipAfter (skipNext skip w (ws ++ vs)) ws vs

theorem skipAfter_append (skip : Nat) (ws us vs : List Word) :
    skipAfter skip (ws ++ us) vs = skipAfter (skipAfter skip ws (us ++ vs)) us vs := by
  induction ws generalizing skip with
  | nil => rfl
  | cons w ws ih => rw [List.cons_append, skipAfter, skipAfter, ih, List.append_assoc]

/-- Words are passed over without a look at them. -/
theorem skipAfter_eq_sub {skip : Nat} {ws vs : List Word} (h : ws.length ≤ skip) :
    skipAfter skip ws vs = skip - ws.length := by
  induction ws generalizing skip with
  | nil => rfl
  | cons w ws ih =>
    rw [List.length_cons] at h ⊢
    obtain ⟨skip, rfl⟩ := Nat.exists_eq_add_one_of_ne_zero (n := skip) (by omega)
    show skipAfter skip ws vs = _
    rw [ih (by omega)]
    omega

/-- The scan makes a site of a word if it does not pass over it and finds groups behind it. -/
theorem mem_printedSites {skip : Nat} {ws : List Word} {site : Site} :
    site ∈ printedSites skip ws ↔ ∃ before w after head groups, ws = before ++ w :: after ∧
      skipAfter skip before (w :: after) = 0 ∧
      printedGroups (w :: after) = some (head, groups) ∧
      site = ⟨w.start, trimmed head groups⟩ := by
  induction ws generalizing skip with
  | nil => simp [printedSites]
  | cons u ws ih =>
    -- behind the first word the scan goes on with what it has to pass over there
    have hrest : site ∈ printedSites (skipNext skip u ws) ws ↔
        ∃ before w after head groups, u :: ws = u :: before ++ w :: after ∧
          skipAfter skip (u :: before) (w :: after) = 0 ∧
          printedGroups (w :: after) = some (head, groups) ∧
          site = ⟨w.start, trimmed head groups⟩ := by
      rw [ih]
      constructor
      · rintro ⟨before, w, after, head, groups, rfl, h⟩
        exact ⟨before, w, after, head, groups, rfl, h⟩
      · intro h
        obtain ⟨before, w, after, head, groups, hws, h⟩ := h
        cases hws
        exact ⟨before, w, after, head, groups, rfl, h⟩
    have hsplit : site ∈ printedSites skip (u :: ws) ↔
        (skip = 0 ∧ ∃ head groups, printedGroups (u :: ws) = some (head, groups) ∧
          site = ⟨u.start, trimmed head groups⟩) ∨
        site ∈ printedSites (skipNext skip u ws) ws := by
      cases skip with
      | succ skip => simp [printedSites, skipNext]
      | zero =>
        rw [printedSites, skipNext]
        cases printedGroups (u :: ws) with
        | none => simp
        | some p =>
          obtain ⟨head, groups⟩ := p
          rw [List.mem_cons]
          refine or_congr_left ⟨fun h => ⟨rfl, head, groups, rfl, h⟩, ?_⟩
          rintro ⟨-, head', groups', heq, h⟩
          cases heq
          exact h
    rw [hsplit, hrest]
    constructor
    · rintro (⟨rfl, head, groups, h⟩ | ⟨before, h⟩)
      · exact ⟨[], u, ws, head, groups, rfl, rfl, h⟩
      · exact ⟨u :: before, h⟩
    · intro h
      obtain ⟨before, w, after, head, groups, hws, hskip, h⟩ := h
      cases before with
      | nil =>
        cases hws
        exact .inl ⟨hskip, head, groups, h⟩
      | cons b before =>
        cases hws
        exact .inr ⟨before, w, after, head, groups, rfl, hskip, h⟩

/-- The candidates of all sites: a head that is not passed over, with groups behind it. -/
theorem exists_site_iff {ws : List Word} {c : List Char} (hne : ∀ u ∈ ws, u.chars ≠ []) :
    (∃ site ∈ printedSites 0 ws, c ∈ site.candidates) ↔
      ∃ before w us vs, ws = before ++ w :: (us ++ vs) ∧
        skipAfter 0 before (w :: (us ++ vs)) = 0 ∧ IsHead w.chars ∧ InGroups us ∧
        4 ≤ (chars us).length ∧ (chars us).length ≤ 31 ∧ c = w.chars ++ chars us := by
  constructor
  · intro ⟨site, hsite, hc⟩
    obtain ⟨before, w, after, head, groups, rfl, hskip, hgroups, rfl⟩ := mem_printedSites.1 hsite
    obtain ⟨us, vs, rfl, hspec⟩ :=
      (exists_candidate_iff fun u hu => hne u (by simp [hu])).1 ⟨head, groups, hgroups, hc⟩
    exact ⟨before, w, us, vs, rfl, hskip, hspec⟩
  · rintro ⟨before, w, us, vs, rfl, hskip, hspec⟩
    obtain ⟨head, groups, hgroups, hc⟩ :=
      (exists_candidate_iff fun u hu => hne u (by simp [hu])).2 ⟨us, vs, rfl, hspec⟩
    exact ⟨_, mem_printedSites.2 ⟨before, w, _, head, groups, rfl, hskip, hgroups, rfl⟩, hc⟩

/-- What is to be passed over goes back to a site that is not passed over itself. -/
theorem skipAfter_pos_iff {ws vs : List Word} :
    0 < skipAfter 0 ws vs ↔ ∃ before w us head groups, ws = before ++ w :: us ∧
      skipAfter 0 before (w :: us ++ vs) = 0 ∧
      printedGroups (w :: (us ++ vs)) = some (head, groups) ∧ us.length < groups.length := by
  constructor
  · -- from the last word back: either it is the head itself, or it was passed over as well
    suffices h : ∀ k, skipAfter 0 ws vs = k + 1 →
        ∃ before w us head groups, ws = before ++ w :: us ∧
          skipAfter 0 before (w :: us ++ vs) = 0 ∧
          printedGroups (w :: (us ++ vs)) = some (head, groups) ∧
          groups.length = us.length + k + 1 by
      intro hpos
      obtain ⟨k, hk⟩ := Nat.exists_eq_add_one_of_ne_zero (Nat.ne_of_gt hpos)
      obtain ⟨before, w, us, head, groups, hws, hskip, hgroups, hlen⟩ := h k hk
      exact ⟨before, w, us, head, groups, hws, hskip, hgroups, by omega⟩
    induction ws using List.reverseRecOn generalizing vs with
    | nil =>
      intro k hk
      cases hk
    | append_singleton ws u ih =>
      intro k hk
      rw [skipAfter_append] at hk
      change skipNext (skipAfter 0 ws (u :: vs)) u vs = k + 1 at hk
      cases hskip : skipAfter 0 ws (u :: vs) with
      | zero =>
        rw [hskip, skipNext] at hk
        cases hgroups : printedGroups (u :: vs) with
        | none =>
          rw [hgroups] at hk
          cases hk
        | some p =>
          rw [hgroups] at hk
          exact ⟨ws, u, [], p.1, p.2, rfl, hskip, hgroups, by simpa using hk⟩
      | succ skip =>
        rw [hskip] at hk
        obtain rfl : skip = k + 1 := hk
        obtain ⟨before, w, us, head, groups, rfl, hbefore, hgroups, hlen⟩ := ih (k + 1) hskip
        refine ⟨before, w, us ++ [u], head, groups, by simp, by simpa using hbefore,
          by simpa using hgroups, ?_⟩
        rw [List.length_append, List.length_singleton]
        omega
  · rintro ⟨before, w, us, head, groups, rfl, hskip, hgroups, hlt⟩
    rw [skipAfter_append, hskip]
    show 0 < skipAfter (skipNext 0 w (us ++ vs)) us vs
    rw [skipNext, hgroups, skipAfter_eq_sub (Nat.le_of_lt hlt)]
    omega

end BankCodes.Scan
