import BankCodes.Proofs.Scan.Order
import BankCodes.Proofs.Scan.RunsOn

/-!
# The matches of a text

The scan for printed IBANs and the one for compact IBANs go over the words of a text each on its
own. Together they are one scan: `Matched ws ms` cuts the words `ws` from left to right into the
matches `ms` and other words, and each word belongs to one match at most.

* `exists_matched`: the words of a text can be cut in this way;
* `Matched.printedSites_eq` and `Matched.compactSites_eq`: the sites of the two scans are those of
  the printed matches and those of the compact ones;
* `Matched.stands` and `Matched.pairwise_stop`: a match stands free in the text, and ends before the
  next one starts;
* `Matched.perm_sites` and `Matched.sites_pairwise`: the sites of both scans are those of the matches,
  and no two of them start in the same place.
-/

namespace BankCodes.Scan

open Text

/-! ## Matches -/

/-- A word with the shape of a compact IBAN, or the head of a printed one with the groups behind
it. -/
structure Match where
  first : Word
  groups : List Word

namespace Match

/-- The text that is matched. -/
def text (m : Match) : List Char := spaced m.first.chars (m.groups.map Word.chars)

def start (m : Match) : Nat := m.first.start

/-- The place behind the match. -/
def stop (m : Match) : Nat := m.start + m.text.length

def isPrinted (m : Match) : Bool := !m.groups.isEmpty

/-- The site that the match makes. -/
def site (m : Match) : Site where
  start := m.start
  candidates := match m.groups with
    | [] => [m.first.chars]
    | u :: us => trimmed m.first.chars ((u :: us).map Word.chars)

theorem start_le_stop (m : Match) : m.start ≤ m.stop := Nat.le_add_right _ _

theorem isPrinted_mk {w : Word} {us : List Word} (h : us ≠ []) : isPrinted ⟨w, us⟩ = true := by
  simpa [isPrinted] using h

theorem site_printed {w : Word} {us : List Word} (h : us ≠ []) :
    site ⟨w, us⟩ = ⟨w.start, trimmed w.chars (us.map Word.chars)⟩ := by
  cases us with
  | nil => exact absurd rfl h
  | cons u us => rfl

end Match

/-! ## The groups behind a head -/

/-- The groups taken behind a head are words one space apart, cut off the words to come. -/
theorem exists_groups_of_printedGroups {w : Word} {ws : List Word} {head : List Char}
    {groups : List (List Char)} (hne : ∀ u ∈ ws, u.chars ≠ [])
    (h : printedGroups (w :: ws) = some (head, groups)) :
    ∃ us vs, ws = us ++ vs ∧ InGroups us ∧ head = w.chars ∧ groups = us.map Word.chars := by
  obtain ⟨-, hfull, rfl, hgroups⟩ := printedGroups_eq_some_iff.1 h
  obtain ⟨us, vs, rfl, hus⟩ := exists_words_of_prefix h (List.prefix_refl groups)
  have hnil : us ≠ [] := by
    rintro rfl
    rw [hgroups, groupsFrom] at hus
    exact hfull (List.append_eq_nil_iff.1 hus.symm).1
  have hspec := (prefix_printedGroups_iff w vs hnil fun u hu => hne u (by simp [hu])).1
    ⟨groups, h, hus ▸ List.prefix_refl _⟩
  exact ⟨us, vs, rfl, hspec.2.1, rfl, hus.symm⟩

/-- Groups behind a head are taken all together and nothing else with them, if the word behind them
is not one space apart. -/
theorem printedGroups_eq_of_inGroups {w : Word} {us vs : List Word} (hhead : IsHead w.chars)
    (hus : InGroups us) (hge : 4 ≤ (chars us).length) (hle : (chars us).length ≤ 31)
    (hne : ∀ u ∈ us ++ vs, u.chars ≠ []) (hnext : ∀ v, vs.head? = some v → v.gap ≠ [' ']) :
    printedGroups (w :: (us ++ vs)) = some (w.chars, us.map Word.chars) := by
  obtain ⟨groups, hgroups, hbegins⟩ := (prefix_printedGroups_iff w vs hus.ne_nil
    fun u hu => hne u (by simp [hu])).2 ⟨hhead, hus, hge, hle⟩
  obtain ⟨us', vs', hcut, hus', -, rfl⟩ := exists_groups_of_printedGroups hne hgroups
  -- a word more would have to be one space apart
  have hlen := hbegins.length_le
  rw [List.length_map, List.length_map] at hlen
  obtain ⟨more, rfl⟩ := List.prefix_of_prefix_length_le
    (List.prefix_append us vs) (hcut ▸ List.prefix_append us' vs') hlen
  cases more with
  | nil => rw [hgroups, List.append_nil]
  | cons v more =>
    rw [List.append_assoc, List.append_cancel_left_eq, List.cons_append] at hcut
    exact absurd (hus'.gaps v (by simp)) (hnext v (by rw [hcut]; rfl))

/-! ## One scan -/

/-- The words, cut from left to right into matches and other words. -/
inductive Matched : List Word → List Match → Prop where
  | nil : Matched [] []
  | printed {w : Word} {us vs : List Word} {ms : List Match} :
      printedGroups (w :: (us ++ vs)) = some (w.chars, us.map Word.chars) → InGroups us →
      Matched vs ms → Matched (w :: (us ++ vs)) (⟨w, us⟩ :: ms)
  | compact {w : Word} {ws : List Word} {ms : List Match} :
      isIbanWord w.chars = true → Matched ws ms → Matched (w :: ws) (⟨w, []⟩ :: ms)
  | other {w : Word} {ws : List Word} {ms : List Match} :
      printedGroups (w :: ws) = none → isIbanWord w.chars = false → Matched ws ms →
      Matched (w :: ws) ms

/-- A word of four characters at most is no IBAN. -/
theorem isIbanWord_of_length_le {cs : List Char} (h : cs.length ≤ 4) : isIbanWord cs = false := by
  rw [← Bool.not_eq_true, isIbanWord, hasShape_iff]
  rintro ⟨head, rest, rfl, hhead, ⟨hpos, -⟩, -⟩
  rw [List.length_append, hhead.length_eq] at h
  omega

/-- A compact IBAN is no head of a printed one. -/
theorem printedGroups_of_isIbanWord {w : Word} (ws : List Word)
    (h : isIbanWord w.chars = true) : printedGroups (w :: ws) = none := by
  rw [Option.eq_none_iff_forall_ne_some]
  rintro ⟨head, groups⟩ hgroups
  have hhead := (printedGroups_eq_some_iff.1 hgroups).1
  rw [isIbanWord_of_length_le (Nat.le_of_eq hhead.length_eq)] at h
  cases h

/-- Words are cut into matches and other words. -/
theorem exists_matched {ws : List Word} (hne : ∀ u ∈ ws, u.chars ≠ []) : ∃ ms, Matched ws ms := by
  match ws, hne with
  | [], _ => exact ⟨[], .nil⟩
  | w :: ws, hne =>
    have hrest : ∀ u ∈ ws, u.chars ≠ [] := fun u hu => hne u (by simp [hu])
    cases hgroups : printedGroups (w :: ws) with
    | none =>
      obtain ⟨ms, hms⟩ := exists_matched hrest
      cases hword : isIbanWord w.chars with
      | true => exact ⟨_, .compact hword hms⟩
      | false => exact ⟨_, .other hgroups hword hms⟩
    | some p =>
      obtain ⟨us, vs, hws, hus, hhead, htaken⟩ := exists_groups_of_printedGroups hrest hgroups
      have hvs : ∀ v ∈ vs, v.chars ≠ [] := fun v hv => hrest v (by simp [hws, hv])
      obtain ⟨ms, hms⟩ := exists_matched hvs
      rw [hws] at hgroups ⊢
      exact ⟨_, .printed (by rw [hgroups, ← hhead, ← htaken]) hus hms⟩
termination_by ws.length
decreasing_by
  · exact Nat.lt_succ_self _
  · rw [hws, List.length_cons, List.length_append]
    omega

/-! ## The two scans -/

/-- The words of a printed match are not looked at again. -/
theorem printedSites_skip (us vs : List Word) :
    printedSites us.length (us ++ vs) = printedSites 0 vs := by
  induction us with
  | nil => rfl
  | cons u us ih => exact ih

theorem compactSites_of_shape {shape : List Char → Bool} {w : Word} (h : shape w.chars = true)
    (ws : List Word) :
    compactSites shape (w :: ws) = ⟨w.start, [w.chars]⟩ :: compactSites shape ws := by
  rw [compactSites, List.filter_cons_of_pos (by exact h)]
  rfl

/-- Words of another shape make no compact sites. -/
theorem compactSites_skip {shape : List Char → Bool} {us : List Word}
    (h : ∀ u ∈ us, shape u.chars = false) (vs : List Word) :
    compactSites shape (us ++ vs) = compactSites shape vs := by
  have hnone : us.filter (shape ·.chars) = [] := by
    rw [List.filter_eq_nil_iff]
    intro u hu
    rw [h u hu]
    exact Bool.false_ne_true
  rw [compactSites, List.filter_append, hnone]
  rfl

variable {ws : List Word} {ms : List Match}

/-- The scan for printed IBANs gives the sites of the printed matches. -/
theorem Matched.printedSites_eq (h : Matched ws ms) :
    printedSites 0 ws = (ms.filter Match.isPrinted).map Match.site := by
  induction h with
  | nil => rfl
  | @printed w us vs ms hgroups hus _ ih =>
    rw [List.filter_cons_of_pos (Match.isPrinted_mk hus.ne_nil), List.map_cons,
      Match.site_printed hus.ne_nil, ← ih, ← printedSites_skip us vs, printedSites, hgroups]
    simp
  | @compact w ws ms hword _ ih =>
    rw [printedSites, printedGroups_of_isIbanWord ws hword]
    exact ih
  | other hgroups _ _ ih =>
    rw [printedSites, hgroups]
    exact ih

/-- The scan for compact IBANs gives the sites of the others. -/
theorem Matched.compactSites_eq (h : Matched ws ms) :
    compactSites isIbanWord ws = (ms.filter fun m => !m.isPrinted).map Match.site := by
  induction h with
  | nil => rfl
  | @printed w us vs ms hgroups hus _ ih =>
    have hhead := (printedGroups_eq_some_iff.1 hgroups).1
    -- the words of a printed match are too short
    have hshort : ∀ u ∈ w :: us, isIbanWord u.chars = false := by
      intro u hu
      apply isIbanWord_of_length_le
      rcases List.mem_cons.1 hu with rfl | hu
      · exact Nat.le_of_eq hhead.length_eq
      · exact hus.grouped.length_le_of_mem _ (List.mem_map_of_mem hu)
    rw [List.filter_cons_of_neg (by simp [Match.isPrinted_mk hus.ne_nil]), ← ih, ← List.cons_append]
    exact compactSites_skip hshort vs
  | @compact w ws ms hword _ ih =>
    rw [List.filter_cons_of_pos (by rfl), List.map_cons, ← ih]
    exact compactSites_of_shape hword ws
  | @other w ws ms _ hword _ ih =>
    rw [← ih]
    have hshape : ∀ u ∈ [w], isIbanWord u.chars = false := by simpa using hword
    exact compactSites_skip hshape ws

/-! ## Where the matches stand -/

/-- A match is a word with the words behind it, one space apart. -/
theorem Matched.exists_cut (h : Matched ws ms) {m : Match} (hm : m ∈ ms) :
    ∃ before after, ws = before ++ m.first :: (m.groups ++ after) ∧
      ∀ u ∈ m.groups, u.gap = [' '] := by
  induction h with
  | nil => cases hm
  | @printed w us vs ms _ hus _ ih =>
    rcases List.mem_cons.1 hm with rfl | hm
    · exact ⟨[], vs, rfl, hus.gaps⟩
    · obtain ⟨before, after, rfl, hgaps⟩ := ih hm
      exact ⟨w :: (us ++ before), after, by simp, hgaps⟩
  | @compact w ws ms _ _ ih =>
    rcases List.mem_cons.1 hm with rfl | hm
    · exact ⟨[], ws, rfl, by simp⟩
    · obtain ⟨before, after, rfl, hgaps⟩ := ih hm
      exact ⟨w :: before, after, rfl, hgaps⟩
  | @other w _ _ _ _ _ ih =>
    obtain ⟨before, after, rfl, hgaps⟩ := ih hm
    exact ⟨w :: before, after, rfl, hgaps⟩

theorem Matched.first_mem (h : Matched ws ms) {m : Match} (hm : m ∈ ms) : m.first ∈ ws := by
  obtain ⟨before, after, rfl, -⟩ := h.exists_cut hm
  simp

/-- A match stands free in the text, at the place where it starts. -/
theorem Matched.stands (h : Matched ws ms) {tail cs : List Char} (hlaid : Laid 0 ws tail cs)
    {m : Match} (hm : m ∈ ms) :
    ∃ before after, Stands cs before m.text after ∧ before.length = m.start := by
  obtain ⟨before, after, rfl, hgaps⟩ := h.exists_cut hm
  obtain ⟨front, rest, hstands, hstart, -⟩ := hlaid.stands hgaps
  exact ⟨front, rest, hstands, by rw [Match.start, hstart, Nat.zero_add]⟩

/-- Behind a match the text goes on where the match stops. -/
theorem Matched.lt_start {vs us : List Word} {w : Word} {n : Nat} {tail cs : List Char}
    (h : Matched vs ms) (hgaps : ∀ u ∈ us, u.gap = [' '])
    (hlaid : Laid n (w :: (us ++ vs)) tail cs) :
    (∀ m ∈ ms, Match.stop ⟨w, us⟩ < m.start) ∧
      ∃ rest, Laid (Match.stop ⟨w, us⟩) vs tail rest := by
  have hlaid : Laid n ([] ++ w :: (us ++ vs)) tail cs := hlaid
  obtain ⟨before, after, hstands, -, -, hafter⟩ := hlaid.stands hgaps
  exact ⟨fun m hm => hafter.lt_start hstands.starts m.first (h.first_mem hm), after, hafter⟩

/-- A match ends before the next one starts. -/
theorem Matched.pairwise_stop (h : Matched ws ms) {n : Nat} {tail cs : List Char}
    (hlaid : Laid n ws tail cs) : ms.Pairwise fun a b => a.stop < b.start := by
  induction h generalizing n cs with
  | nil => exact .nil
  | printed _ hus hms ih =>
    obtain ⟨hlt, rest, hrest⟩ := hms.lt_start hus.gaps hlaid
    exact List.pairwise_cons.2 ⟨hlt, ih hrest⟩
  | compact _ hms ih =>
    have hnone : ∀ u ∈ ([] : List Word), u.gap = [' '] := by simp
    obtain ⟨hlt, rest, hrest⟩ := hms.lt_start hnone hlaid
    exact List.pairwise_cons.2 ⟨hlt, ih hrest⟩
  | other _ _ _ ih =>
    cases hlaid with
    | cons _ _ _ _ hrest => exact ih hrest

/-! ## What the matches give -/

/-- The sites of a text where an IBAN may stand: the printed ones, then the compact ones. -/
def ibanSites (ws : List Word) : List Site := printedSites 0 ws ++ compactSites isIbanWord ws

theorem Matched.perm_sites (h : Matched ws ms) : (ibanSites ws).Perm (ms.map Match.site) := by
  rw [ibanSites, h.printedSites_eq, h.compactSites_eq, ← List.map_append]
  exact (List.filter_append_perm Match.isPrinted ms).map Match.site

theorem Matched.sites_pairwise (h : Matched ws ms) {n : Nat} {tail cs : List Char}
    (hlaid : Laid n ws tail cs) :
    (ms.map Match.site).Pairwise fun a b => a.start < b.start := by
  rw [List.pairwise_map]
  exact (h.pairwise_stop hlaid).imp fun hlt => Nat.lt_of_le_of_lt (Match.start_le_stop _) hlt

end BankCodes.Scan
