import BankCodes.Proofs.Scan.Matches
import BankCodes.Proofs.Scan.PrintedForm
import BankCodes.Text.Pieces

/-!
# The match of the expression for printed IBANs

The expression is matched by trial: as many full groups as can be, then a shorter one, and then the
border of a word, which may send the trial back to fewer groups. The scan of the words of a text
takes the groups at once, and does not go back.

Where a word begins, the pieces that the expression may take are the word with one or more of the
groups that the scan takes behind it (`exists_ends_iff`). So the match, which is the longest of
them, is the word with all of these groups:

* `head?_trials_printed` and `trials_printed_eq_nil`: this is the match, and there is none if the
  scan takes no groups;
* `printedSites_eq_occurrences`: the sites of the scan are the occurrences of the expression;
* `printedExpression_longest`: the match is the longest printed form, made of whole words.
-/

namespace BankCodes.Scan

open Iban (Grouped)
open Text Text.Expression

/-! ## Where a printed text ends -/

/-- Words one space apart end with a word. -/
theorem exists_last_word {first : List Char} {others : List (List Char)}
    (hne : ∀ g ∈ first :: others, g ≠ []) :
    ∃ front, ∃ last ∈ first :: others, spaced first others = front ++ last := by
  induction others generalizing first with
  | nil => exact ⟨[], first, by simp, by simp⟩
  | cons g gs ih =>
    obtain ⟨front, last, hlast, hcut⟩ := ih fun d hd => hne d (List.mem_cons_of_mem _ hd)
    refine ⟨first ++ ' ' :: front, last, List.mem_cons_of_mem _ hlast, ?_⟩
    rw [List.append_assoc, List.cons_append, ← hcut]
    simp [spaced]

/-- A printed text ends at a border if the text behind it is free. -/
theorem isBorder_behind_spaced (before after : List Char) {first : List Char}
    {others : List (List Char)} (hne : ∀ g ∈ first :: others, g ≠ [])
    (hchars : ∀ g ∈ first :: others, ∀ c ∈ g, isWordChar c = true) :
    Cursor.isBorder ⟨(spaced first others).reverse ++ before, after⟩ = true ↔ StartsFree after := by
  obtain ⟨front, last, hlast, hcut⟩ := exists_last_word hne
  have h := isBorder_behind_word (before.reverse ++ front) after (hne last hlast) (hchars last hlast)
  rwa [List.append_assoc, ← hcut, List.reverse_append, List.reverse_reverse] at h

/-- From the border of a word on, a printed form that ends at such a border stands free. -/
theorem stands_of_ends {cur next : Cursor} {piece : List Char} (hcur : cur.isBorder = true)
    (h : Ends {cs | PrintedForm cs} cur piece next) :
    Stands (cur.before.reverse ++ cur.after) cur.before.reverse piece next.after := by
  obtain ⟨before, after⟩ := cur
  obtain ⟨front, behind⟩ := next
  obtain ⟨hpiece, ⟨hafter, hfront⟩, hborder⟩ := h
  obtain rfl : after = piece ++ behind := hafter
  obtain rfl : front = piece.reverse ++ before := hfront
  refine ⟨(List.append_assoc _ _ _).symm, ?_, ?_⟩
  · obtain ⟨c, rest, rfl, hc⟩ := begins_of_printedForm piece hpiece
    rw [← isBorder_before_word (rest ++ behind) hc, List.reverse_reverse]
    exact hcur
  · obtain ⟨head, groups, hhead, hgroups, hcapitals, -, -, rfl⟩ := printedForm_iff.1 hpiece
    obtain ⟨hne, hchars⟩ := words_of_printed hhead hgroups hcapitals
    exact (isBorder_behind_spaced before behind hne hchars).1 hborder

/-! ## The match at a word -/

section AtWord

variable {w : Word} {ws : List Word} {before rest tail : List Char} {m : Nat}
  (hends : EndsFree before) (hne : w.chars ≠ []) (hchars : ∀ c ∈ w.chars, isWordChar c = true)
  (hfree : StartsFree rest) (hlaid : Laid m ws tail rest)

include hends hne hchars in
theorem isBorder_at_word : Cursor.isBorder ⟨before.reverse, w.chars ++ rest⟩ = true := by
  obtain ⟨c, cs, hcs⟩ := List.exists_cons_of_ne_nil hne
  rw [hcs, List.cons_append, isBorder_before_word _ (hchars c (by simp [hcs]))]
  exact hends

include hends hne hchars hfree hlaid

/-- What the expression may take from a word on is the word with one or more of the groups that the
scan takes behind it. -/
theorem exists_ends_iff (piece : List Char) :
    (∃ next, Ends {cs | PrintedForm cs} ⟨before.reverse, w.chars ++ rest⟩ piece next) ↔
      ∃ groups taken, printedGroups (w :: ws) = some (w.chars, groups) ∧ taken ≠ [] ∧
        taken <+: groups ∧ piece = spaced w.chars taken := by
  constructor
  · rintro ⟨next, hnext⟩
    have hbehind := (stands_of_ends (isBorder_at_word hends hne hchars) hnext).starts
    obtain ⟨head, groups, hhead, hgroups, hcapitals, hge, hle, rfl⟩ := printedForm_iff.1 hnext.mem
    obtain ⟨hwords, hwordChars⟩ := words_of_printed hhead hgroups hcapitals
    rw [List.forall_mem_cons] at hwords hwordChars
    -- the head is the word, and the groups are the words behind it
    have hcut := hnext.takes.after
    rw [spaced, List.append_assoc] at hcut
    obtain ⟨hword, rfl⟩ := front_unique hchars hfree hwordChars.1 (startsFree_spaced _ hbehind) hcut
    obtain ⟨us, rfl, hgaps, hspaced⟩ := exists_laid_spaced hwords.2 hwordChars.2 hbehind m
    obtain ⟨tail', hafter⟩ := exists_laid
      (m + ((us.map Word.chars).flatMap (' ' :: ·)).length) next.after
    obtain ⟨rfl, -⟩ := hlaid.unique (hspaced _ _ hafter)
    have hin : InGroups us := ⟨hgaps, by simpa using hcapitals, hgroups⟩
    rw [← chars_eq_flatten] at hge hle
    obtain ⟨groups, htaken, hbegins⟩ := (prefix_printedGroups_iff w _ hin.ne_nil
      (by simpa using hwords.2)).2 ⟨hword ▸ hhead, hin, hge, hle⟩
    exact ⟨groups, _, htaken, hgroups.ne_nil, hbegins, by rw [hword]⟩
  · rintro ⟨groups, taken, hgroups, htaken, hbegins, rfl⟩
    obtain ⟨us, vs, rfl, rfl⟩ := exists_words_of_prefix hgroups hbegins
    obtain ⟨hhead, hin, hge, hle⟩ := (prefix_printedGroups_iff w vs (by simpa using htaken)
      fun u hu => hlaid.ne_nil u (by simp [hu])).1 ⟨groups, hgroups, hbegins⟩
    obtain ⟨after, rfl, -, hstarts⟩ := hlaid.cut_spaced hin.gaps
    have hcapitals : ∀ g ∈ us.map Word.chars, ∀ c ∈ g, isCapitalOrDigit c = true := by
      simpa using hin.capitals
    obtain ⟨hwords, hwordChars⟩ := words_of_printed hhead hin.grouped hcapitals
    rw [chars_eq_flatten] at hge hle
    have htext : w.chars ++ ((us.map Word.chars).flatMap (' ' :: ·) ++ after) =
        spaced w.chars (us.map Word.chars) ++ after := by
      rw [spaced, List.append_assoc]
    refine ⟨⟨_, after⟩, ?_, ⟨htext, rfl⟩, ?_⟩
    · exact printedForm_iff.2 ⟨_, _, hhead, hin.grouped, hcapitals, hge, hle, rfl⟩
    · exact (isBorder_behind_spaced _ _ hwords hwordChars).2 (hstarts hfree)

/-- The match is the word with all of the groups. -/
theorem head?_trials_printed {groups : List (List Char)} {next : Cursor}
    (hgroups : printedGroups (w :: ws) = some (w.chars, groups)) (hnil : groups ≠ [])
    (htakes : Cursor.Takes ⟨before.reverse, w.chars ++ rest⟩ (spaced w.chars groups) next) :
    (printedExpression.trials ⟨before.reverse, w.chars ++ rest⟩).head? = some next := by
  have hpieces := exists_ends_iff hends hne hchars hfree hlaid
  have hborder : Cursor.isBorder ⟨before.reverse, w.chars ++ rest⟩ = true :=
    isBorder_at_word hends hne hchars
  apply (head?_trials_word_eq_some_iff reads_printedBody hborder longestFirst_printedBody).2
  obtain ⟨stop, hall⟩ := (hpieces _).2 ⟨groups, groups, hgroups, hnil, List.prefix_refl _, rfl⟩
  obtain rfl := htakes.unique hall.takes
  refine ⟨_, hall, fun other stop hother => ?_⟩
  obtain ⟨groups', taken, hgroups', -, ⟨more, hmore⟩, rfl⟩ := (hpieces other).1 ⟨stop, hother⟩
  obtain rfl : groups' = groups := by
    rw [hgroups] at hgroups'
    cases hgroups'
    rfl
  rw [← hmore, spaced, spaced, List.flatMap_append, ← List.append_assoc]
  exact (List.prefix_append _ _).length_le

/-- There is none if the scan takes no groups. -/
theorem trials_printed_eq_nil (hgroups : printedGroups (w :: ws) = none) :
    printedExpression.trials ⟨before.reverse, w.chars ++ rest⟩ = [] := by
  have hborder : Cursor.isBorder ⟨before.reverse, w.chars ++ rest⟩ = true :=
    isBorder_at_word hends hne hchars
  apply (trials_word_eq_nil_iff reads_printedBody hborder).2
  intro piece next hnext
  obtain ⟨groups, taken, hsome, -⟩ := (exists_ends_iff hends hne hchars hfree hlaid piece).1
    ⟨next, hnext⟩
  rw [hgroups] at hsome
  cases hsome

/-- The search passes over such a word. -/
theorem occurrencesFrom_of_none (hgroups : printedGroups (w :: ws) = none) :
    printedExpression.occurrencesFrom 0 before.reverse (w.chars ++ rest) =
      printedExpression.occurrencesFrom 0 (before ++ w.chars).reverse rest :=
  occurrencesFrom_pass_word reads_printedBody begins_of_printedForm hne hchars
    (trials_printed_eq_nil hends hne hchars hfree hlaid hgroups)

/-- The search takes up a word with the groups behind it, and goes on behind them. -/
theorem exists_occurrencesFrom_of_some {us vs : List Word} (hcut : ws = us ++ vs)
    (hgroups : printedGroups (w :: ws) = some (w.chars, us.map Word.chars)) (hin : InGroups us) :
    ∃ after, StartsFree after ∧
      Laid (m + ((us.map Word.chars).flatMap (' ' :: ·)).length) vs tail after ∧
      printedExpression.occurrencesFrom 0 before.reverse (w.chars ++ rest) =
        ⟨before.length, spaced w.chars (us.map Word.chars)⟩ ::
          printedExpression.occurrencesFrom 0 (before ++ spaced w.chars (us.map Word.chars)).reverse
            after := by
  subst hcut
  obtain ⟨after, rfl, hafter, hstarts⟩ := hlaid.cut_spaced hin.gaps
  refine ⟨after, hstarts hfree, hafter, ?_⟩
  have htext : w.chars ++ ((us.map Word.chars).flatMap (' ' :: ·) ++ after) =
      spaced w.chars (us.map Word.chars) ++ after := by
    rw [spaced, List.append_assoc]
  have htakes : Cursor.Takes ⟨before.reverse, _⟩ (spaced w.chars (us.map Word.chars))
      ⟨(spaced w.chars (us.map Word.chars)).reverse ++ before.reverse, after⟩ := ⟨htext, rfl⟩
  have hmatch := head?_trials_printed hends hne hchars hfree hlaid hgroups hin.grouped.ne_nil htakes
  rw [htext] at hmatch ⊢
  have hnil : spaced w.chars (us.map Word.chars) ≠ [] := List.append_ne_nil_of_left_ne_nil hne _
  rw [occurrencesFrom_take hnil hmatch, List.length_reverse, List.reverse_append]

end AtWord

/-! ## The sites of a text -/

/-- The groups of a text, which are set off by spaces. -/
def groupsOf (cs : List Char) : List (List Char) := (pieces ' ' cs).1 :: (pieces ' ' cs).2

/-- The first `n` groups, joined. -/
def front (groups : List (List Char)) (n : Nat) : List Char := (groups.take n).flatten

/-- The first groups, joined: from all of them down to two. -/
def joinedGroups (groups : List (List Char)) : List (List Char) :=
  (List.range (groups.length - 1)).reverse.map fun n => front groups (n + 2)

/-- An occurrence of the expression, as a site with its first groups for the candidates. -/
def printedSite (o : Occurrence) : Site := ⟨o.start, joinedGroups (groupsOf o.chars)⟩

/-- The groups of a printed text are read back from it. -/
theorem groupsOf_spaced {first : List Char} {others : List (List Char)}
    (h : ∀ g ∈ first :: others, ∀ c ∈ g, isWordChar c = true) :
    groupsOf (spaced first others) = first :: others := by
  have hspace : ∀ g ∈ first :: others, ' ' ∉ g := by
    intro g hg hmem
    have := h g hg ' ' hmem
    revert this
    decide
  rw [groupsOf, spaced, ← rejoined, pieces_append_rejoined hspace]

/-- The candidates of the scan are the joined groups. -/
theorem trimmed_eq_joinedGroups (head : List Char) (groups : List (List Char)) :
    trimmed head groups = joinedGroups (head :: groups) := by
  induction groups generalizing head with
  | nil => rfl
  | cons g gs ih =>
    rw [trimmed, ih, joinedGroups, joinedGroups]
    simp [List.range_succ_eq_map, front]

/-- Along a layout the sites of the scan are the occurrences of the expression. -/
theorem printedSites_eq_occurrencesFrom {ws : List Word} {before tail cs : List Char}
    (hlaid : Laid before.length ws tail cs) (hfree : EndsFree before ∨ StartsFree cs) :
    printedSites 0 ws =
      (printedExpression.occurrencesFrom 0 before.reverse cs).map printedSite := by
  match ws, hlaid with
  | [], .nil htail =>
    have h := occurrencesFrom_gap reads_printedBody begins_of_printedForm before [] htail
    rw [List.append_nil] at h
    rw [printedExpression, h]
    rfl
  | _ :: ws, @Laid.cons _ gap chars _ rest _ hgap hne hchars hrest hlaid =>
    have hends := endsFree_gap hgap hne hchars hfree
    have hlen : (before ++ gap).length = before.length + gap.length := List.length_append
    have hpass := occurrencesFrom_gap reads_printedBody begins_of_printedForm before
      (chars ++ rest) hgap
    rw [← hlen, ← List.length_append] at hlaid
    rw [List.append_assoc, printedExpression, hpass, ← printedExpression, ← hlen]
    generalize hw : (⟨(before ++ gap).length, gap, chars⟩ : Word) = w
    obtain rfl : w.chars = chars := by rw [← hw]
    cases hgroups : printedGroups (w :: ws) with
    | none =>
      rw [printedSites, hgroups, occurrencesFrom_of_none hends hne hchars hrest hlaid hgroups]
      exact printedSites_eq_occurrencesFrom hlaid (.inr hrest)
    | some taken =>
      obtain ⟨us, vs, rfl, hin, hhead, htaken⟩ :=
        exists_groups_of_printedGroups hlaid.ne_nil hgroups
      have hall : printedGroups (w :: (us ++ vs)) = some (w.chars, us.map Word.chars) := by
        rw [hgroups, ← hhead, ← htaken]
      obtain ⟨after, hstarts, hafter, hnext⟩ :=
        exists_occurrencesFrom_of_some hends hne hchars hrest hlaid rfl hall hin
      have hwords : ∀ g ∈ w.chars :: us.map Word.chars, ∀ c ∈ g, isWordChar c = true := by
        rw [List.forall_mem_cons, List.forall_mem_map]
        exact ⟨hchars, fun u hu => hlaid.wordChars u (by simp [hu])⟩
      have hstart : w.start = (before ++ gap).length := by rw [← hw]
      have hbehind : Laid (before ++ gap ++ spaced w.chars (us.map Word.chars)).length vs tail
          after := by
        rwa [spaced, ← List.append_assoc, List.length_append]
      have hrest := printedSites_eq_occurrencesFrom hbehind (.inr hstarts)
      rw [printedSites, hall, hnext, List.map_cons, printedSite, groupsOf_spaced hwords,
        ← trimmed_eq_joinedGroups, ← hstart, ← hrest, ← printedSites_skip us vs]
      simp
termination_by ws.length

/-- The sites of the scan are the occurrences of the expression. -/
theorem printedSites_eq_occurrences (cs : List Char) :
    printedSites 0 (words cs) = (printedExpression.occurrences cs).map printedSite := by
  obtain ⟨tail, hlaid⟩ := laid_words cs
  have hlaid : Laid ([] : List Char).length (words cs) tail cs := hlaid
  have hends : EndsFree [] := fun c hc => by cases hc
  exact printedSites_eq_occurrencesFrom hlaid (.inl hends)

/-! ## The longest form -/

/-- The words of a printed text have four characters at most, so that longer words of the text are
outside of it. -/
theorem outside_of_stands {cs before after piece : List Char} (hpiece : PrintedForm piece)
    (h : Stands cs before piece after) :
    ∀ v ∈ words cs, 5 ≤ v.chars.length →
      v.start + v.chars.length ≤ before.length ∨ (before ++ piece).length ≤ v.start := by
  obtain ⟨head, groups, hhead, hgroups, hcapitals, -, -, rfl⟩ := printedForm_iff.1 hpiece
  obtain ⟨hne, hchars⟩ := words_of_printed hhead hgroups hcapitals
  obtain ⟨ws, w, us, vs, tail, hlaid, hbefore, hafter, rfl, rfl, -⟩ := h.laid hne hchars
  rw [words_eq_of_laid hlaid]
  intro v hv hlong
  rcases List.mem_append.1 hv with hv | hv
  · have := hbefore.stop_le v hv
    exact .inl (by omega)
  · rcases List.mem_cons.1 hv with rfl | hv
    · have := hhead.length_eq
      omega
    · rcases List.mem_append.1 hv with hv | hv
      · have := hgroups.length_le_of_mem _ (List.mem_map_of_mem hv)
        omega
      · have := hafter.lt_start h.starts v hv
        rw [List.length_append]
        exact .inr (Nat.le_of_lt this)

/-- At the border of a word the expression matches the longest printed form that ends at the border
of a word, and nothing if there is none. No word of five or more characters is cut by the match, and
the scan for printed IBANs finds its sites in this way. -/
theorem printedExpression_longest :
    (∀ cur : Cursor, cur.isBorder = true →
      (∀ next, (printedExpression.trials cur).head? = some next ↔
        ∃ piece, Ends {cs | PrintedForm cs} cur piece next ∧
          ∀ other stop, Ends {cs | PrintedForm cs} cur other stop → other.length ≤ piece.length) ∧
      (printedExpression.trials cur = [] ↔
        ∀ piece next, ¬ Ends {cs | PrintedForm cs} cur piece next) ∧
      ∀ next, (printedExpression.trials cur).head? = some next →
        ∀ v ∈ words (cur.before.reverse ++ cur.after), 5 ≤ v.chars.length →
          v.start + v.chars.length ≤ cur.before.length ∨ next.before.length ≤ v.start) ∧
    ∀ cs, printedSites 0 (words cs) = (printedExpression.occurrences cs).map printedSite := by
  refine ⟨fun cur hcur => ?_, printedSites_eq_occurrences⟩
  have hmatch : ∀ next, (printedExpression.trials cur).head? = some next ↔ _ := fun next =>
    head?_trials_word_eq_some_iff reads_printedBody hcur longestFirst_printedBody
  refine ⟨hmatch, trials_word_eq_nil_iff reads_printedBody hcur, fun next hnext v hv hlong => ?_⟩
  obtain ⟨piece, hpiece, -⟩ := (hmatch next).1 hnext
  have houtside := outside_of_stands hpiece.mem (stands_of_ends hcur hpiece) v hv hlong
  have hbefore := hpiece.takes.before
  rw [List.length_reverse, List.length_append, List.length_reverse] at houtside
  rwa [hbefore, List.length_append, List.length_reverse, Nat.add_comm piece.length]

/-- The last word could be taken for a group by its first four letters, but is left whole. -/
theorem printedExpression_longest_sample :
    (printedExpression.trials ⟨[], "BE68 5390 0754 7034 PLEASE".toList⟩).head? =
        some ⟨"BE68 5390 0754 7034".toList.reverse, " PLEASE".toList⟩ ∧
      ∀ piece next,
        Ends {cs | PrintedForm cs} ⟨[], "BE68 5390 0754 7034 PLEASE".toList⟩ piece next →
          piece.length ≤ 19 := by
  have hmatch : (printedExpression.trials ⟨[], "BE68 5390 0754 7034 PLEASE".toList⟩).head? =
      some ⟨"BE68 5390 0754 7034".toList.reverse, " PLEASE".toList⟩ := by decide +kernel
  refine ⟨hmatch, fun piece next hpiece => ?_⟩
  obtain ⟨longest, hlongest, hmost⟩ :=
    ((printedExpression_longest.1 _ (by decide +kernel)).1 _).1 hmatch
  have hlen : longest.length = 19 := by simpa using hlongest.takes.length_eq.symm
  exact hlen ▸ hmost piece next hpiece

end BankCodes.Scan
