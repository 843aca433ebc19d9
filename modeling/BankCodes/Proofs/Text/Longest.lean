import BankCodes.Proofs.Text.Occurrences

/-!
# Expressions whose match is the longest one

The match of an expression is its first trial, and the order of the trials is that of the choices in
it: a repetition that goes on comes before one that stops, whatever comes of that further on. So in
general the first trial is not the longest. `e.LongestFirst` says that it is, and that this holds of
the second one, too, and so on; it is kept by a sequence if the choice made first weighs more than
all that come after it.

* one law for each way to build an expression: `LongestFirst.andThen_of_reads`,
  `LongestFirst.repeated`, `LongestFirst.optional`;
* `head?_trials_word_eq_some_iff`: an expression for whole words, if it has this property, matches
  the longest of its pieces that end at the border of a word, and so it does not matter how it got
  there.
-/

namespace BankCodes.Text

theorem Cursor.Takes.length_eq {cur next : Cursor} {piece : List Char} (h : cur.Takes piece next) :
    cur.after.length = piece.length + next.after.length := by
  rw [h.after, List.length_append]

namespace Expression

/-! ## The order of trials -/

/-- A trial that takes more comes before one that takes less, and no two take as much. -/
def LongestFirst (e : Expression) : Prop :=
  ∀ cur, (e.trials cur).Pairwise fun a b => a.after.length < b.after.length

variable {e f : Expression} {L M : Language Char}

theorem longestFirst_one (p : Char → Bool) : (one p).LongestFirst := by
  intro cur
  unfold trials
  split
  · exact .nil
  · split
    · exact List.pairwise_singleton _ _
    · exact .nil

theorem longestFirst_border : border.LongestFirst := by
  intro cur
  unfold trials
  split
  · exact List.pairwise_singleton _ _
  · exact .nil

/-- The order of the first part decides, if nothing that the second part does can turn it round. -/
theorem LongestFirst.andThen (he : e.LongestFirst) (hf : f.LongestFirst)
    (h : ∀ cur, ∀ a ∈ e.trials cur, ∀ b ∈ e.trials cur, a.after.length < b.after.length →
      ∀ x ∈ f.trials a, ∀ y ∈ f.trials b, x.after.length < y.after.length) :
    (e.andThen f).LongestFirst := by
  intro cur
  show ((e.trials cur).flatMap f.trials).Pairwise _
  rw [List.pairwise_flatMap]
  refine ⟨fun mid _ => hf mid, (he cur).imp_of_mem ?_⟩
  intro a b ha hb hlt
  exact h cur a ha b hb hlt

/-- That is so if a longer piece of the first part is longer by more than the pieces of the second
part differ. -/
theorem LongestFirst.andThen_of_reads (he : e.LongestFirst) (hf : f.LongestFirst) (hL : e.Reads L)
    (hM : f.Reads M)
    (h : ∀ a ∈ L, ∀ b ∈ L, b.length < a.length → ∀ c ∈ M, ∀ d ∈ M,
      b.length + d.length < a.length + c.length) :
    (e.andThen f).LongestFirst := by
  apply he.andThen hf
  intro cur a ha b hb hlt x hx y hy
  obtain ⟨first, hfirst, htakes⟩ := (hL cur a).1 ha
  obtain ⟨first', hfirst', htakes'⟩ := (hL cur b).1 hb
  obtain ⟨rest, hrest, hbehind⟩ := (hM a x).1 hx
  obtain ⟨rest', hrest', hbehind'⟩ := (hM b y).1 hy
  have hlen := htakes.length_eq
  have hlen' := htakes'.length_eq
  have hfar := h first hfirst first' hfirst' (by omega) rest hrest rest' hrest'
  have := hbehind.length_eq
  have := hbehind'.length_eq
  omega

/-- To stop is the last trial, if all others take something. -/
private theorem pairwise_append_stop {trials : List Cursor} {least : Nat} {cur : Cursor}
    (h : trials.Pairwise fun a b => a.after.length < b.after.length)
    (hlt : ∀ a ∈ trials, a.after.length < cur.after.length) :
    (trials ++ if least = 0 then [cur] else []).Pairwise
      fun a b => a.after.length < b.after.length := by
  split
  · refine List.pairwise_append.2 ⟨h, List.pairwise_singleton _ _, fun a ha b hb => ?_⟩
    rw [List.mem_singleton.1 hb]
    exact hlt a ha
  · rwa [List.append_nil]

/-- Of pieces that are all of one length, more are longer. -/
theorem LongestFirst.repeated (he : e.LongestFirst) (hL : e.Reads L) {n : Nat}
    (hlen : ∀ piece ∈ L, piece.length = n) (hpos : 0 < n) (least : Nat) (most : Option Nat) :
    (e.repeated least most).LongestFirst := by
  intro cur
  show (repeatedTrials e.trials least (most.getD cur.after.length) cur).Pairwise _
  generalize most.getD cur.after.length = most
  induction most generalizing least cur with
  | zero =>
    rw [repeatedTrials]
    split
    · exact List.pairwise_singleton _ _
    · exact .nil
  | succ most ih =>
    have htaken : ∀ mid ∈ e.trials cur, cur.after.length = n + mid.after.length := by
      intro mid hmid
      obtain ⟨piece, hpiece, htakes⟩ := (hL cur mid).1 hmid
      rw [htakes.length_eq, hlen piece hpiece]
    rw [repeatedTrials]
    apply pairwise_append_stop
    · rw [List.pairwise_flatMap]
      refine ⟨fun mid _ => ih (least - 1) mid, (he cur).imp_of_mem ?_⟩
      -- there is one way at most to take the first of the pieces
      intro a b ha hb hlt
      have := htaken a ha
      have := htaken b hb
      omega
    · intro next hnext
      obtain ⟨mid, hmid, hnext⟩ := List.mem_flatMap.1 hnext
      obtain ⟨_, -, -, piece, -, htakes⟩ := hL.mem_repeatedTrials.1 hnext
      have := htaken mid hmid
      have := htakes.length_eq
      omega

theorem LongestFirst.optional (he : e.LongestFirst) (hL : e.Reads L) (hnil : [] ∉ L) :
    (optional e).LongestFirst := by
  intro cur
  show ((e.trials cur).flatMap (repeatedTrials e.trials (0 - 1) 0) ++ _).Pairwise _
  have honce : (e.trials cur).flatMap (repeatedTrials e.trials (0 - 1) 0) = e.trials cur := by
    show (e.trials cur).flatMap (fun mid => [mid]) = _
    exact List.flatMap_singleton' _
  rw [honce]
  refine pairwise_append_stop (he cur) fun next hnext => ?_
  obtain ⟨piece, hpiece, htakes⟩ := (hL cur next).1 hnext
  have hne : piece ≠ [] := by
    rintro rfl
    exact hnil hpiece
  have := List.length_pos_iff.2 hne
  have := htakes.length_eq
  omega

theorem longestFirst_between (least most : Nat) (p : Char → Bool) :
    (between least most p).LongestFirst := by
  apply (longestFirst_one p).repeated (reads_one p) _ (Nat.one_pos)
  rintro _ ⟨c, -, rfl⟩
  rfl

theorem longestFirst_exactly (n : Nat) (p : Char → Bool) : (exactly n p).LongestFirst :=
  longestFirst_between n n p

/-- The first trial is the one that takes most. -/
theorem LongestFirst.head?_trials_eq_some_iff (he : e.LongestFirst) {cur next : Cursor} :
    (e.trials cur).head? = some next ↔
      next ∈ e.trials cur ∧ ∀ other ∈ e.trials cur, next.after.length ≤ other.after.length := by
  have hsorted := he cur
  cases htrials : e.trials cur with
  | nil => simp
  | cons first others =>
    rw [htrials, List.pairwise_cons] at hsorted
    rw [List.head?_cons, Option.some.injEq]
    constructor
    · rintro rfl
      refine ⟨by simp, List.forall_mem_cons.2 ⟨Nat.le_refl _, fun other hother => ?_⟩⟩
      exact Nat.le_of_lt (hsorted.1 other hother)
    · intro ⟨hmem, hmost⟩
      rcases List.mem_cons.1 hmem with rfl | hmem
      · rfl
      · have := hsorted.1 next hmem
        have := hmost first (by simp)
        omega

/-! ## The match of an expression for whole words -/

/-- A piece of the language comes next, and behind it is the border of a word. -/
structure Ends (L : Language Char) (cur : Cursor) (piece : List Char) (next : Cursor) : Prop where
  mem : piece ∈ L
  takes : cur.Takes piece next
  border : next.isBorder = true

theorem longestFirst_word (he : e.LongestFirst) : (word e).LongestFirst := by
  apply longestFirst_border.andThen
  · apply he.andThen longestFirst_border
    intro cur a _ b _ hlt x hx y hy
    rw [(mem_trials_border.1 hx).2, (mem_trials_border.1 hy).2]
    exact hlt
  · -- there is no choice in the first border
    intro cur a ha b hb hlt
    rw [(mem_trials_border.1 ha).2, (mem_trials_border.1 hb).2] at hlt
    exact absurd hlt (Nat.lt_irrefl _)

section

variable (hL : e.Reads L) {cur : Cursor} (hcur : cur.isBorder = true)
include hL hcur

theorem mem_trials_word_iff_ends {next : Cursor} :
    next ∈ (word e).trials cur ↔ ∃ piece, Ends L cur piece next := by
  rw [mem_trials_word hL]
  constructor
  · intro ⟨_, hborder, piece, hpiece, htakes⟩
    exact ⟨piece, hpiece, htakes, hborder⟩
  · intro ⟨piece, hpiece, htakes, hborder⟩
    exact ⟨hcur, hborder, piece, hpiece, htakes⟩

/-- At the border of a word the match is the longest piece that ends at the border of a word. -/
theorem head?_trials_word_eq_some_iff (he : e.LongestFirst) {next : Cursor} :
    ((word e).trials cur).head? = some next ↔
      ∃ piece, Ends L cur piece next ∧
        ∀ other stop, Ends L cur other stop → other.length ≤ piece.length := by
  simp only [(longestFirst_word he).head?_trials_eq_some_iff, mem_trials_word_iff_ends hL hcur]
  constructor
  · intro ⟨⟨piece, hpiece⟩, hmost⟩
    refine ⟨piece, hpiece, fun other stop hother => ?_⟩
    have := hmost stop ⟨other, hother⟩
    have := hpiece.takes.length_eq
    have := hother.takes.length_eq
    omega
  · intro ⟨piece, hpiece, hlongest⟩
    refine ⟨⟨piece, hpiece⟩, ?_⟩
    rintro stop ⟨other, hother⟩
    have := hlongest other stop hother
    have := hpiece.takes.length_eq
    have := hother.takes.length_eq
    omega

/-- There is no match exactly if there is no such piece. -/
theorem trials_word_eq_nil_iff :
    (word e).trials cur = [] ↔ ∀ piece next, ¬ Ends L cur piece next := by
  simp only [List.eq_nil_iff_forall_not_mem, mem_trials_word_iff_ends hL hcur, not_exists]
  exact forall_comm

end

end Expression

end BankCodes.Text
