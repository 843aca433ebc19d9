import BankCodes.Proofs.Text.Expression
import BankCodes.Proofs.Text.Words

/-!
# Where an expression occurs

The search for an expression passes over pieces where no trial succeeds (`occurrencesFrom_pass`) and
takes up the piece of the first trial where one does (`occurrencesFrom_take`).

An expression for words, between two borders, occurs exactly at the words that it describes:

    (word e).occurrences cs = the words of cs with the shape, each at its place

It never takes a part of a word, and leaves out no word of the shape.
-/

namespace BankCodes.Text

namespace Expression

/-! ## Steps of the search -/

section Steps

variable {e : Expression} {before piece cs : List Char}

theorem occurrencesFrom_skip (e : Expression) (before piece cs : List Char) :
    e.occurrencesFrom piece.length before (piece ++ cs) =
      e.occurrencesFrom 0 (piece.reverse ++ before) cs := by
  induction piece generalizing before with
  | nil => rfl
  | cons c piece ih =>
    show e.occurrencesFrom piece.length (c :: before) (piece ++ cs) = _
    rw [ih, List.reverse_cons, List.append_assoc]
    rfl

/-- No occurrence begins in a piece in which no trial succeeds. -/
theorem occurrencesFrom_pass
    (h : ∀ front c back, piece = front ++ c :: back →
      e.trials ⟨front.reverse ++ before, c :: back ++ cs⟩ = []) :
    e.occurrencesFrom 0 before (piece ++ cs) =
      e.occurrencesFrom 0 (piece.reverse ++ before) cs := by
  induction piece generalizing before with
  | nil => rfl
  | cons c piece ih =>
    have hfirst : e.trials ⟨before, c :: (piece ++ cs)⟩ = [] := h [] c piece rfl
    rw [List.cons_append, occurrencesFrom, hfirst, List.reverse_cons, List.append_assoc]
    apply ih
    rintro front d back rfl
    simpa using h (c :: front) d back rfl

/-- Where the first trial succeeds, it is an occurrence, and the search goes on behind it. -/
theorem occurrencesFrom_take (hne : piece ≠ [])
    (h : (e.trials ⟨before, piece ++ cs⟩).head? = some ⟨piece.reverse ++ before, cs⟩) :
    e.occurrencesFrom 0 before (piece ++ cs) =
      ⟨before.length, piece⟩ :: e.occurrencesFrom 0 (piece.reverse ++ before) cs := by
  obtain ⟨others, htrials⟩ := List.head?_eq_some_iff.1 h
  cases piece with
  | nil => exact absurd rfl hne
  | cons c piece =>
    have hlen : (c :: (piece ++ cs)).length - cs.length = piece.length + 1 := by
      rw [List.length_cons, List.length_append]
      omega
    rw [List.cons_append] at htrials ⊢
    rw [occurrencesFrom, htrials]
    simp only [hlen, Nat.add_sub_cancel, occurrencesFrom_skip]
    simp

/-- An occurrence is the match at its place. -/
theorem exists_match_of_mem_occurrencesFrom {skip : Nat} {o : Occurrence}
    (h : o ∈ e.occurrencesFrom skip before cs) :
    ∃ cur next, cur.before.length = o.start ∧ cur.before.reverse ++ cur.after = before.reverse ++ cs ∧
      (e.trials cur).head? = some next ∧
      o.chars = cur.after.take (cur.after.length - next.after.length) := by
  induction cs generalizing skip before with
  | nil => cases h
  | cons c cs ih =>
    have hrest : ∀ {skip}, o ∈ e.occurrencesFrom skip (c :: before) cs → _ := fun ho => by
      have h := ih ho
      rwa [List.reverse_cons, List.append_assoc] at h
    cases skip with
    | succ skip => exact hrest h
    | zero =>
      rw [occurrencesFrom] at h
      cases htrials : e.trials ⟨before, c :: cs⟩ with
      | nil =>
        rw [htrials] at h
        exact hrest h
      | cons next others =>
        rw [htrials] at h
        rcases List.mem_cons.1 h with rfl | h
        · exact ⟨⟨before, c :: cs⟩, next, rfl, rfl, by rw [htrials]; rfl, rfl⟩
        · exact hrest h

end Steps

/-! ## Words -/

/-- An expression for whole words. -/
def word (e : Expression) : Expression := border.andThen (e.andThen border)

theorem mem_trials_border {cur next : Cursor} :
    next ∈ border.trials cur ↔ cur.isBorder = true ∧ next = cur := by
  rw [trials]
  split <;> simp_all

/-- A word begins at a place if the text before it ends free. -/
theorem isBorder_before_word {before : List Char} {c : Char} (cs : List Char)
    (hc : isWordChar c = true) :
    Cursor.isBorder ⟨before.reverse, c :: cs⟩ = true ↔ EndsFree before := by
  rw [Cursor.isBorder, List.head?_reverse, EndsFree]
  cases before.getLast? <;> simp [hc]

/-- A word ends at a place if the text behind it is free. -/
theorem isBorder_behind_word (before after : List Char) {chars : List Char} (hne : chars ≠ [])
    (hchars : ∀ c ∈ chars, isWordChar c = true) :
    Cursor.isBorder ⟨(before ++ chars).reverse, after⟩ = true ↔ StartsFree after := by
  have hlast : (before ++ chars).getLast? = some (chars.getLast hne) := by
    rw [List.getLast?_append, List.getLast?_eq_some_getLast hne]
    rfl
  have hword := hchars _ (List.getLast_mem hne)
  rw [Cursor.isBorder, List.head?_reverse, hlast, StartsFree]
  cases after.head? <;> simp [hword]

section Word

variable {e : Expression} {L : Language Char} (he : e.Reads L)
include he

theorem mem_trials_word {cur next : Cursor} :
    next ∈ (word e).trials cur ↔ cur.isBorder = true ∧ next.isBorder = true ∧
      ∃ piece ∈ L, cur.Takes piece next := by
  have htrials : next ∈ (word e).trials cur ↔ ∃ start ∈ border.trials cur,
      ∃ stop ∈ e.trials start, next ∈ border.trials stop := by
    rw [word]
    simp only [trials, List.mem_flatMap]
  rw [htrials]
  simp only [mem_trials_border]
  constructor
  · rintro ⟨_, ⟨hstart, rfl⟩, _, hstop, hnext, rfl⟩
    exact ⟨hstart, hnext, (he _ _).1 hstop⟩
  · intro ⟨hstart, hnext, hpiece⟩
    exact ⟨cur, ⟨hstart, rfl⟩, next, (he _ _).2 hpiece, hnext, rfl⟩

/-- What occurs is a piece of the language. -/
theorem mem_of_mem_occurrences {cs : List Char} {o : Occurrence}
    (h : o ∈ (word e).occurrences cs) : o.chars ∈ L := by
  obtain ⟨cur, next, -, -, hmatch, hchars⟩ := exists_match_of_mem_occurrencesFrom h
  obtain ⟨-, -, piece, hpiece, htakes⟩ := (mem_trials_word he).1 (List.mem_of_head? hmatch)
  have hlen : cur.after.length - next.after.length = piece.length := by
    rw [htakes.after, List.length_append]
    omega
  rwa [hchars, hlen, htakes.after, List.take_left]

variable (hbegins : ∀ piece ∈ L, ∃ c rest, piece = c :: rest ∧ isWordChar c = true)
include hbegins

/-- Where no word begins no trial succeeds. -/
theorem trials_word_eq_nil {before cs : List Char} {c : Char}
    (h : isWordChar c = true → ¬ EndsFree before) :
    (word e).trials ⟨before.reverse, c :: cs⟩ = [] := by
  rw [List.eq_nil_iff_forall_not_mem]
  intro next hnext
  obtain ⟨hborder, -, piece, hpiece, htakes⟩ := (mem_trials_word he).1 hnext
  obtain ⟨d, rest, rfl, hd⟩ := hbegins piece hpiece
  obtain ⟨behind, hbehind⟩ := htakes.begins
  obtain rfl : d = c := (List.cons.inj hbehind).1
  exact h hd ((isBorder_before_word cs hd).1 hborder)

/-- Between words there is no occurrence. -/
theorem occurrencesFrom_gap (before : List Char) {gap : List Char} (rest : List Char)
    (hgap : ∀ c ∈ gap, isWordChar c = false) :
    (word e).occurrencesFrom 0 before.reverse (gap ++ rest) =
      (word e).occurrencesFrom 0 (before ++ gap).reverse rest := by
  rw [occurrencesFrom_pass, List.reverse_append]
  rintro front c back rfl
  rw [← List.reverse_append]
  apply trials_word_eq_nil he hbegins
  intro hc
  rw [hgap c (by simp)] at hc
  cases hc

/-- Where no trial succeeds at the beginning of a word the search passes over the whole word. -/
theorem occurrencesFrom_pass_word {before chars rest : List Char} (hne : chars ≠ [])
    (hchars : ∀ c ∈ chars, isWordChar c = true)
    (h : (word e).trials ⟨before.reverse, chars ++ rest⟩ = []) :
    (word e).occurrencesFrom 0 before.reverse (chars ++ rest) =
      (word e).occurrencesFrom 0 (before ++ chars).reverse rest := by
  rw [occurrencesFrom_pass, List.reverse_append]
  intro front c back hcut
  cases front with
  | nil =>
    obtain rfl : chars = c :: back := hcut
    exact h
  | cons d front =>
    -- within a word there is no border
    have hfront : ∀ x ∈ d :: front, isWordChar x = true := fun x hx =>
      hchars x (by rw [hcut]; exact List.mem_append_left _ hx)
    rw [← List.reverse_append]
    apply trials_word_eq_nil he hbegins
    rw [endsFree_append (by simp)]
    exact fun _ => not_endsFree_word (by simp) hfront

end Word

/-! ## Shapes of words -/

section Shape

variable {e : Expression} {shape : List Char → Bool} (he : e.Reads {cs | shape cs = true})
  (hshape : ∀ cs, shape cs = true → cs ≠ [] ∧ ∀ c ∈ cs, isWordChar c = true)

include hshape in
/-- A text of such a shape begins with a word character. -/
theorem begins_of_shape :
    ∀ piece ∈ {cs | shape cs = true}, ∃ c rest, piece = c :: rest ∧ isWordChar c = true := by
  intro piece hpiece
  obtain ⟨hne, hchars⟩ := hshape piece hpiece
  obtain ⟨c, rest, rfl⟩ := List.exists_cons_of_ne_nil hne
  exact ⟨c, rest, rfl, hchars c (by simp)⟩

include he hshape

/-- Where a word begins the trials take the whole word or nothing. -/
theorem mem_trials_before_word {before chars rest : List Char} {next : Cursor}
    (hends : EndsFree before) (hne : chars ≠ []) (hchars : ∀ c ∈ chars, isWordChar c = true)
    (hrest : StartsFree rest) :
    next ∈ (word e).trials ⟨before.reverse, chars ++ rest⟩ ↔
      shape chars = true ∧ next = ⟨(before ++ chars).reverse, rest⟩ := by
  rw [mem_trials_word he]
  constructor
  · intro ⟨_, hstop, piece, hpiece, hafter, hbefore⟩
    obtain ⟨hpne, hpchars⟩ := hshape piece hpiece
    obtain ⟨front, after⟩ := next
    rw [← List.reverse_append] at hbefore
    obtain rfl : front = (before ++ piece).reverse := hbefore
    have hfree := (isBorder_behind_word before after hpne hpchars).1 hstop
    obtain ⟨rfl, rfl⟩ := front_unique hchars hrest hpchars hfree hafter
    exact ⟨hpiece, rfl⟩
  · rintro ⟨hword, rfl⟩
    refine ⟨?_, (isBorder_behind_word before rest hne hchars).2 hrest, chars, hword, rfl, ?_⟩
    · cases chars with
      | nil => exact absurd rfl hne
      | cons c chars => exact (isBorder_before_word _ (hchars c (by simp))).2 hends
    · rw [List.reverse_append]

/-- The search over a word takes it up if it has the shape, and passes it over if it has not. -/
theorem occurrencesFrom_word {before chars rest : List Char} (hends : EndsFree before)
    (hne : chars ≠ []) (hchars : ∀ c ∈ chars, isWordChar c = true) (hrest : StartsFree rest) :
    (word e).occurrencesFrom 0 before.reverse (chars ++ rest) =
      (if shape chars then [⟨before.length, chars⟩] else []) ++
        (word e).occurrencesFrom 0 (before ++ chars).reverse rest := by
  have htrials : ∀ next, next ∈ (word e).trials ⟨before.reverse, chars ++ rest⟩ ↔
      shape chars = true ∧ next = ⟨(before ++ chars).reverse, rest⟩ := fun next =>
    mem_trials_before_word he hshape hends hne hchars hrest
  split
  · next hword =>
    rw [occurrencesFrom_take hne, List.length_reverse, List.reverse_append]
    · rfl
    · cases h : (word e).trials ⟨before.reverse, chars ++ rest⟩ with
      | nil =>
        have hmem := (htrials _).2 ⟨hword, rfl⟩
        rw [h] at hmem
        cases hmem
      | cons first others =>
        have hfirst := ((htrials first).1 (by simp [h])).2
        rw [List.head?_cons, hfirst, List.reverse_append]
  · next hword =>
    rw [occurrencesFrom_pass_word he (begins_of_shape hshape) hne hchars]
    · rfl
    · rw [List.eq_nil_iff_forall_not_mem]
      exact fun next hnext => hword ((htrials next).1 hnext).1

/-- Along a layout the occurrences are the words of the shape. -/
theorem occurrencesFrom_laid {ws : List Word} {before tail cs : List Char}
    (hlaid : Laid before.length ws tail cs) (hfree : EndsFree before ∨ StartsFree cs) :
    (word e).occurrencesFrom 0 before.reverse cs =
      (ws.filter (shape ·.chars)).map fun w => ⟨w.start, w.chars⟩ := by
  generalize hn : before.length = n at hlaid
  induction hlaid generalizing before with
  | @nil n tail htail =>
    have h := occurrencesFrom_gap he (begins_of_shape hshape) before [] htail
    rw [List.append_nil] at h
    exact h
  | @cons n gap chars tail rest ws hgap hne hchars hrest _ ih =>
    have hends := endsFree_gap hgap hne hchars hfree
    have hlen : (before ++ gap).length = n + gap.length := by rw [List.length_append, hn]
    rw [List.append_assoc, occurrencesFrom_gap he (begins_of_shape hshape) before _ hgap,
      occurrencesFrom_word he hshape hends hne hchars hrest,
      ih (.inr hrest) (by rw [List.length_append, hlen]), hlen]
    cases hword : shape chars <;> simp [hword]

/-- An expression for words occurs exactly at the words of its shape. -/
theorem occurrences_word (cs : List Char) :
    (word e).occurrences cs =
      ((words cs).filter (shape ·.chars)).map fun w => ⟨w.start, w.chars⟩ := by
  obtain ⟨tail, hlaid⟩ := laid_words cs
  have hends : EndsFree [] := fun c hc => by cases hc
  have hlaid : Laid ([] : List Char).length (words cs) tail cs := hlaid
  exact occurrencesFrom_laid he hshape hlaid (.inl hends)

end Shape

end Expression

end BankCodes.Text
