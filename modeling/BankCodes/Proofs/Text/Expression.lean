import BankCodes.Text.Word
import Mathlib.Computability.Language

/-!
# Expressions and what they match

An expression describes pieces of a text by classes of characters, borders of words, sequence and
repetition. It is matched by trial: `trials` lists the places that a match may come to, in the order
in which they are tried, a longer repetition before a shorter one. The first of them is the match,
and `occurrences` goes through a text from left to right with it.

Where borders play no part, the trials come to those places that lie behind a piece of a language:

    next ∈ e.trials cur ↔ ∃ piece ∈ L, cur.Takes piece next

This is `e.Reads L`, with one law for each way to build an expression. If only one piece may be
taken, it is the first trial, in whatever order they are tried (`Reads.head?_trials`).
-/

namespace BankCodes.Text

/-! ## Places in a text -/

/-- A place in a text: the characters before it, the nearest one first, and those behind it. -/
structure Cursor where
  before : List Char
  after : List Char
deriving DecidableEq, Repr

namespace Cursor

/-- Whether a word begins or ends at the place. -/
def isBorder (cur : Cursor) : Bool :=
  cur.before.head?.any isWordChar != cur.after.head?.any isWordChar

/-- The piece comes next, and `next` is the place behind it. -/
structure Takes (cur : Cursor) (piece : List Char) (next : Cursor) : Prop where
  after : cur.after = piece ++ next.after
  before : next.before = piece.reverse ++ cur.before

theorem takes_nil {cur next : Cursor} : cur.Takes [] next ↔ next = cur := by
  constructor
  · rintro ⟨hafter, hbefore⟩
    obtain ⟨before, after⟩ := next
    cases hafter
    cases hbefore
    rfl
  · rintro rfl
    exact ⟨rfl, rfl⟩

theorem takes_append {cur next : Cursor} {piece rest : List Char} :
    cur.Takes (piece ++ rest) next ↔ ∃ mid, cur.Takes piece mid ∧ mid.Takes rest next := by
  constructor
  · intro ⟨hafter, hbefore⟩
    refine ⟨⟨piece.reverse ++ cur.before, rest ++ next.after⟩, ⟨?_, rfl⟩, ⟨rfl, ?_⟩⟩
    · rw [hafter, List.append_assoc]
    · rw [hbefore, List.reverse_append, List.append_assoc]
  · intro ⟨mid, ⟨hafter, hbefore⟩, ⟨hafter', hbefore'⟩⟩
    constructor
    · rw [hafter, hafter', List.append_assoc]
    · rw [hbefore', hbefore, List.reverse_append, List.append_assoc]

/-- The text goes on with the piece. -/
theorem Takes.begins {cur next : Cursor} {piece : List Char} (h : cur.Takes piece next) :
    piece <+: cur.after :=
  ⟨next.after, h.after.symm⟩

/-- There is one place behind a piece. -/
theorem Takes.unique {cur next next' : Cursor} {piece : List Char} (h : cur.Takes piece next)
    (h' : cur.Takes piece next') : next = next' := by
  obtain ⟨before, after⟩ := next
  obtain ⟨before', after'⟩ := next'
  have hafter : after = after' := List.append_cancel_left (h.after.symm.trans h'.after)
  have hbefore : before = before' := h.before.trans h'.before.symm
  rw [hafter, hbefore]

end Cursor

/-! ## Trials -/

/-- A description of pieces of a text. -/
inductive Expression where
  /-- One character of a class. -/
  | one (p : Char → Bool)
  /-- No character, at the border of a word. -/
  | border
  | andThen (e f : Expression)
  /-- At least `least` times, and at most `most` times if there is a limit. -/
  | repeated (e : Expression) (least : Nat) (most : Option Nat)

namespace Expression

/-- Takes a step from `least` to `most` times, more often first. -/
def repeatedTrials (step : Cursor → List Cursor) (least : Nat) : Nat → Cursor → List Cursor
  | 0, cur => if least = 0 then [cur] else []
  | most + 1, cur =>
    (step cur).flatMap (repeatedTrials step (least - 1) most) ++ if least = 0 then [cur] else []

/-- The places that a match may come to, in the order in which they are tried. Without a limit an
expression is repeated at most once for each character that is left, since it takes one at least. -/
def trials : Expression → Cursor → List Cursor
  | one p, cur => match cur.after with
    | [] => []
    | c :: cs => if p c then [⟨c :: cur.before, cs⟩] else []
  | border, cur => if cur.isBorder then [cur] else []
  | andThen e f, cur => (e.trials cur).flatMap f.trials
  | repeated e least most, cur =>
    repeatedTrials e.trials least (most.getD cur.after.length) cur

/-- A piece that an expression matches in a text, with its place. -/
structure Occurrence where
  start : Nat
  chars : List Char
deriving DecidableEq, Repr

/-- The occurrences of an expression that takes one character at least, from the cursor on. Those do
not overlap: `skip` counts the characters of the last one that are still to be passed over. -/
def occurrencesFrom (e : Expression) (skip : Nat) (before : List Char) :
    List Char → List Occurrence
  | [] => []
  | c :: cs => match skip with
    | skip + 1 => e.occurrencesFrom skip (c :: before) cs
    | 0 => match e.trials ⟨before, c :: cs⟩ with
      | [] => e.occurrencesFrom 0 (c :: before) cs
      | next :: _ =>
        let length := (c :: cs).length - next.after.length
        ⟨before.length, (c :: cs).take length⟩ :: e.occurrencesFrom (length - 1) (c :: before) cs

/-- The occurrences of an expression in a text, from left to right. -/
def occurrences (e : Expression) (cs : List Char) : List Occurrence := e.occurrencesFrom 0 [] cs

/-- Whether an expression matches the whole text. -/
def fits (e : Expression) (cs : List Char) : Bool :=
  (e.trials ⟨[], cs⟩).any (·.after.isEmpty)

/-! ## The language of an expression -/

/-- The trials of the expression come to the places behind the pieces of the language. -/
def Reads (e : Expression) (L : Language Char) : Prop :=
  ∀ cur next, next ∈ e.trials cur ↔ ∃ piece ∈ L, cur.Takes piece next

/-- The language of the single characters with a property. -/
def letters (P : Char → Prop) : Language Char := {cs | ∃ c, P c ∧ cs = [c]}

theorem reads_one (p : Char → Bool) : (one p).Reads (letters (p · = true)) := by
  intro cur next
  constructor
  · intro h
    unfold trials at h
    split at h
    · cases h
    · next c cs hcur =>
      split at h
      · next hc =>
        obtain rfl := List.mem_singleton.1 h
        exact ⟨[c], ⟨c, hc, rfl⟩, hcur, rfl⟩
      · cases h
  · rintro ⟨_, ⟨c, hc, rfl⟩, hafter, hbefore⟩
    obtain ⟨before, after⟩ := next
    cases hbefore
    unfold trials
    rw [hafter]
    simp [hc]

variable {e f : Expression} {L M : Language Char}

/-- If the text goes on with one piece of the language only, it is the first trial that takes it. -/
theorem Reads.head?_trials (he : e.Reads L) {cur next : Cursor} {piece : List Char}
    (hpiece : piece ∈ L) (htakes : cur.Takes piece next)
    (hunique : ∀ other ∈ L, other <+: cur.after → other = piece) :
    (e.trials cur).head? = some next := by
  have hmem : next ∈ e.trials cur := (he cur next).2 ⟨piece, hpiece, htakes⟩
  cases htrials : e.trials cur with
  | nil =>
    rw [htrials] at hmem
    cases hmem
  | cons first others =>
    obtain ⟨other, hother, htakes'⟩ := (he cur first).1 (by simp [htrials])
    obtain rfl := hunique other hother htakes'.begins
    rw [List.head?_cons, htakes'.unique htakes]

/-- An expression matches the whole text if and only if its language holds the text. -/
theorem Reads.fits_iff (he : e.Reads L) {cs : List Char} : e.fits cs = true ↔ cs ∈ L := by
  rw [fits, List.any_eq_true]
  constructor
  · intro ⟨next, hnext, hempty⟩
    obtain ⟨piece, hpiece, hafter, -⟩ := (he _ next).1 hnext
    have hcs : cs = piece := by simpa [List.isEmpty_iff.1 hempty] using hafter
    rwa [hcs]
  · intro hcs
    exact ⟨⟨cs.reverse, []⟩, (he _ _).2 ⟨cs, hcs, by simp, by simp⟩, rfl⟩

theorem Reads.andThen (he : e.Reads L) (hf : f.Reads M) : (e.andThen f).Reads (L * M) := by
  intro cur next
  have htrials : next ∈ (e.andThen f).trials cur ↔ ∃ mid ∈ e.trials cur, next ∈ f.trials mid :=
    List.mem_flatMap
  rw [htrials]
  constructor
  · intro ⟨mid, hmid, hnext⟩
    obtain ⟨piece, hpiece, htakes⟩ := (he cur mid).1 hmid
    obtain ⟨rest, hrest, htakes'⟩ := (hf mid next).1 hnext
    exact ⟨piece ++ rest, Language.append_mem_mul hpiece hrest,
      Cursor.takes_append.2 ⟨mid, htakes, htakes'⟩⟩
  · rintro ⟨_, ⟨piece, hpiece, rest, hrest, rfl⟩, htakes⟩
    obtain ⟨mid, hmid, hnext⟩ := Cursor.takes_append.1 htakes
    exact ⟨mid, (he cur mid).2 ⟨piece, hpiece, hmid⟩, (hf mid next).2 ⟨rest, hrest, hnext⟩⟩

/-- Repeated trials come to the places behind so many pieces in a row. -/
theorem Reads.mem_repeatedTrials (he : e.Reads L) {least most : Nat} {cur next : Cursor} :
    next ∈ repeatedTrials e.trials least most cur ↔
      ∃ n, least ≤ n ∧ n ≤ most ∧ ∃ piece ∈ L ^ n, cur.Takes piece next := by
  induction most generalizing least cur with
  | zero =>
    have hnone : next ∈ repeatedTrials e.trials least 0 cur ↔ least = 0 ∧ next = cur := by
      rw [repeatedTrials]
      split <;> simp_all
    rw [hnone]
    constructor
    · rintro ⟨rfl, rfl⟩
      exact ⟨0, Nat.le_refl 0, Nat.le_refl 0, [], Language.nil_mem_one, Cursor.takes_nil.2 rfl⟩
    · rintro ⟨n, hleast, hmost, piece, hpiece, htakes⟩
      obtain rfl : n = 0 := Nat.le_zero.1 hmost
      obtain rfl := (Language.mem_one _).1 hpiece
      exact ⟨Nat.le_zero.1 hleast, Cursor.takes_nil.1 htakes⟩
  | succ most ih =>
    have hsplit : next ∈ repeatedTrials e.trials least (most + 1) cur ↔
        (∃ mid ∈ e.trials cur, next ∈ repeatedTrials e.trials (least - 1) most mid) ∨
          least = 0 ∧ next = cur := by
      rw [repeatedTrials, List.mem_append, List.mem_flatMap]
      split <;> simp_all
    rw [hsplit]
    constructor
    · rintro (⟨mid, hmid, hnext⟩ | ⟨rfl, rfl⟩)
      · obtain ⟨piece, hpiece, htakes⟩ := (he cur mid).1 hmid
        obtain ⟨n, hleast, hmost, rest, hrest, htakes'⟩ := ih.1 hnext
        refine ⟨n + 1, by omega, by omega, piece ++ rest, ?_, ?_⟩
        · rw [pow_succ']
          exact Language.append_mem_mul hpiece hrest
        · exact Cursor.takes_append.2 ⟨mid, htakes, htakes'⟩
      · exact ⟨0, Nat.le_refl 0, Nat.zero_le _, [], Language.nil_mem_one, Cursor.takes_nil.2 rfl⟩
    · intro ⟨n, hleast, hmost, piece, hpiece, htakes⟩
      cases n with
      | zero =>
        obtain rfl := (Language.mem_one _).1 hpiece
        exact .inr ⟨Nat.le_zero.1 hleast, Cursor.takes_nil.1 htakes⟩
      | succ n =>
        rw [pow_succ'] at hpiece
        obtain ⟨first, hfirst, rest, hrest, rfl⟩ := hpiece
        obtain ⟨mid, hmid, hnext⟩ := Cursor.takes_append.1 htakes
        refine .inl ⟨mid, (he cur mid).2 ⟨first, hfirst, hmid⟩, ih.2 ?_⟩
        exact ⟨n, by omega, by omega, rest, hrest, hnext⟩

/-- Pieces in a row, each of one character at least, are no more than their characters. -/
theorem le_length_of_mem_pow (hL : [] ∉ L) {n : Nat} {cs : List Char} (h : cs ∈ L ^ n) :
    n ≤ cs.length := by
  induction n generalizing cs with
  | zero => exact Nat.zero_le _
  | succ n ih =>
    rw [pow_succ'] at h
    obtain ⟨first, hfirst, rest, hrest, rfl⟩ := h
    have hpos : first.length ≠ 0 := by
      intro hzero
      rw [List.length_eq_zero_iff.1 hzero] at hfirst
      exact hL hfirst
    have hle := ih hrest
    rw [List.length_append]
    omega

theorem Reads.repeated (he : e.Reads L) (hL : [] ∉ L) (least : Nat) (most : Option Nat) :
    (e.repeated least most).Reads
      {cs | ∃ n, least ≤ n ∧ (∀ limit ∈ most, n ≤ limit) ∧ cs ∈ L ^ n} := by
  intro cur next
  show next ∈ repeatedTrials e.trials least (most.getD cur.after.length) cur ↔ _
  rw [he.mem_repeatedTrials]
  constructor
  · intro ⟨n, hleast, hmost, piece, hpiece, htakes⟩
    refine ⟨piece, ⟨n, hleast, ?_, hpiece⟩, htakes⟩
    rintro limit ⟨⟩
    exact hmost
  · rintro ⟨piece, ⟨n, hleast, hmost, hpiece⟩, htakes⟩
    refine ⟨n, hleast, ?_, piece, hpiece, htakes⟩
    cases most with
    | some limit => exact hmost limit rfl
    | none =>
      have hle := le_length_of_mem_pow hL hpiece
      rw [Option.getD_none, htakes.after, List.length_append]
      omega

/-- So many single characters in a row. -/
theorem mem_letters_pow {P : Char → Prop} {n : Nat} {cs : List Char} :
    cs ∈ letters P ^ n ↔ cs.length = n ∧ ∀ c ∈ cs, P c := by
  induction n generalizing cs with
  | zero =>
    rw [pow_zero, Language.mem_one, List.length_eq_zero_iff]
    exact ⟨fun h => ⟨h, by simp [h]⟩, And.left⟩
  | succ n ih =>
    rw [pow_succ', Language.mem_mul]
    constructor
    · rintro ⟨_, ⟨c, hc, rfl⟩, rest, hrest, rfl⟩
      obtain ⟨hlen, hall⟩ := ih.1 hrest
      exact ⟨by simp [hlen], List.forall_mem_cons.2 ⟨hc, hall⟩⟩
    · intro ⟨hlen, hall⟩
      cases cs with
      | nil => cases hlen
      | cons c cs =>
        rw [List.forall_mem_cons] at hall
        exact ⟨[c], ⟨c, hall.1, rfl⟩, cs, ih.2 ⟨by simpa using hlen, hall.2⟩, rfl⟩

/-- So many characters of a class. -/
theorem reads_class (p : Char → Bool) (least : Nat) (most : Option Nat) :
    ((one p).repeated least most).Reads
      {cs | least ≤ cs.length ∧ (∀ limit ∈ most, cs.length ≤ limit) ∧ ∀ c ∈ cs, p c = true} := by
  have hnil : [] ∉ letters (p · = true) := by
    rintro ⟨c, -, ⟨⟩⟩
  have hlang : {cs | ∃ n, least ≤ n ∧ (∀ limit ∈ most, n ≤ limit) ∧
      cs ∈ letters (p · = true) ^ n} =
      {cs : List Char |
        least ≤ cs.length ∧ (∀ limit ∈ most, cs.length ≤ limit) ∧ ∀ c ∈ cs, p c = true} := by
    ext cs
    simp only [mem_letters_pow]
    constructor
    · rintro ⟨n, hleast, hmost, rfl, hall⟩
      exact ⟨hleast, hmost, hall⟩
    · intro ⟨hleast, hmost, hall⟩
      exact ⟨cs.length, hleast, hmost, rfl, hall⟩
  exact hlang ▸ (reads_one p).repeated hnil least most

/-- A number of characters of a class. -/
def exactly (n : Nat) (p : Char → Bool) : Expression := (one p).repeated n (some n)

/-- A number of characters of a class, between bounds. -/
def between (least most : Nat) (p : Char → Bool) : Expression := (one p).repeated least (some most)

/-- An expression, or nothing. -/
def optional (e : Expression) : Expression := e.repeated 0 (some 1)

theorem Reads.congr (he : e.Reads L) (h : ∀ cs, cs ∈ L ↔ cs ∈ M) : e.Reads M := by
  have hlang : L = M := Set.ext h
  exact hlang ▸ he

theorem reads_between (least most : Nat) (p : Char → Bool) :
    (between least most p).Reads
      {cs | (least ≤ cs.length ∧ cs.length ≤ most) ∧ ∀ c ∈ cs, p c = true} := by
  apply (reads_class p least (some most)).congr
  intro cs
  constructor
  · intro ⟨hleast, hmost, hall⟩
    exact ⟨⟨hleast, hmost most rfl⟩, hall⟩
  · intro ⟨⟨hleast, hmost⟩, hall⟩
    refine ⟨hleast, ?_, hall⟩
    rintro _ ⟨⟩
    exact hmost

theorem reads_exactly (n : Nat) (p : Char → Bool) :
    (exactly n p).Reads {cs | cs.length = n ∧ ∀ c ∈ cs, p c = true} := by
  apply (reads_between n n p).congr
  intro cs
  constructor
  · intro ⟨⟨hge, hle⟩, hall⟩
    exact ⟨Nat.le_antisymm hle hge, hall⟩
  · intro ⟨hlen, hall⟩
    exact ⟨⟨Nat.le_of_eq hlen.symm, Nat.le_of_eq hlen⟩, hall⟩

theorem Reads.optional (he : e.Reads L) (hL : [] ∉ L) :
    (optional e).Reads {cs | cs = [] ∨ cs ∈ L} := by
  apply (he.repeated hL 0 (some 1)).congr
  intro cs
  constructor
  · intro ⟨n, _, hmost, hcs⟩
    rcases Nat.le_one_iff_eq_zero_or_eq_one.1 (hmost 1 rfl) with rfl | rfl
    · exact .inl ((Language.mem_one _).1 (pow_zero L ▸ hcs))
    · exact .inr (pow_one L ▸ hcs)
  · have hmost : ∀ n ≤ 1, ∀ limit ∈ some 1, n ≤ limit := by
      rintro n hn _ ⟨⟩
      exact hn
    rintro (rfl | hcs)
    · exact ⟨0, Nat.le_refl 0, hmost 0 (by decide), Language.nil_mem_one⟩
    · exact ⟨1, Nat.zero_le 1, hmost 1 (by decide), (pow_one L).symm ▸ hcs⟩

end Expression

end BankCodes.Text
