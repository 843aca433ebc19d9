import BankCodes.Pattern.Group

/-!
# The language of a list of groups

Groups spell a text if it can be cut into pieces, one for each group in order, so that each piece is
what its group asks for. A group that is not exact leaves a choice, and neighbouring groups may ask
for the same characters, so a first-fit cut may be wrong while another is right.

`spellsChars` finds a cut whenever there is one, without trying them one by one: it goes through the
groups from the last to the first and marks the suffixes of the text that the groups so far spell.
The main statement is

    spellsChars gs cs = true ↔ Spells gs cs
-/

namespace BankCodes.Pattern

/-- The text can be cut into pieces for the groups. -/
inductive Spells : List Group → List Char → Prop where
  | nil : Spells [] []
  | cons {g : Group} {gs : List Group} {piece rest : List Char} :
      g.Admits piece → Spells gs rest → Spells (g :: gs) (piece ++ rest)

/-! ### Marking suffixes

A list of marks goes with a text: the first mark is for the text itself, the next one for the text
without its first character, and so on. Marks that are missing at the end count as not set. -/

/-- For each suffix of the text, how many characters of the class it begins with. -/
def CharClass.runLengths (k : CharClass) (cs : List Char) : List Nat :=
  cs.foldr (fun c rs => (if k.contains c then rs.headD 0 + 1 else 0) :: rs) [0]

/-- For each place, how far it is to the next mark that is set, if there is one. -/
def toNextMark (marks : List Bool) : List (Option Nat) :=
  marks.foldr (fun m ds => (if m then some 0 else (ds.headD none).map (· + 1)) :: ds) []

/-- The suffixes that are a piece for the group followed by a marked suffix. -/
def Group.markBefore (g : Group) (cs : List Char) (marks : List Bool) : List Bool :=
  if g.exact then
    List.zipWith (fun r m => decide (g.count ≤ r) && m) (g.kind.runLengths cs)
      (marks.drop g.count)
  else
    List.zipWith (fun r d => d.any fun d => decide (d < g.count) && decide (d < r))
      (g.kind.runLengths cs) (toNextMark marks).tail

/-- The suffixes that the groups spell. -/
def markSpelled (cs : List Char) : List Group → List Bool
  | [] => cs.foldr (fun _ marks => false :: marks) [true]
  | g :: gs => g.markBefore cs (markSpelled cs gs)

/-- Whether the groups spell the text. -/
def spellsChars (gs : List Group) (cs : List Char) : Bool := (markSpelled cs gs).headD false

/-! ### The marks are right -/

/-- The marks are set for exactly those suffixes of the text that have the property. -/
private def Marks (P : List Char → Prop) : List Char → List Bool → Prop
  | [], ms => ms.headD false = true ↔ P []
  | c :: cs, ms => (ms.headD false = true ↔ P (c :: cs)) ∧ Marks P cs ms.tail

private theorem Marks.head {P : List Char → Prop} {cs : List Char} {ms : List Bool}
    (h : Marks P cs ms) : ms.headD false = true ↔ P cs := by
  cases cs with
  | nil => exact h
  | cons c cs => exact h.1

private theorem Marks.drop {P : List Char → Prop} {cs : List Char} {ms : List Bool}
    (h : Marks P cs ms) {n : Nat} (hn : n ≤ cs.length) :
    (ms.drop n).headD false = true ↔ P (cs.drop n) := by
  induction n generalizing cs ms with
  | zero => simpa using h.head
  | succ n ih =>
    cases cs with
    | nil => simp at hn
    | cons c cs =>
      rw [← List.drop_tail, List.drop_succ_cons]
      exact ih h.2 (by simpa using hn)

private theorem marks_of {P : List Char → Prop} {f : List Char → List Bool}
    (head : ∀ cs, (f cs).headD false = true ↔ P cs)
    (tail : ∀ c cs, (f (c :: cs)).tail = f cs) (cs : List Char) : Marks P cs (f cs) := by
  induction cs with
  | nil => exact head []
  | cons c cs ih => exact ⟨head _, by rw [tail]; exact ih⟩

private theorem headD_runLengths (k : CharClass) (cs : List Char) :
    (k.runLengths cs).headD 0 = (cs.takeWhile k.contains).length := by
  induction cs with
  | nil => rfl
  | cons c cs ih =>
    have eq : k.runLengths (c :: cs) =
        (if k.contains c then (k.runLengths cs).headD 0 + 1 else 0) :: k.runLengths cs := rfl
    rw [eq, List.headD_cons, ih, List.takeWhile_cons]
    split <;> rfl

private theorem runLengths_cons (k : CharClass) (c : Char) (cs : List Char) :
    (k.runLengths (c :: cs)).tail = k.runLengths cs := rfl

private theorem runLengths_ne_nil (k : CharClass) (cs : List Char) : k.runLengths cs ≠ [] := by
  cases cs <;> simp [CharClass.runLengths]

/-- A run has at least `n` characters if the first `n` characters are there and in the class. -/
private theorem le_length_takeWhile {k : CharClass} {n : Nat} {cs : List Char} :
    n ≤ (cs.takeWhile k.contains).length ↔
      n ≤ cs.length ∧ ∀ c ∈ cs.take n, k.contains c = true := by
  induction n generalizing cs with
  | zero => simp
  | succ n ih =>
    cases cs with
    | nil => simp
    | cons c cs =>
      by_cases h : k.contains c = true
      · simp [h, ih]
      · simp [h]

private theorem headD_zipWith {f : α → β → Bool} (hf : ∀ a, f a b = false) {as : List α}
    {bs : List β} (ha : as ≠ []) :
    (List.zipWith f as bs).headD false = f (as.headD a) (bs.headD b) := by
  cases as with
  | nil => exact absurd rfl ha
  | cons a as => cases bs <;> simp [hf]

/-! ### Exact groups and limits -/

/-- What the marks before a group stand for. -/
private def Before (g : Group) (P : List Char → Prop) (cs : List Char) : Prop :=
  ∃ piece rest, cs = piece ++ rest ∧ g.Admits piece ∧ P rest

private theorem before_iff {g : Group} {P : List Char → Prop} {cs : List Char} :
    Before g P cs ↔ ∃ n, n ≤ (cs.takeWhile g.kind.contains).length ∧
      (if g.exact then n = g.count else 1 ≤ n ∧ n ≤ g.count) ∧ P (cs.drop n) := by
  constructor
  · rintro ⟨piece, rest, rfl, ⟨hk, hn⟩, hp⟩
    refine ⟨piece.length, le_length_takeWhile.2 ⟨by simp, by simpa using hk⟩, hn, by simpa using hp⟩
  · rintro ⟨n, hn, hc, hp⟩
    rw [le_length_takeWhile] at hn
    refine ⟨cs.take n, cs.drop n, (List.take_append_drop n cs).symm, ⟨hn.2, ?_⟩, hp⟩
    rw [List.length_take, Nat.min_eq_left hn.1]
    exact hc

private theorem toNextMark_tail (ms : List Bool) : (toNextMark ms).tail = toNextMark ms.tail := by
  cases ms <;> rfl

/-- The distance to the next mark is the least number of places to a set mark. -/
private theorem headD_toNextMark {ms : List Bool} {d : Nat} :
    (toNextMark ms).headD none = some d ↔
      (ms.drop d).headD false = true ∧ ∀ e < d, (ms.drop e).headD false = false := by
  induction ms generalizing d with
  | nil => simp [toNextMark]
  | cons m ms ih =>
    have eq : (toNextMark (m :: ms)).headD none =
        if m then some 0 else ((toNextMark ms).headD none).map (· + 1) := rfl
    rw [eq]
    cases m with
    | true =>
      cases d with
      | zero => simp
      | succ d =>
        simp only [if_true, Option.some.injEq, reduceCtorEq, false_iff, not_and]
        intro _ h
        simpa using h 0 (by omega)
    | false =>
      cases d with
      | zero => simp
      | succ d =>
        simp only [Bool.false_eq_true, if_false, Option.map_eq_some_iff, Nat.add_right_cancel_iff,
          exists_eq_right, List.drop_succ_cons, ih]
        constructor
        · rintro ⟨h₁, h₂⟩
          refine ⟨h₁, fun e he => ?_⟩
          cases e with
          | zero => simp
          | succ e => simpa using h₂ e (by omega)
        · rintro ⟨h₁, h₂⟩
          exact ⟨h₁, fun e he => by simpa using h₂ (e + 1) (by omega)⟩

/-- A mark is set within `n` places if and only if the next one is. -/
private theorem any_headD_toNextMark {ms : List Bool} {n : Nat} :
    ((toNextMark ms).headD none).any (fun d => decide (d < n)) = true ↔
      ∃ d < n, (ms.drop d).headD false = true := by
  constructor
  · intro h
    rw [Option.any_eq_true] at h
    obtain ⟨d, hd, hn⟩ := h
    exact ⟨d, by simpa using hn, (headD_toNextMark.1 hd).1⟩
  · rintro ⟨d, hn, hd⟩
    induction d using Nat.strongRecOn with
    | _ d ih =>
      by_cases h : ∃ e < d, (ms.drop e).headD false = true
      · obtain ⟨e, he, hm⟩ := h
        exact ih e he (by omega) hm
      · have : (toNextMark ms).headD none = some d :=
          headD_toNextMark.2 ⟨hd, fun e he => by simpa using fun hm => h ⟨e, he, hm⟩⟩
        simp only [this, Option.any_some, decide_eq_true_eq]
        exact hn

private theorem headD_markBefore {g : Group} {P : List Char → Prop} {cs : List Char}
    {ms : List Bool} (h : Marks P cs ms) :
    (g.markBefore cs ms).headD false = true ↔ Before g P cs := by
  rw [before_iff]
  unfold Group.markBefore
  split
  · next hx =>
    rw [headD_zipWith (a := 0) (b := false) (by simp) (runLengths_ne_nil _ _), headD_runLengths]
    simp only [Bool.and_eq_true, decide_eq_true_eq]
    constructor
    · rintro ⟨hn, hm⟩
      exact ⟨g.count, hn, rfl, (h.drop (le_length_takeWhile.1 hn).1).1 hm⟩
    · rintro ⟨n, hn, rfl, hp⟩
      exact ⟨hn, (h.drop (le_length_takeWhile.1 hn).1).2 hp⟩
  · next hx =>
    rw [headD_zipWith (a := 0) (b := none) (by simp) (runLengths_ne_nil _ _), headD_runLengths,
      toNextMark_tail]
    have both : ∀ r : Nat, (fun d => decide (d < g.count) && decide (d < r)) =
        fun d => decide (d < min g.count r) := by
      intro r
      funext d
      simp only [Nat.lt_min, Bool.decide_and]
    rw [both, any_headD_toNextMark]
    simp only [List.drop_tail]
    constructor
    · rintro ⟨d, hd, hm⟩
      have hn : d + 1 ≤ (cs.takeWhile g.kind.contains).length := by omega
      exact ⟨d + 1, hn, by omega, (h.drop (le_length_takeWhile.1 hn).1).1 hm⟩
    · rintro ⟨n, hn, ⟨h₁, h₂⟩, hp⟩
      refine ⟨n - 1, by omega, ?_⟩
      rw [Nat.sub_add_cancel h₁]
      exact (h.drop (le_length_takeWhile.1 hn).1).2 hp

private theorem markBefore_tail (g : Group) (c : Char) (cs : List Char) (ms : List Bool) :
    (g.markBefore (c :: cs) ms).tail = g.markBefore cs ms.tail := by
  unfold Group.markBefore
  split <;> rw [List.tail_zipWith, runLengths_cons]
  · rw [List.tail_drop, List.drop_tail]
  · rw [toNextMark_tail]

private theorem marks_markBefore {g : Group} {P : List Char → Prop} {cs : List Char}
    {ms : List Bool} (h : Marks P cs ms) : Marks (Before g P) cs (g.markBefore cs ms) := by
  induction cs generalizing ms with
  | nil => exact headD_markBefore h
  | cons c cs ih => exact ⟨headD_markBefore h, by rw [markBefore_tail]; exact ih h.2⟩

private theorem before_spells {g : Group} {gs : List Group} {cs : List Char} :
    Before g (Spells gs) cs ↔ Spells (g :: gs) cs := by
  constructor
  · rintro ⟨piece, rest, rfl, hg, hr⟩
    exact .cons hg hr
  · rintro (_ | ⟨hg, hr⟩)
    exact ⟨_, _, rfl, hg, hr⟩

private theorem marks_markSpelled (gs : List Group) (cs : List Char) :
    Marks (Spells gs) cs (markSpelled cs gs) := by
  induction gs with
  | nil =>
    apply marks_of (f := fun cs => markSpelled cs [])
    · intro cs
      cases cs with
      | nil => simpa [markSpelled] using Spells.nil
      | cons c cs =>
        simp only [markSpelled, List.foldr_cons, List.headD_cons, Bool.false_eq_true, false_iff]
        intro h
        cases h
    · intro c cs
      rfl
  | cons g gs ih =>
    have := marks_markBefore (g := g) ih
    rw [show Spells (g :: gs) = Before g (Spells gs) from funext fun _ =>
      propext before_spells.symm]
    exact this

/-- A text is found to be spelled exactly if it can be cut into pieces for the groups. -/
theorem spellsChars_iff {gs : List Group} {cs : List Char} :
    spellsChars gs cs = true ↔ Spells gs cs :=
  (marks_markSpelled gs cs).head

end BankCodes.Pattern
