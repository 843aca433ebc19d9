import BankCodes.Proofs.Pattern.Cut
import BankCodes.Proofs.Pattern.Grammar

/-!
# How long the texts of a pattern are

A group takes as many characters as it counts, or, if it is not exact, any number of them from one
to its count. So the lengths of the texts of a pattern are all numbers from a least one to a
greatest one:

    {n | some text of length n is accepted} = Set.Icc (sum of the least numbers) (sum of the counts)

* `exists_spells_length_iff`: no length between the two sums is missing;
* `fixedLength?_eq_some_iff`: there is a fixed length if all groups are exact, and it is the sum of
  the counts;
* `spells_iff_groupAt?`: the group of each place is then fixed as well, and a text is spelled if it
  has the right length and each of its characters is in the class of its group.
-/

namespace BankCodes.Pattern

open Text Text.Expression

/-! ## Pieces of a group -/

/-- The least number of characters that a group takes. -/
def Group.least (g : Group) : Nat := if g.exact then g.count else 1

/-- A character of the class. -/
def CharClass.sample : CharClass → Char
  | digit => '0'
  | upper => 'A'
  | alphanumeric => 'A'
  | space => ' '

theorem CharClass.contains_sample (k : CharClass) : k.contains k.sample = true := by
  cases k <;> rfl

theorem Group.least_le_count {g : Group} (h : g.isValid = true) : g.least ≤ g.count := by
  obtain ⟨-, -, hpos, -⟩ := isValid_iff.1 h
  unfold least
  split
  · exact Nat.le_refl _
  · exact hpos

/-- A group takes pieces of all lengths from the least one to its count, and no others. -/
theorem Group.exists_admits_length_iff {g : Group} {n : Nat} :
    (∃ piece, g.Admits piece ∧ piece.length = n) ↔ g.least ≤ n ∧ n ≤ g.count := by
  have hbounds : (if g.exact then n = g.count else 1 ≤ n ∧ n ≤ g.count) ↔
      g.least ≤ n ∧ n ≤ g.count := by
    unfold least
    split
    · omega
    · rfl
  rw [← hbounds]
  constructor
  · rintro ⟨piece, ⟨-, hlen⟩, rfl⟩
    exact hlen
  · intro hlen
    refine ⟨List.replicate n g.kind.sample, ⟨fun c hc => ?_, ?_⟩, List.length_replicate⟩
    · rw [List.eq_of_mem_replicate hc]
      exact g.kind.contains_sample
    · rwa [List.length_replicate]

/-! ## Texts of groups -/

/-- Groups spell texts of all lengths between the two sums, and of no others. -/
theorem exists_spells_length_iff {gs : List Group} (hvalid : ∀ g ∈ gs, g.isValid = true) {n : Nat} :
    (∃ cs, Spells gs cs ∧ cs.length = n) ↔
      (gs.map Group.least).sum ≤ n ∧ n ≤ (gs.map Group.count).sum := by
  induction gs generalizing n with
  | nil => simp [spells_nil, eq_comm]
  | cons g gs ih =>
    obtain ⟨hg, hgs⟩ := List.forall_mem_cons.1 hvalid
    rw [List.map_cons, List.map_cons, List.sum_cons, List.sum_cons]
    constructor
    · rintro ⟨_, _ | ⟨hpiece, hrest⟩, rfl⟩
      have hfirst := Group.exists_admits_length_iff.1 ⟨_, hpiece, rfl⟩
      have hothers := (ih hgs).1 ⟨_, hrest, rfl⟩
      rw [List.length_append]
      omega
    · intro ⟨hle, hge⟩
      -- the first group takes as many characters as the others can do without
      have hleast := Group.least_le_count hg
      have hsums : (gs.map Group.least).sum ≤ (gs.map Group.count).sum :=
        List.sum_le_sum fun g hg => Group.least_le_count (hgs g hg)
      obtain ⟨m, hm, hfirst, hothers⟩ : ∃ m ≤ n, (g.least ≤ m ∧ m ≤ g.count) ∧
          (gs.map Group.least).sum ≤ n - m ∧ n - m ≤ (gs.map Group.count).sum :=
        ⟨min g.count (n - (gs.map Group.least).sum), by omega, by omega, by omega⟩
      obtain ⟨piece, hpiece, hlen⟩ := Group.exists_admits_length_iff.2 hfirst
      obtain ⟨rest, hrest, hlen'⟩ := (ih hgs).2 hothers
      refine ⟨piece ++ rest, .cons hpiece hrest, ?_⟩
      rw [List.length_append]
      omega

/-! ## Exact groups -/

/-- The group that takes the character at a place, if each takes as many as it counts. -/
def groupAt? : List Group → Nat → Option Group
  | [], _ => none
  | g :: gs, i => if i < g.count then some g else groupAt? gs (i - g.count)

/-- Exact groups spell the texts of their length whose characters are in the classes of the groups
at their places. -/
theorem spells_iff_groupAt? {gs : List Group} (hexact : ∀ g ∈ gs, g.exact = true)
    {cs : List Char} :
    Spells gs cs ↔ cs.length = (gs.map Group.count).sum ∧
      ∀ i c, cs[i]? = some c → ∃ g, groupAt? gs i = some g ∧ g.kind.contains c = true := by
  induction gs generalizing cs with
  | nil =>
    rw [spells_nil]
    constructor
    · rintro rfl
      exact ⟨rfl, by simp⟩
    · rintro ⟨hlen, -⟩
      exact List.length_eq_zero_iff.1 hlen
  | cons g gs ih =>
    obtain ⟨hg, hgs⟩ := List.forall_mem_cons.1 hexact
    rw [spells_cons_exact hg, ih hgs, List.map_cons, List.sum_cons, List.length_drop]
    simp only [List.getElem?_drop, groupAt?]
    constructor
    · intro ⟨hle, hfirst, hlen, hrest⟩
      refine ⟨by omega, fun i c hc => ?_⟩
      by_cases hi : i < g.count
      · rw [if_pos hi]
        refine ⟨g, rfl, hfirst c (List.mem_of_getElem? (i := i) ?_)⟩
        rw [List.getElem?_take_of_lt hi, hc]
      · rw [if_neg hi]
        apply hrest
        rwa [Nat.add_sub_cancel' (Nat.le_of_not_lt hi)]
    · intro ⟨hlen, hall⟩
      refine ⟨by omega, fun c hc => ?_, by omega, fun i c hc => ?_⟩
      · obtain ⟨i, hc⟩ := List.getElem?_of_mem hc
        have hi : i < g.count := by
          have := (List.getElem?_eq_some_iff.1 hc).1
          rw [List.length_take] at this
          omega
        rw [List.getElem?_take_of_lt hi] at hc
        simpa [hi] using hall i c hc
      · have hplace := hall (g.count + i) c hc
        rwa [if_neg (by omega), Nat.add_sub_cancel_left] at hplace

theorem fixedLength?_eq_some_iff {p : Pattern} {n : Nat} :
    p.fixedLength? = some n ↔
      (∀ g ∈ p.groups, g.exact = true) ∧ (p.groups.map Group.count).sum = n := by
  have hsum : p.groups.foldr (fun g n => g.count + n) 0 = (p.groups.map Group.count).sum := by
    rw [List.sum_eq_foldr, List.foldr_map]
  simp [fixedLength?, hsum]

theorem fixedLength?_eq_none_iff {p : Pattern} :
    p.fixedLength? = none ↔ ∃ g ∈ p.groups, g.exact = false := by
  simp [fixedLength?]

/-- Exact groups leave no choice. -/
theorem sum_least_of_exact {gs : List Group} (hexact : ∀ g ∈ gs, g.exact = true) :
    (gs.map Group.least).sum = (gs.map Group.count).sum := by
  congr 1
  apply List.map_congr_left
  intro g hg
  exact if_pos (hexact g hg)

/-! ## Lengths -/

/-- The groups of a pattern are those that are found in its expression. The texts that it accepts
have all lengths from the sum of their least numbers to the sum of their counts, and no others. A
fixed length is both sums at once, and with it the class of every character is fixed; there is none
exactly if some group is not exact. -/
theorem accepted_lengths {expression : String} {p : Pattern} (h : compile expression = .ok p) :
    (Composed expression p.groups ∧
      (groupExpression.occurrences expression.toList).map Occurrence.chars =
        p.groups.map Group.text) ∧
    {n | ∃ s : String, p.accepts s = true ∧ s.length = n} =
      Set.Icc (p.groups.map Group.least).sum (p.groups.map Group.count).sum ∧
    (∀ n, p.fixedLength? = some n →
      (p.groups.map Group.least).sum = n ∧ (p.groups.map Group.count).sum = n ∧
      ∀ s : String, p.accepts s = true ↔ s.length = n ∧
        ∀ i c, s.toList[i]? = some c → ∃ g, groupAt? p.groups i = some g ∧ g.kind.Has c) ∧
    (p.fixedLength? = none ↔ ∃ g ∈ p.groups, g.exact = false) := by
  have hcomposed := compile_eq_ok_iff_composed.1 h
  refine ⟨⟨hcomposed, ?_⟩, ?_, fun n hn => ?_, fixedLength?_eq_none_iff⟩
  · rw [(occurrences_of_composed hcomposed).1, map_chars_placed]
  · ext n
    rw [Set.mem_Icc, ← exists_spells_length_iff (wellFormed_iff.1 p.valid).2, Set.mem_ofPred_eq]
    simp only [accepts_iff_spells, ← String.length_toList]
    constructor
    · rintro ⟨s, hs⟩
      exact ⟨s.toList, hs⟩
    · rintro ⟨cs, hcs⟩
      exact ⟨String.ofList cs, by rwa [String.toList_ofList]⟩
  · obtain ⟨hexact, rfl⟩ := fixedLength?_eq_some_iff.1 hn
    refine ⟨sum_least_of_exact hexact, rfl, fun s => ?_⟩
    rw [accepts_iff_spells, spells_iff_groupAt? hexact, String.length_toList]
    simp only [CharClass.contains_iff]

/-- One to five digits and three letters: texts of four to eight characters. And a fixed length. -/
theorem accepted_lengths_samples :
    (∃ p, compile "5n03!a" = .ok p ∧
      {n | ∃ s : String, p.accepts s = true ∧ s.length = n} = Set.Icc 4 8) ∧
    ∃ p, compile "2!a3!n" = .ok p ∧ p.fixedLength? = some 5 ∧
      ∀ s : String, p.accepts s = true ↔ s.length = 5 ∧
        ∀ i c, s.toList[i]? = some c → ∃ g, groupAt? p.groups i = some g ∧ g.kind.Has c := by
  constructor
  · let p : Pattern := ⟨[.upTo 5 .digit, ⟨['0', '3'], true, .upper⟩], by decide⟩
    have hp : compile "5n03!a" = .ok p := compile_eq_ok_iff.2 (by decide)
    exact ⟨p, hp, (accepted_lengths hp).2.1⟩
  · let p : Pattern := ⟨[.exactly 2 .upper, .exactly 3 .digit], by decide⟩
    have hp : compile "2!a3!n" = .ok p := compile_eq_ok_iff.2 (by decide)
    have hfixed : p.fixedLength? = some 5 := by decide
    exact ⟨p, hp, hfixed, ((accepted_lengths hp).2.2.1 5 hfixed).2.2⟩

end BankCodes.Pattern
