import BankCodes.Pattern
import BankCodes.Text.Ascii

/-!
# Spelling, group by group

How the texts that a list of groups spells are built up from its first group.

* `spells_cons_exact`: an exact group takes a front of fixed length;
* `spells_singleton`: the last group takes what is left;
* `length_of_spells`: with exact groups only, all texts are of one length;
* `length_le_capacity`: with any groups, no text is longer than they have room for;
* `ne_nil_of_spells`, `isAlphanum_or_space_of_spells`: no text is empty, and none has other
  characters than letters, digits and spaces.
-/

namespace BankCodes.Pattern

open Text

/-! ## The counts of groups made from numbers -/

@[simp] theorem Group.count_exactly (n : Nat) (k : CharClass) : (Group.exactly n k).count = n :=
  numeralValue_numeral n

@[simp] theorem Group.count_upTo (n : Nat) (k : CharClass) : (Group.upTo n k).count = n :=
  numeralValue_numeral n

@[simp] theorem Group.exact_exactly (n : Nat) (k : CharClass) : (Group.exactly n k).exact = true :=
  rfl

@[simp] theorem Group.exact_upTo (n : Nat) (k : CharClass) : (Group.upTo n k).exact = false := rfl

@[simp] theorem Group.kind_exactly (n : Nat) (k : CharClass) : (Group.exactly n k).kind = k := rfl

@[simp] theorem Group.kind_upTo (n : Nat) (k : CharClass) : (Group.upTo n k).kind = k := rfl

/-! ## First and last groups -/

/-- A pattern accepts what its groups spell. -/
theorem accepts_iff_spells {p : Pattern} {s : String} :
    p.accepts s = true ↔ Spells p.groups s.toList :=
  spellsChars_iff

/-- An exact group takes as many characters from the front as it counts. -/
theorem spells_cons_exact {g : Group} {gs : List Group} {cs : List Char} (hx : g.exact = true) :
    Spells (g :: gs) cs ↔
      g.count ≤ cs.length ∧ (∀ c ∈ cs.take g.count, g.kind.contains c = true) ∧
        Spells gs (cs.drop g.count) := by
  constructor
  · rintro (_ | ⟨⟨hclass, hlen⟩, hrest⟩)
    rw [if_pos hx] at hlen
    rw [← hlen]
    exact ⟨by simp, by simpa using hclass, by simpa using hrest⟩
  · intro ⟨hlen, hclass, hrest⟩
    rw [← List.take_append_drop g.count cs]
    refine .cons ⟨hclass, ?_⟩ hrest
    rw [if_pos hx, List.length_take, Nat.min_eq_left hlen]

/-- No groups take nothing. -/
theorem spells_nil {cs : List Char} : Spells [] cs ↔ cs = [] := by
  constructor
  · rintro ⟨⟩
    rfl
  · rintro rfl
    exact .nil

/-- A single group takes the whole text. -/
theorem spells_singleton {g : Group} {cs : List Char} : Spells [g] cs ↔ g.Admits cs := by
  constructor
  · rintro (_ | ⟨hg, _ | _⟩)
    simpa using hg
  · intro h
    simpa using Spells.cons h .nil

/-! ## Characters -/

/-- A text that groups spell is made of ASCII letters, digits and spaces. -/
theorem isAlphanum_or_space_of_spells {gs : List Group} {cs : List Char} (h : Spells gs cs) :
    ∀ c ∈ cs, c.isAlphanum = true ∨ c = ' ' := by
  have hclass : ∀ (k : CharClass) (c : Char), k.contains c = true →
      c.isAlphanum = true ∨ c = ' ' := by
    intro k c hc
    cases k with
    | digit => exact .inl (isAlphanum_iff.2 (.inr hc))
    | upper => exact .inl (isAlphanum_iff.2 (.inl (.inl hc)))
    | alphanumeric => exact .inl hc
    | space => exact .inr (eq_of_beq hc)
  induction h with
  | nil => simp
  | cons hg _ ih =>
    intro c hc
    rcases List.mem_append.1 hc with hc | hc
    · exact hclass _ c (hg.1 c hc)
    · exact ih c hc

/-- A pattern asks for at least one character. -/
theorem ne_nil_of_spells {p : Pattern} {cs : List Char} (h : Spells p.groups cs) : cs ≠ [] := by
  obtain ⟨hne, hvalid⟩ := wellFormed_iff.1 p.valid
  generalize p.groups = gs at h hne hvalid
  cases h with
  | nil => exact absurd rfl hne
  | @cons g _ piece _ hg _ =>
    obtain ⟨-, -, hpos, -⟩ := Group.isValid_iff.1 (hvalid g (by simp))
    have hlen := hg.2
    intro hnil
    rw [(List.append_eq_nil_iff.1 hnil).1] at hlen
    split at hlen
    · simp only [List.length_nil] at hlen
      omega
    · simp at hlen

/-! ## Lengths -/

/-- How many characters groups have room for. -/
def capacity (gs : List Group) : Nat := gs.foldr (fun g n => g.count + n) 0

/-- A spelled text is no longer than the groups have room for. -/
theorem length_le_capacity {gs : List Group} {cs : List Char} (h : Spells gs cs) :
    cs.length ≤ capacity gs := by
  induction h with
  | nil => exact Nat.le_refl 0
  | @cons g gs piece rest hg _ ih =>
    have hpiece : piece.length ≤ g.count := by
      have hlen := hg.2
      split at hlen
      · exact Nat.le_of_eq hlen
      · exact hlen.2
    rw [List.length_append]
    exact Nat.add_le_add hpiece ih

/-- If all groups are exact, the length of a spelled text is the sum of their counts. -/
theorem length_of_spells {gs : List Group} {cs : List Char} (hx : gs.all Group.exact = true)
    (h : Spells gs cs) : cs.length = gs.foldr (fun g n => g.count + n) 0 := by
  induction h with
  | nil => rfl
  | @cons g gs piece rest hg _ ih =>
    rw [List.all_cons, Bool.and_eq_true] at hx
    have hpiece : piece.length = g.count := by simpa [hx.1] using hg.2
    rw [List.length_append, hpiece, ih hx.2, List.foldr_cons]

/-- A pattern of fixed length accepts texts of that length only. -/
theorem length_of_fixedLength? {p : Pattern} {n : Nat} {cs : List Char}
    (hp : p.fixedLength? = some n) (h : Spells p.groups cs) : cs.length = n := by
  unfold fixedLength? at hp
  split at hp
  · next hx =>
    cases hp
    exact length_of_spells hx h
  · cases hp

end BankCodes.Pattern
