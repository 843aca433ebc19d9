import BankCodes.Proofs.Scan.Tokens
import BankCodes.Proofs.Text.Longest

/-!
# The expression for printed IBANs

A printed IBAN is looked for with an expression in which much is left open:

    \b[A-Z]{2}\d{2}(?: [A-Z0-9]{4}){1,7}(?: [A-Z0-9]{1,3})?\b

Between the borders it describes a head, one to seven full groups and perhaps a shorter one, with
single spaces between them (`PrintedForm`).

* `reads_printedBody`: these are its pieces;
* `longestFirst_printedBody`: they are tried from the longest to the shortest, since a full group
  more is longer than any shorter group;
* `printedForm_iff`: the groups are those of a text of four to 31 characters that is cut into fours.
-/

namespace BankCodes.Scan

open Iban (Grouped)
open Text Text.Expression

/-! ## Printed forms -/

/-- One to three capitals and digits. -/
structure ShortGroup (cs : List Char) : Prop where
  ne_nil : cs ≠ []
  length_lt : cs.length < 4
  capitals : ∀ c ∈ cs, isCapitalOrDigit c = true

/-- A head, one to seven full groups, and perhaps a shorter one, one space apart. -/
def PrintedForm (cs : List Char) : Prop :=
  ∃ head full last, IsHead head ∧ (1 ≤ full.length ∧ full.length ≤ 7) ∧
    (∀ g ∈ full, FourGroup g) ∧ (last = [] ∨ ∃ g, ShortGroup g ∧ last = [g]) ∧
    cs = spaced head (full ++ last)

/-- Full groups, and perhaps a shorter one behind them, are groups of four. -/
theorem grouped_append {full last : List (List Char)} (hpos : 1 ≤ full.length)
    (hfull : ∀ g ∈ full, FourGroup g) (hlast : last = [] ∨ ∃ g, ShortGroup g ∧ last = [g]) :
    Grouped (full ++ last) := by
  induction full with
  | nil => cases hpos
  | cons g full ih =>
    have hg := hfull g (by simp)
    by_cases hnil : full ++ last = []
    · rw [List.cons_append, hnil]
      exact .last hg.ne_nil (Nat.le_of_eq hg.length_eq)
    · rw [List.cons_append]
      refine .cons hg.length_eq ?_
      cases full with
      | cons g' full => exact ih (by simp) fun d hd => hfull d (by simp [hd])
      | nil =>
        rcases hlast with rfl | ⟨short, hshort, rfl⟩
        · exact absurd rfl hnil
        · exact .last hshort.ne_nil (Nat.le_of_lt hshort.length_lt)

/-- Groups of four are full, but for the last one. -/
theorem exists_full_and_last {groups : List (List Char)} (h : Grouped groups)
    (hcapitals : ∀ g ∈ groups, ∀ c ∈ g, isCapitalOrDigit c = true) :
    ∃ full last, groups = full ++ last ∧ (∀ g ∈ full, FourGroup g) ∧
      (last = [] ∨ ∃ g, ShortGroup g ∧ last = [g]) := by
  induction h with
  | @last g hne hle =>
    have hg := hcapitals g (by simp)
    by_cases hfour : g.length = 4
    · exact ⟨[g], [], rfl, by simpa using ⟨hfour, hg⟩, .inl rfl⟩
    · exact ⟨[], [g], rfl, by simp, .inr ⟨g, ⟨hne, by omega, hg⟩, rfl⟩⟩
  | @cons g groups hfour _ ih =>
    rw [List.forall_mem_cons] at hcapitals
    obtain ⟨full, last, rfl, hfull, hlast⟩ := ih hcapitals.2
    refine ⟨g :: full, last, rfl, List.forall_mem_cons.2 ⟨⟨hfour, hcapitals.1⟩, hfull⟩, hlast⟩

private theorem length_flatten_full {full : List (List Char)} (hfull : ∀ g ∈ full, FourGroup g) :
    full.flatten.length = 4 * full.length := by
  have hfour : ∀ n ∈ full.map List.length, n = 4 :=
    List.forall_mem_map.2 fun g hg => (hfull g hg).length_eq
  rw [List.length_flatten, List.eq_replicate_of_mem hfour, List.sum_replicate_nat, List.length_map,
    Nat.mul_comm]

private theorem length_spaced_full {full : List (List Char)} (hfull : ∀ g ∈ full, FourGroup g) :
    (full.flatMap (' ' :: ·)).length = 5 * full.length := by
  have hfive : ∀ n ∈ full.map fun g => (' ' :: g).length, n = 5 :=
    List.forall_mem_map.2 fun g hg => congrArg Nat.succ (hfull g hg).length_eq
  rw [List.length_flatMap, List.eq_replicate_of_mem hfive, List.sum_replicate_nat, List.length_map,
    Nat.mul_comm]

/-- The numbers of full groups go with the numbers of characters in all of them. -/
private theorem full_length_iff {full last : List (List Char)} (hfull : ∀ g ∈ full, FourGroup g)
    (hlast : last = [] ∨ ∃ g, ShortGroup g ∧ last = [g]) :
    (1 ≤ full.length ∧ full.length ≤ 7) ↔
      4 ≤ (full ++ last).flatten.length ∧ (full ++ last).flatten.length ≤ 31 := by
  have hlen := length_flatten_full hfull
  have hshort : last.flatten.length < 4 := by
    rcases hlast with rfl | ⟨g, hg, rfl⟩
    · decide
    · simpa using hg.length_lt
  rw [List.flatten_append, List.length_append]
  omega

/-- A printed form is a head with a text of four to 31 capitals and digits behind it, cut into
fours. -/
theorem printedForm_iff {cs : List Char} :
    PrintedForm cs ↔ ∃ head groups, IsHead head ∧ Grouped groups ∧
      (∀ g ∈ groups, ∀ c ∈ g, isCapitalOrDigit c = true) ∧
      4 ≤ groups.flatten.length ∧ groups.flatten.length ≤ 31 ∧ cs = spaced head groups := by
  constructor
  · intro ⟨head, full, last, hhead, hnumber, hfull, hlast, hcs⟩
    obtain ⟨hge, hle⟩ := (full_length_iff hfull hlast).1 hnumber
    refine ⟨head, full ++ last, hhead, grouped_append hnumber.1 hfull hlast, ?_, hge, hle, hcs⟩
    intro g hg
    rcases List.mem_append.1 hg with hg | hg
    · exact (hfull g hg).capitals
    · rcases hlast with rfl | ⟨short, hshort, rfl⟩
      · cases hg
      · exact List.mem_singleton.1 hg ▸ hshort.capitals
  · intro ⟨head, groups, hhead, hgroups, hcapitals, hge, hle, hcs⟩
    obtain ⟨full, last, rfl, hfull, hlast⟩ := exists_full_and_last hgroups hcapitals
    have hnumber := (full_length_iff hfull hlast).2 ⟨hge, hle⟩
    exact ⟨head, full, last, hhead, hnumber, hfull, hlast, hcs⟩

/-! ## The expression -/

/-- ` [A-Z0-9]{least,most}` -/
def spacedExpression (least most : Nat) : Expression :=
  (one (· == ' ')).andThen (between least most isCapitalOrDigit)

/-- `(?: [A-Z0-9]{4}){1,7}` -/
def fullExpression : Expression := (spacedExpression 4 4).repeated 1 (some 7)

/-- `[A-Z]{2}\d{2}(?: [A-Z0-9]{4}){1,7}(?: [A-Z0-9]{1,3})?` -/
def printedBody : Expression :=
  headExpression.andThen (fullExpression.andThen (optional (spacedExpression 1 3)))

/-- The whole expression, between borders of words. -/
def printedExpression : Expression := word printedBody

/-- The groups of some size, each behind a space. -/
def spacedGroups (least most : Nat) : Language Char :=
  {cs | ∃ g, (least ≤ g.length ∧ g.length ≤ most) ∧ (∀ c ∈ g, isCapitalOrDigit c = true) ∧
    cs = ' ' :: g}

theorem reads_spacedExpression (least most : Nat) :
    (spacedExpression least most).Reads (spacedGroups least most) := by
  apply ((reads_one (· == ' ')).andThen (reads_between least most isCapitalOrDigit)).congr
  intro cs
  constructor
  · rintro ⟨_, ⟨c, hc, rfl⟩, g, ⟨hlen, hall⟩, rfl⟩
    exact ⟨g, hlen, hall, by rw [eq_of_beq hc]; rfl⟩
  · rintro ⟨g, hlen, hall, rfl⟩
    exact ⟨[' '], ⟨' ', rfl, rfl⟩, g, ⟨hlen, hall⟩, rfl⟩

theorem nil_notMem_spacedGroups {least most : Nat} : [] ∉ spacedGroups least most := by
  rintro ⟨g, -, -, ⟨⟩⟩

/-- So many full groups in a row. -/
theorem mem_spacedGroups_pow {n : Nat} {cs : List Char} :
    cs ∈ spacedGroups 4 4 ^ n ↔
      ∃ full : List (List Char), full.length = n ∧ (∀ g ∈ full, FourGroup g) ∧
        cs = full.flatMap (' ' :: ·) := by
  induction n generalizing cs with
  | zero =>
    rw [pow_zero, Language.mem_one]
    constructor
    · rintro rfl
      exact ⟨[], rfl, by simp, rfl⟩
    · rintro ⟨full, hlen, -, rfl⟩
      rw [List.length_eq_zero_iff.1 hlen]
      rfl
  | succ n ih =>
    rw [pow_succ', Language.mem_mul]
    constructor
    · rintro ⟨_, ⟨g, ⟨hge, hle⟩, hg, rfl⟩, rest, hrest, rfl⟩
      obtain ⟨full, hlen, hfull, rfl⟩ := ih.1 hrest
      have hfour : FourGroup g := ⟨Nat.le_antisymm hle hge, hg⟩
      exact ⟨g :: full, by simp [hlen], List.forall_mem_cons.2 ⟨hfour, hfull⟩, rfl⟩
    · rintro ⟨_ | ⟨g, full⟩, hlen, hfull, rfl⟩
      · cases hlen
      · rw [List.forall_mem_cons] at hfull
        obtain ⟨⟨hfour, hg⟩, hfull⟩ := hfull
        exact ⟨' ' :: g, ⟨g, ⟨Nat.le_of_eq hfour.symm, Nat.le_of_eq hfour⟩, hg, rfl⟩, _,
          ih.2 ⟨full, by simpa using hlen, hfull, rfl⟩, rfl⟩

theorem reads_fullExpression :
    fullExpression.Reads
      {cs | ∃ full : List (List Char), (1 ≤ full.length ∧ full.length ≤ 7) ∧
        (∀ g ∈ full, FourGroup g) ∧ cs = full.flatMap (' ' :: ·)} := by
  apply ((reads_spacedExpression 4 4).repeated nil_notMem_spacedGroups 1 (some 7)).congr
  intro cs
  constructor
  · rintro ⟨n, hge, hle, hcs⟩
    obtain ⟨full, rfl, hfull, rfl⟩ := mem_spacedGroups_pow.1 hcs
    exact ⟨full, ⟨hge, hle 7 rfl⟩, hfull, rfl⟩
  · rintro ⟨full, ⟨hge, hle⟩, hfull, rfl⟩
    refine ⟨full.length, hge, ?_, mem_spacedGroups_pow.2 ⟨full, rfl, hfull, rfl⟩⟩
    rintro _ ⟨⟩
    exact hle

theorem reads_shortExpression :
    (optional (spacedExpression 1 3)).Reads
      {cs | ∃ last : List (List Char), (last = [] ∨ ∃ g, ShortGroup g ∧ last = [g]) ∧
        cs = last.flatMap (' ' :: ·)} := by
  apply ((reads_spacedExpression 1 3).optional nil_notMem_spacedGroups).congr
  intro cs
  constructor
  · rintro (rfl | ⟨g, ⟨hge, hle⟩, hg, rfl⟩)
    · exact ⟨[], .inl rfl, rfl⟩
    · have hshort : ShortGroup g := ⟨List.ne_nil_of_length_pos hge, Nat.lt_succ_of_le hle, hg⟩
      exact ⟨[g], .inr ⟨g, hshort, rfl⟩, by simp⟩
  · rintro ⟨last, rfl | ⟨g, ⟨hne, hlt, hg⟩, rfl⟩, rfl⟩
    · exact .inl rfl
    · exact .inr ⟨g, ⟨List.length_pos_iff.2 hne, Nat.le_of_lt_succ hlt⟩, hg, by simp⟩

/-- The pieces that the expression describes between its borders are the printed forms. -/
theorem reads_printedBody : printedBody.Reads {cs | PrintedForm cs} := by
  apply (reads_headExpression.andThen (reads_fullExpression.andThen reads_shortExpression)).congr
  intro cs
  constructor
  · rintro ⟨head, hhead, _, ⟨_, ⟨full, hnumber, hfull, rfl⟩, _, ⟨last, hlast, rfl⟩, rfl⟩, rfl⟩
    refine ⟨head, full, last, hhead, hnumber, hfull, hlast, ?_⟩
    rw [spaced, List.flatMap_append]
  · rintro ⟨head, full, last, hhead, hnumber, hfull, hlast, rfl⟩
    refine ⟨head, hhead, _, ⟨_, ⟨full, hnumber, hfull, rfl⟩, _, ⟨last, hlast, rfl⟩, rfl⟩, ?_⟩
    show head ++ (_ ++ _) = _
    rw [spaced, List.flatMap_append]

/-- A printed form begins with a letter. -/
theorem begins_of_printedForm :
    ∀ piece ∈ {cs | PrintedForm cs}, ∃ c rest, piece = c :: rest ∧ isWordChar c = true := by
  rintro _ ⟨head, full, last, hhead, -, -, -, rfl⟩
  obtain ⟨c, rest, rfl⟩ := List.exists_cons_of_ne_nil hhead.ne_nil
  exact ⟨c, _, rfl, hhead.isWordChar c (by simp)⟩

/-! ## The order in which it is tried -/

/-- If the first part takes always as much, its order is of no account. -/
private theorem longestFirst_of_length {e f : Expression} {L M : Language Char}
    (he : e.LongestFirst) (hf : f.LongestFirst) (hL : e.Reads L) (hM : f.Reads M) {n : Nat}
    (hlen : ∀ piece ∈ L, piece.length = n) : (e.andThen f).LongestFirst := by
  apply he.andThen_of_reads hf hL hM
  intro a ha b hb hlt
  rw [hlen a ha, hlen b hb] at hlt
  exact absurd hlt (Nat.lt_irrefl n)

theorem longestFirst_headExpression : headExpression.LongestFirst :=
  longestFirst_of_length (longestFirst_exactly 2 _) (longestFirst_exactly 2 _)
    (reads_exactly 2 _) (reads_exactly 2 _) fun _ hpiece => hpiece.1

theorem longestFirst_spacedExpression (least most : Nat) :
    (spacedExpression least most).LongestFirst := by
  apply longestFirst_of_length (longestFirst_one _) (longestFirst_between least most _)
    (reads_one _) (reads_between least most _)
  rintro _ ⟨c, -, rfl⟩
  rfl

theorem longestFirst_fullExpression : fullExpression.LongestFirst := by
  apply (longestFirst_spacedExpression 4 4).repeated (reads_spacedExpression 4 4) _ (n := 5)
    (by decide)
  rintro _ ⟨g, ⟨hge, hle⟩, -, rfl⟩
  rw [List.length_cons]
  omega

theorem longestFirst_printedBody : printedBody.LongestFirst := by
  apply longestFirst_of_length longestFirst_headExpression _ reads_headExpression
    (reads_fullExpression.andThen reads_shortExpression) fun _ hhead => hhead.length_eq
  have hshort := (longestFirst_spacedExpression 1 3).optional (reads_spacedExpression 1 3)
    nil_notMem_spacedGroups
  apply longestFirst_fullExpression.andThen_of_reads hshort reads_fullExpression
    reads_shortExpression
  -- a full group takes five characters with its space, and a shorter one four at most
  rintro _ ⟨full, -, hfull, rfl⟩ _ ⟨full', -, hfull', rfl⟩ hlt _ - _ ⟨last, hlast, rfl⟩
  have hfour : (last.flatMap (' ' :: ·)).length ≤ 4 := by
    rcases hlast with rfl | ⟨g, hg, rfl⟩
    · exact Nat.zero_le 4
    · have := hg.length_lt
      rw [List.flatMap_singleton, List.length_cons]
      omega
  rw [length_spaced_full hfull, length_spaced_full hfull'] at hlt ⊢
  omega

end BankCodes.Scan
