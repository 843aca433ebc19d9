import BankCodes.Proofs.Pattern.Spelling
import BankCodes.Proofs.Text.Expression
import BankCodes.Text.Ascii
import Mathlib

/-!
# Cuts of a text along a pattern

A pattern is about cuts: a text belongs to it if it falls into consecutive pieces, one for each
group. `accepts` marks suffixes instead of looking for a cut, and a pattern is usually read as a
regular expression, `[A-Z]{4}[0-9]{1,3}`. All three say the same:

    p.accepts s = true ↔ ∃ pieces, pieces.flatten = s.toList ∧ Forall₂ Takes p.groups pieces
    p.accepts s = true ↔ s.toList ∈ p.language

A cut is found whenever there is one, however the classes of neighbouring groups overlap, and the
pieces make up the whole text.
-/

namespace BankCodes.Pattern

open Text

/-! ## Classes -/

/-- Whether a character is in the class, by the range of its code point. -/
def CharClass.Has : CharClass → Char → Prop
  | digit, c => '0' ≤ c ∧ c ≤ '9'
  | upper, c => 'A' ≤ c ∧ c ≤ 'Z'
  | alphanumeric, c => ('A' ≤ c ∧ c ≤ 'Z') ∨ ('a' ≤ c ∧ c ≤ 'z') ∨ ('0' ≤ c ∧ c ≤ '9')
  | space, c => c = ' '

theorem CharClass.contains_iff {k : CharClass} {c : Char} :
    k.contains c = true ↔ k.Has c := by
  cases k with
  | digit => exact isDigit_iff
  | upper => exact isUpper_iff
  | alphanumeric =>
    show c.isAlphanum = true ↔ _
    rw [isAlphanum_iff, isUpper_iff, isLower_iff, isDigit_iff, or_assoc]
    rfl
  | space => exact beq_iff_eq

/-! ## Pieces -/

/-- What a group asks of its piece: characters of its class, and so many of them, or at least one
and at most so many. -/
structure Group.Takes (g : Group) (piece : List Char) : Prop where
  inClass : ∀ c ∈ piece, g.kind.Has c
  exactly : g.exact = true → piece.length = g.count
  within : g.exact = false → 1 ≤ piece.length ∧ piece.length ≤ g.count

theorem Group.takes_iff {g : Group} {piece : List Char} : g.Takes piece ↔ g.Admits piece := by
  constructor
  · intro ⟨hclass, hexact, hwithin⟩
    refine ⟨fun c hc => CharClass.contains_iff.2 (hclass c hc), ?_⟩
    cases h : g.exact with
    | true => simpa using hexact h
    | false => simpa using hwithin h
  · intro ⟨hclass, hlen⟩
    refine ⟨fun c hc => CharClass.contains_iff.1 (hclass c hc), fun h => ?_, fun h => ?_⟩
    · simpa [h] using hlen
    · simpa [h] using hlen

/-- A text is spelled by groups if and only if it has a cut along them. -/
theorem spells_iff_cut {gs : List Group} {cs : List Char} :
    Spells gs cs ↔
      ∃ pieces : List (List Char), pieces.flatten = cs ∧ List.Forall₂ Group.Takes gs pieces := by
  constructor
  · -- a spelling is a cut read from left to right
    intro h
    induction h with
    | nil => exact ⟨[], rfl, .nil⟩
    | cons hg _ ih =>
      obtain ⟨pieces, rfl, hpieces⟩ := ih
      exact ⟨_ :: pieces, rfl, .cons (Group.takes_iff.2 hg) hpieces⟩
  · rintro ⟨pieces, rfl, h⟩
    induction h with
    | nil => exact .nil
    | cons hg _ ih => exact .cons (Group.takes_iff.1 hg) ih

/-! ## Regular languages -/

/-- The texts of one character of the class. -/
def CharClass.language (k : CharClass) : Language Char := {cs | ∃ c, k.Has c ∧ cs = [c]}

/-- The language of a group: so many characters of its class in a row, or any number of them from
one to so many. -/
def Group.language (g : Group) : Language Char :=
  if g.exact then g.kind.language ^ g.count
  else ⨆ (n : Nat) (_ : 1 ≤ n ∧ n ≤ g.count), g.kind.language ^ n

/-- The language of a pattern: its groups one behind the other. -/
def language (p : Pattern) : Language Char := (p.groups.map Group.language).prod

theorem CharClass.mem_language_pow {k : CharClass} {n : Nat} {cs : List Char} :
    cs ∈ k.language ^ n ↔ cs.length = n ∧ ∀ c ∈ cs, k.Has c :=
  Expression.mem_letters_pow

theorem Group.mem_language {g : Group} {piece : List Char} :
    piece ∈ g.language ↔ g.Takes piece := by
  rw [Group.language]
  cases hx : g.exact with
  | true =>
    rw [if_pos rfl, CharClass.mem_language_pow]
    constructor
    · intro ⟨hlen, hall⟩
      exact ⟨hall, fun _ => hlen, fun hf => by simp [hx] at hf⟩
    · exact fun h => ⟨h.exactly hx, h.inClass⟩
  | false =>
    rw [if_neg Bool.false_ne_true]
    simp only [Language.mem_iSup, CharClass.mem_language_pow]
    constructor
    · rintro ⟨n, hn, rfl, hall⟩
      exact ⟨hall, fun ht => by simp [hx] at ht, fun _ => hn⟩
    · exact fun h => ⟨_, h.within hx, rfl, h.inClass⟩

/-- The product of the languages of groups holds the texts that the groups spell. -/
theorem mem_prod_language {gs : List Group} {cs : List Char} :
    cs ∈ (gs.map Group.language).prod ↔ Spells gs cs := by
  induction gs generalizing cs with
  | nil =>
    rw [List.map_nil, List.prod_nil, Language.mem_one]
    constructor
    · rintro rfl
      exact .nil
    · rintro ⟨⟩
      rfl
  | cons g gs ih =>
    rw [List.map_cons, List.prod_cons, Language.mem_mul]
    constructor
    · rintro ⟨piece, hpiece, rest, hrest, rfl⟩
      exact .cons (Group.takes_iff.1 (Group.mem_language.1 hpiece)) (ih.1 hrest)
    · rintro (_ | ⟨hg, hrest⟩)
      exact ⟨_, Group.mem_language.2 (Group.takes_iff.2 hg), _, ih.2 hrest, rfl⟩

/-! ## Acceptance -/

/-- A compiled expression is its groups side by side, and it accepts exactly the texts that have a
cut along these groups, which are those of the regular language. -/
theorem accepts_iff_cut {expression : String} {p : Pattern} (h : compile expression = .ok p) :
    expression.toList = p.groups.flatMap Group.text ∧
    ∀ s : String,
      (p.accepts s = true ↔
        ∃ pieces : List (List Char), pieces.flatten = s.toList ∧
          List.Forall₂ Group.Takes p.groups pieces) ∧
      (p.accepts s = true ↔ s.toList ∈ p.language) := by
  refine ⟨?_, fun s => ⟨?_, ?_⟩⟩
  · rw [← compile_eq_ok_iff.1 h, Pattern.expression, String.toList_ofList]
  · rw [accepts_iff_spells, spells_iff_cut]
  · rw [accepts_iff_spells, language, mem_prod_language]

/-- Three groups that ask for the same characters: of the four digits the last is left to the last
group, although the first two could have them all. -/
theorem accepts_iff_cut_overlapping :
    ∃ p, compile "2n2n1!n" = .ok p ∧ p.accepts "1234" = true ∧
      ∃ pieces : List (List Char), pieces.flatten = ['1', '2', '3', '4'] ∧
        List.Forall₂ Group.Takes p.groups pieces := by
  let p : Pattern := ⟨[.upTo 2 .digit, .upTo 2 .digit, .exactly 1 .digit], by decide⟩
  have hp : compile "2n2n1!n" = .ok p := compile_eq_ok_iff.2 (by decide)
  have haccepts : p.accepts "1234" = true := by decide
  exact ⟨p, hp, haccepts, (((accepts_iff_cut hp).2 "1234").1).1 haccepts⟩

example : (compile "3c2!n").map (fun p => ["A1", "A12", "123", "ABC12", "ABC123"].map p.accepts) =
    .ok [false, true, true, true, false] := by
  decide +kernel

end BankCodes.Pattern
