import BankCodes.Proofs.Pattern.Cut
import BankCodes.Proofs.Pattern.Translation

/-!
# What the regular expression of a pattern matches

A regular expression is a text, and here it is read by rules that know nothing of groups: what stands
in brackets are ranges of characters, and what stands in braces behind them says how often one of
these comes. The regular expression of a pattern can be read so, and it matches exactly the texts
that the pattern accepts:

    ofText? p.regex.toList = some e,   e.fits s.toList = true ↔ p.accepts s = true

* `holds_inner_iff`: the characters that the text of a class stands for;
* `Group.exists_item?`: a group, with the language that is read from its text;
* `fits_regex_iff_accepts`: the whole expression.
-/

namespace BankCodes

open Text

/-! ## Reading expressions -/

namespace Text.Expression

/-- What stands in brackets: ranges of characters, and characters that stand for themselves. -/
def ranges : List Char → List (Char × Char)
  | least :: '-' :: most :: cs => (least, most) :: ranges cs
  | c :: cs => (c, c) :: ranges cs
  | [] => []

/-- Whether a character is in one of the ranges. -/
def holds (rs : List (Char × Char)) (c : Char) : Bool :=
  rs.any fun r => decide (r.1 ≤ c) && decide (c ≤ r.2)

/-- A number in digits. -/
def number? (cs : List Char) : Option Nat :=
  if cs.all Char.isDigit && !cs.isEmpty then some (numeralValue cs) else none

/-- What stands in braces: how often at least and at most, or how often in one number. -/
def bounds? (cs : List Char) : Option (Nat × Nat) :=
  match pieces ',' cs with
  | (n, []) => (number? n).map fun n => (n, n)
  | (least, [most]) => (number? least).bind fun least => (number? most).map fun most => (least, most)
  | _ => none

/-- Ranges with their bounds, behind the opening bracket. -/
def item? (cs : List Char) : Option Expression :=
  match pieces ']' cs with
  | (inner, [behind]) => do
    let braces ← (← behind.dropPrefix? ['\x7b']).dropSuffix? ['\x7d']
    let (least, most) ← bounds? braces
    return between least most (holds (ranges inner))
  | _ => none

/-- Expressions one behind the other. -/
def inRow (es : List Expression) : Expression := es.foldr andThen (exactly 0 fun _ => true)

/-- Reads ranges with their bounds, one behind the other. -/
def ofText? (cs : List Char) : Option Expression :=
  match pieces '[' cs with
  | ([], items) => (items.mapM item?).map inRow
  | _ => none

/-- Expressions one behind the other read the product of their languages. -/
theorem reads_inRow {es : List Expression} {Ls : List (Language Char)}
    (h : List.Forall₂ Reads es Ls) : (inRow es).Reads Ls.prod := by
  induction h with
  | nil =>
    apply (reads_exactly 0 fun _ => true).congr
    intro cs
    rw [List.prod_nil, Language.mem_one, ← List.length_eq_zero_iff]
    exact ⟨fun h => h.1, fun h => ⟨h, fun _ _ => rfl⟩⟩
  | cons he _ ih =>
    rw [List.prod_cons]
    exact he.andThen ih

theorem number?_numeral (n : Nat) : number? (numeral n) = some n := by
  have hdigits : (numeral n).all Char.isDigit = true := by
    rw [List.all_eq_true]
    exact fun c hc => isDigit_of_mem_numeral hc
  have hne : (numeral n).isEmpty = false := by simp [numeral_ne_nil]
  rw [number?, hdigits, hne]
  exact congrArg some (numeralValue_numeral n)

end Text.Expression

namespace Pattern

open Expression

/-! ## Classes -/

namespace CharClass

/-- What stands in the brackets of a class. -/
def inner (k : CharClass) : List Char := k.regex.tail.dropLast

theorem regex_eq (k : CharClass) : k.regex = '[' :: k.inner ++ [']'] := by
  cases k <;> rfl

/-- The text of a class stands for the characters of the class. -/
theorem holds_inner_iff {k : CharClass} {c : Char} : holds (ranges k.inner) c = true ↔ k.Has c := by
  cases k with
  | digit => simp [holds, ranges, inner, regex, Has]
  | upper => simp [holds, ranges, inner, regex, Has]
  | alphanumeric => simp [holds, ranges, inner, regex, Has]
  | space => simp [holds, ranges, inner, regex, Has, Char.le_antisymm_iff, and_comm]

theorem bracket_notMem_inner (k : CharClass) : ']' ∉ k.inner := by
  cases k <;> decide

end CharClass

/-! ## Groups -/

namespace Group

/-- What stands in the braces of a group. -/
def bounds (g : Group) : List Char := (if g.exact then [] else ['1', ',']) ++ Text.numeral g.count

theorem regex_tail (g : Group) :
    g.regex.tail = g.kind.inner ++ ']' :: ('\x7b' :: (g.bounds ++ ['\x7d'])) := by
  rw [regex, CharClass.regex_eq, bounds]
  cases g.exact <;> simp

/-- There are digits in braces, and perhaps a comma. -/
theorem notMem_bounds {c : Char} (hdigit : c.isDigit = false) (hcomma : c ≠ ',') (g : Group) :
    c ∉ g.bounds := by
  have hnumeral : c ∉ Text.numeral g.count := notMem_numeral hdigit _
  have hone : c ≠ '1' := by
    rintro rfl
    cases hdigit
  rw [bounds]
  cases g.exact <;> simp [hnumeral, hone, hcomma]

theorem bounds?_bounds (g : Group) :
    bounds? g.bounds = some (if g.exact then g.count else 1, g.count) := by
  have hcomma : ',' ∉ Text.numeral g.count := notMem_numeral rfl _
  cases hexact : g.exact with
  | true =>
    have hbounds : g.bounds = Text.numeral g.count := by
      rw [bounds, hexact]
      rfl
    rw [bounds?, hbounds, pieces_eq_self hcomma]
    simp [number?_numeral]
  | false =>
    have hbounds : g.bounds = ['1'] ++ ',' :: Text.numeral g.count := by
      rw [bounds, hexact]
      rfl
    have hone : number? ['1'] = some 1 := by decide
    rw [bounds?, hbounds, pieces_append_cons (by decide) hcomma]
    simp [hone, number?_numeral]

/-- A group is read from its text as an expression of its language. -/
theorem exists_item? (g : Group) : ∃ e, item? g.regex.tail = some e ∧ e.Reads g.language := by
  have hcut : pieces ']' g.regex.tail = (g.kind.inner, ['\x7b' :: (g.bounds ++ ['\x7d'])]) := by
    have hbounds := g.notMem_bounds (c := ']') rfl (by decide)
    rw [regex_tail]
    apply pieces_append_cons g.kind.bracket_notMem_inner
    simp [hbounds]
  have hprefix : ('\x7b' :: (g.bounds ++ ['\x7d'])).dropPrefix? ['\x7b'] =
      some (g.bounds ++ ['\x7d']) :=
    List.dropPrefix?_eq_some_iff.2 ⟨['\x7b'], rfl, beq_self_eq_true _⟩
  have hsuffix : (g.bounds ++ ['\x7d']).dropSuffix? ['\x7d'] = some g.bounds :=
    List.dropSuffix?_eq_some_iff.2 ⟨['\x7d'], rfl, beq_self_eq_true _⟩
  refine ⟨between (if g.exact then g.count else 1) g.count (holds (ranges g.kind.inner)), ?_, ?_⟩
  · simp [item?, hcut, hprefix, hsuffix, bounds?_bounds]
  · apply (reads_between _ _ _).congr
    intro cs
    rw [mem_language]
    constructor
    · intro ⟨⟨hleast, hmost⟩, hall⟩
      refine ⟨fun c hc => CharClass.holds_inner_iff.1 (hall c hc), fun hexact => ?_, fun hexact => ?_⟩
      · rw [if_pos hexact] at hleast
        exact Nat.le_antisymm hmost hleast
      · rw [if_neg (Bool.eq_false_iff.1 hexact)] at hleast
        exact ⟨hleast, hmost⟩
    · intro htakes
      refine ⟨?_, fun c hc => CharClass.holds_inner_iff.2 (htakes.inClass c hc)⟩
      cases hexact : g.exact with
      | true => simp [htakes.exactly hexact]
      | false => simpa using htakes.within hexact

end Group

/-! ## Patterns -/

/-- The regular expression of a pattern is read as an expression of its language. -/
theorem exists_ofText?_regex (p : Pattern) :
    ∃ e, ofText? p.regex.toList = some e ∧ e.Reads p.language := by
  have hpieces : pieces '[' p.regex.toList = ([], p.groups.map fun g => g.regex.tail) := by
    rw [regex, String.toList_ofList, pieces_flatMap_regex]
  choose e hitem hreads using Group.exists_item?
  have hitems : (p.groups.map fun g => g.regex.tail).mapM item? = some (p.groups.map e) := by
    rw [mapM_eq_some_iff, List.forall₂_map_left_iff, List.forall₂_map_right_iff, List.forall₂_same]
    exact fun g _ => hitem g
  refine ⟨inRow (p.groups.map e), ?_, reads_inRow ?_⟩
  · rw [ofText?, hpieces]
    exact congrArg (Option.map inRow) hitems
  · rw [List.forall₂_map_left_iff, List.forall₂_map_right_iff, List.forall₂_same]
    exact fun g _ => hreads g

/-- The regular expression of a pattern can be read, and matches exactly the texts that the pattern
accepts. -/
theorem fits_regex_iff_accepts (p : Pattern) :
    ∃ e, ofText? p.regex.toList = some e ∧
      ∀ s : String, e.fits s.toList = true ↔ p.accepts s = true := by
  obtain ⟨e, he, hreads⟩ := p.exists_ofText?_regex
  refine ⟨e, he, fun s => ?_⟩
  rw [hreads.fits_iff, accepts_iff_spells]
  exact mem_prod_language

/-- The two digits that the first class may have are left to the second one. -/
example : (ofText? "[A-Z0-9]{1,3}[0-9]{2}".toList).map (fun e =>
    ["A12", "12", "12X", "ABC12"].map fun s => e.fits s.toList) =
      some [true, false, false, true] := by
  decide +kernel

end Pattern

end BankCodes
