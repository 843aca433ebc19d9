import BankCodes.Proofs.Text.Occurrences
import BankCodes.Proofs.Pattern.Spelling

/-!
# The grammar of layout expressions

An expression is a composition of groups, `<number>[!]<class>`, and there is one way to cut it into
groups. It compiles if each of the numbers is in its range, and to the pattern of these groups;
otherwise the leftmost group that is out of range is told, or that there is no composition.

* `composed_iff`: the groups that are read are those that the expression is composed of;
* `compile_eq_ok_iff_composed` and `compile_eq_error_iff`: the outcomes, said of the composition;
* `fits_iff_composed` and `occurrences_of_composed`: the composition is what the regular expression
  `([0-9]+)(!?)([ance])` gives, both where it is repeated over the whole text and where it is
  searched for from group to group;
* `compile_iff_grammar`: all of this for the expressions whose numbers can be read.
-/

namespace BankCodes.Pattern

open Text Text.Expression

/-! ## Composition -/

/-- The number of the group is written in digits, one at least. -/
def Group.Numbered (g : Group) : Prop := g.numeral ≠ [] ∧ ∀ c ∈ g.numeral, c.isDigit = true

/-- The expression is the groups one behind the other, one at least. -/
structure Composed (expression : String) (gs : List Group) : Prop where
  ne_nil : gs ≠ []
  numbered : ∀ g ∈ gs, g.Numbered
  text : gs.flatMap Group.text = expression.toList

/-- The digits that were read before the class are the number of the group. -/
private theorem numbered_of_pending {pending : List Char}
    (hdigits : ∀ d ∈ pending, d.isDigit = true) (hne : ¬ pending.isEmpty = true) (exact : Bool)
    (k : CharClass) : Group.Numbered ⟨pending.reverse, exact, k⟩ := by
  constructor
  · simpa using hne
  · simpa using hdigits

/-- The groups that are read have numbers. -/
theorem numbered_of_groupsFrom {pending cs : List Char} {gs : List Group}
    (hdigits : ∀ d ∈ pending, d.isDigit = true) (h : groupsFrom pending cs = some gs) :
    ∀ g ∈ gs, g.Numbered := by
  fun_induction groupsFrom pending cs generalizing gs with
  | case1 =>
    cases h
    simp
  | case2 | case3 | case4 | case7 | case8 => cases h
  | case5 pending c cs hne k hk ih =>
    obtain ⟨gs, hgs, rfl⟩ := Option.map_eq_some_iff.1 h
    exact List.forall_mem_cons.2 ⟨numbered_of_pending hdigits hne true k, ih (by simp) hgs⟩
  | case6 pending c cs _ hc ih => exact ih (List.forall_mem_cons.2 ⟨hc, hdigits⟩) h
  | case9 pending c cs _ hc hne k hk ih =>
    obtain ⟨gs, hgs, rfl⟩ := Option.map_eq_some_iff.1 h
    exact List.forall_mem_cons.2 ⟨numbered_of_pending hdigits hne false k, ih (by simp) hgs⟩

/-- An expression is composed of the groups that are read, if there are any. -/
theorem composed_iff {expression : String} {gs : List Group} :
    Composed expression gs ↔ groupsFrom [] expression.toList = some gs ∧ gs ≠ [] := by
  constructor
  · intro ⟨hne, hnumbered, htext⟩
    exact ⟨htext ▸ groupsFrom_flatMap_text hnumbered, hne⟩
  · intro ⟨hgs, hne⟩
    exact ⟨hne, numbered_of_groupsFrom (by simp) hgs, flatMap_text_of_groupsFrom hgs⟩

/-- There is one way to cut an expression into groups. -/
theorem Composed.unique {expression : String} {gs gs' : List Group} (h : Composed expression gs)
    (h' : Composed expression gs') : gs = gs' :=
  Option.some.inj ((composed_iff.1 h).1.symm.trans (composed_iff.1 h').1)

/-! ## Outcomes -/

/-- What is told of a group. -/
def Group.reason (g : Group) (what : String) : String :=
  "group '" ++ String.ofList g.text ++ "' " ++ what

/-- The number of the group is zero or too large, and this is told of it. -/
inductive Group.OutOfRange (g : Group) : String → Prop where
  | zero : g.count = 0 → OutOfRange g (g.reason "has a zero length")
  | above : 65535 < g.count → OutOfRange g (g.reason "is longer than 65535")

/-- What is wrong with the number of a group. It is not read if it has too many digits. -/
inductive Group.Wrong (expression : String) (g : Group) : Fault → Prop where
  | unreadable : digitLimit < g.numeral.length →
      Wrong expression g (.tooManyDigits g.numeral.length)
  | outOfRange {reason : String} : g.numeral.length ≤ digitLimit → g.OutOfRange reason →
      Wrong expression g (.malformed ⟨expression, some reason⟩)

theorem Group.fault?_eq_some_iff {expression : String} {g : Group} {fault : Fault} :
    g.fault? expression = some fault ↔ g.Wrong expression fault := by
  have hlimit : "is longer than " ++ toString countLimit = "is longer than 65535" := by
    decide +kernel
  unfold fault?
  rw [hlimit]
  constructor
  · intro h
    split at h
    · next hlong =>
      cases h
      exact .unreadable hlong
    · next hshort =>
      have hshort := Nat.le_of_not_lt hshort
      split at h
      · next hzero =>
        cases h
        exact .outOfRange hshort (.zero hzero)
      · split at h
        · next habove =>
          cases h
          exact .outOfRange hshort (.above habove)
        · cases h
  · rintro (hlong | ⟨hshort, hzero | habove⟩)
    · rw [if_pos hlong]
    · rw [if_neg (Nat.not_lt.2 hshort), if_pos hzero]
      rfl
    · have hne : g.count ≠ 0 := by omega
      have habove : g.count > countLimit := habove
      rw [if_neg (Nat.not_lt.2 hshort), if_neg hne, if_pos habove]
      rfl

/-- Nothing is wrong with a group that may be used. -/
theorem Group.fault?_eq_none_iff {expression : String} {g : Group} (hg : g.Numbered) :
    g.fault? expression = none ↔ g.isValid = true := by
  have hvalid : g.isValid = true ↔
      g.numeral.length ≤ digitLimit ∧ 1 ≤ g.count ∧ g.count ≤ countLimit := by
    rw [isValid_iff]
    exact and_iff_right hg
  rw [hvalid, Option.eq_none_iff_forall_ne_some]
  constructor
  · intro hnone
    have hshort : g.numeral.length ≤ digitLimit :=
      Nat.le_of_not_lt fun h => hnone _ (fault?_eq_some_iff.2 (.unreadable h))
    refine ⟨hshort, Nat.pos_of_ne_zero fun h => ?_, Nat.le_of_not_lt fun h => ?_⟩
    · exact hnone _ (fault?_eq_some_iff.2 (.outOfRange hshort (.zero h)))
    · exact hnone _ (fault?_eq_some_iff.2 (.outOfRange hshort (.above h)))
  · intro ⟨hshort, hpos, hle⟩ fault hfault
    have hle : g.count ≤ 65535 := hle
    rcases fault?_eq_some_iff.1 hfault with hlong | ⟨-, hzero | habove⟩ <;> omega

/-- What an expression compiles to is made of the groups that it is composed of. -/
theorem compile_eq_ok_iff_composed {expression : String} {p : Pattern} :
    compile expression = .ok p ↔ Composed expression p.groups := by
  obtain ⟨hne, hvalid⟩ := wellFormed_iff.1 p.valid
  rw [compile_eq_ok_iff, ← String.toList_inj, Pattern.expression, String.toList_ofList]
  constructor
  · exact fun htext => ⟨hne, fun g hg => (Group.isValid_iff.1 (hvalid g hg)).1, htext⟩
  · exact Composed.text

/-- An expression compiles if and only if it is composed of groups that may be used. -/
theorem exists_compile_eq_ok_iff {expression : String} :
    (∃ p, compile expression = .ok p) ↔
      ∃ gs, Composed expression gs ∧ ∀ g ∈ gs, g.isValid = true := by
  simp only [compile_eq_ok_iff_composed]
  constructor
  · intro ⟨p, hp⟩
    exact ⟨p.groups, hp, (wellFormed_iff.1 p.valid).2⟩
  · intro ⟨gs, hgs, hvalid⟩
    exact ⟨⟨gs, wellFormed_iff.2 ⟨hgs.ne_nil, hvalid⟩⟩, hgs⟩

/-- Why an expression does not compile. -/
inductive Failed (expression : String) : Fault → Prop where
  | notComposed : (∀ gs, ¬ Composed expression gs) →
      Failed expression (.malformed ⟨expression, none⟩)
  | wrongGroup {front back : List Group} {g : Group} {fault : Fault} :
      Composed expression (front ++ g :: back) → (∀ f ∈ front, f.isValid = true) →
      g.Wrong expression fault → Failed expression fault

/-- The leftmost wrong group is the first one that something is wrong with. -/
theorem findSome?_fault?_eq_some_iff {expression : String} {gs : List Group} {fault : Fault}
    (hgs : ∀ g ∈ gs, g.Numbered) :
    gs.findSome? (Group.fault? expression) = some fault ↔
      ∃ front g back, gs = front ++ g :: back ∧ (∀ f ∈ front, f.isValid = true) ∧
        g.Wrong expression fault := by
  rw [List.findSome?_eq_some_iff]
  constructor
  · rintro ⟨front, g, back, rfl, hg, hfront⟩
    refine ⟨front, g, back, rfl, fun f hf => ?_, Group.fault?_eq_some_iff.1 hg⟩
    exact (Group.fault?_eq_none_iff (hgs f (by simp [hf]))).1 (hfront f hf)
  · rintro ⟨front, g, back, rfl, hfront, hg⟩
    refine ⟨front, g, back, rfl, Group.fault?_eq_some_iff.2 hg, fun f hf => ?_⟩
    exact (Group.fault?_eq_none_iff (hgs f (by simp [hf]))).2 (hfront f hf)

/-- What is no composition is refused without a reason. -/
theorem compile_of_not_composed {expression : String} (h : ∀ gs, ¬ Composed expression gs) :
    compile expression = .error (.malformed ⟨expression, none⟩) := by
  unfold compile
  cases hgs : groupsFrom [] expression.toList with
  | none => rfl
  | some gs =>
    cases gs with
    | nil => rfl
    | cons g gs => exact absurd (composed_iff.2 ⟨hgs, by simp⟩) (h _)

/-- A composition is refused for its first wrong group. -/
theorem compile_of_composed {expression : String} {gs : List Group} {fault : Fault}
    (h : Composed expression gs) :
    compile expression = .error fault ↔ gs.findSome? (Group.fault? expression) = some fault := by
  unfold compile
  rw [(composed_iff.1 h).1]
  cases hfault : gs.findSome? (Group.fault? expression) with
  | some first => simp [hfault]
  | none =>
    have hvalid : wellFormed gs = true := by
      refine wellFormed_iff.2 ⟨h.ne_nil, fun g hg => ?_⟩
      apply (Group.fault?_eq_none_iff (h.numbered g hg)).1
      exact List.findSome?_eq_none_iff.1 hfault g hg
    simp [hfault, hvalid]

/-- An expression fails to compile for one of these reasons, and for no other. -/
theorem compile_eq_error_iff {expression : String} {fault : Fault} :
    compile expression = .error fault ↔ Failed expression fault := by
  by_cases h : ∃ gs, Composed expression gs
  · obtain ⟨gs, hgs⟩ := h
    rw [compile_of_composed hgs, findSome?_fault?_eq_some_iff hgs.numbered]
    constructor
    · rintro ⟨front, g, back, rfl, hfront, hg⟩
      exact .wrongGroup hgs hfront hg
    · rintro (hnot | ⟨hgs', hfront, hg⟩)
      · exact absurd hgs (hnot gs)
      · exact ⟨_, _, _, hgs.unique hgs', hfront, hg⟩
  · have hnone : ∀ gs, ¬ Composed expression gs := fun gs hgs => h ⟨gs, hgs⟩
    rw [compile_of_not_composed hnone]
    constructor
    · rintro ⟨⟩
      exact .notComposed hnone
    · rintro (- | ⟨hgs, -, -⟩)
      · rfl
      · exact absurd hgs (hnone _)

/-! ## The regular expression of a group -/

/-- The texts of groups. -/
def groupTexts : Language Char := {cs | ∃ g : Group, g.Numbered ∧ g.text = cs}

/-- `([0-9]+)(!?)([ance])` -/
def groupExpression : Expression :=
  ((one Char.isDigit).repeated 1 none).andThen
    ((optional (one (· == '!'))).andThen (one fun c => ['a', 'n', 'c', 'e'].contains c))

theorem contains_letters_iff {c : Char} :
    ['a', 'n', 'c', 'e'].contains c = true ↔ ∃ k : CharClass, c = k.letter := by
  constructor
  · intro h
    simp only [List.contains_eq_mem, List.mem_cons, List.not_mem_nil, or_false,
      decide_eq_true_eq] at h
    rcases h with rfl | rfl | rfl | rfl
    · exact ⟨.upper, rfl⟩
    · exact ⟨.digit, rfl⟩
    · exact ⟨.alphanumeric, rfl⟩
    · exact ⟨.space, rfl⟩
  · rintro ⟨k, rfl⟩
    cases k <;> rfl

/-- The regular expression of a group matches the texts of groups. -/
theorem reads_groupExpression : groupExpression.Reads groupTexts := by
  have hmark := (reads_one (· == '!')).optional (by rintro ⟨_, -, ⟨⟩⟩)
  apply ((reads_class Char.isDigit 1 none).andThen (hmark.andThen (reads_one _))).congr
  intro cs
  constructor
  · rintro ⟨digits, ⟨hpos, -, hdigits⟩, _, ⟨mark, hmark, letter, ⟨c, hc, rfl⟩, rfl⟩, rfl⟩
    obtain ⟨k, rfl⟩ := contains_letters_iff.1 hc
    have hne : digits ≠ [] := List.ne_nil_of_length_pos hpos
    rcases hmark with rfl | ⟨d, hd, rfl⟩
    · exact ⟨⟨digits, false, k⟩, ⟨hne, hdigits⟩, rfl⟩
    · obtain rfl := eq_of_beq hd
      exact ⟨⟨digits, true, k⟩, ⟨hne, hdigits⟩, rfl⟩
  · rintro ⟨⟨digits, exact, k⟩, ⟨hne, hdigits⟩, rfl⟩
    have hletter := contains_letters_iff.2 ⟨k, rfl⟩
    refine ⟨digits, ⟨List.length_pos_iff.2 hne, nofun, hdigits⟩, _, ?_, rfl⟩
    cases exact with
    | true => exact ⟨['!'], .inr ⟨'!', rfl, rfl⟩, [k.letter], ⟨_, hletter, rfl⟩, rfl⟩
    | false => exact ⟨[], .inl rfl, [k.letter], ⟨_, hletter, rfl⟩, rfl⟩

theorem mem_groupTexts_pow {n : Nat} {cs : List Char} :
    cs ∈ groupTexts ^ n ↔
      ∃ gs : List Group, gs.length = n ∧ (∀ g ∈ gs, g.Numbered) ∧ gs.flatMap Group.text = cs := by
  induction n generalizing cs with
  | zero =>
    rw [pow_zero, Language.mem_one]
    constructor
    · rintro rfl
      exact ⟨[], rfl, by simp, rfl⟩
    · rintro ⟨gs, hlen, -, rfl⟩
      rw [List.length_eq_zero_iff.1 hlen]
      rfl
  | succ n ih =>
    rw [pow_succ', Language.mem_mul]
    constructor
    · rintro ⟨_, ⟨g, hg, rfl⟩, rest, hrest, rfl⟩
      obtain ⟨gs, hlen, hgs, rfl⟩ := ih.1 hrest
      exact ⟨g :: gs, by simp [hlen], List.forall_mem_cons.2 ⟨hg, hgs⟩, rfl⟩
    · rintro ⟨_ | ⟨g, gs⟩, hlen, hgs, rfl⟩
      · cases hlen
      · rw [List.forall_mem_cons] at hgs
        exact ⟨g.text, ⟨g, hgs.1, rfl⟩, gs.flatMap Group.text,
          ih.2 ⟨gs, by simpa using hlen, hgs.2, rfl⟩, rfl⟩

/-- The repeated expression matches the whole text if and only if this is composed of groups. -/
theorem fits_iff_composed {expression : String} :
    (groupExpression.repeated 1 none).fits expression.toList = true ↔
      ∃ gs, Composed expression gs := by
  have hnil : [] ∉ groupTexts := by
    rintro ⟨⟨digits, exact, k⟩, ⟨hne, -⟩, htext⟩
    exact hne (List.append_eq_nil_iff.1 htext).1
  rw [(reads_groupExpression.repeated hnil 1 none).fits_iff]
  constructor
  · rintro ⟨n, hpos, -, hmem⟩
    obtain ⟨gs, rfl, hgs, htext⟩ := mem_groupTexts_pow.1 hmem
    exact ⟨gs, List.ne_nil_of_length_pos hpos, hgs, htext⟩
  · intro ⟨gs, hne, hgs, htext⟩
    exact ⟨gs.length, List.length_pos_iff.2 hne, nofun, mem_groupTexts_pow.2 ⟨gs, rfl, hgs, htext⟩⟩

/-! ## Groups found one by one -/

theorem CharClass.letter_inj {k k' : CharClass} (h : k.letter = k'.letter) : k = k' := by
  have hk := CharClass.ofLetter?_eq_some_iff.2 h
  rw [CharClass.ofLetter?_eq_some_iff.2 rfl] at hk
  exact Option.some.inj hk

/-- The text of a group shows where it ends. -/
theorem Group.text_append_inj {g g' : Group} {cs cs' : List Char} (hg : g.Numbered)
    (hg' : g'.Numbered) (h : g.text ++ cs = g'.text ++ cs') : g = g' ∧ cs = cs' := by
  obtain ⟨digits, exact, k⟩ := g
  obtain ⟨digits', exact', k'⟩ := g'
  have hletter : ∀ k : CharClass, k.letter.isDigit = false ∧ k.letter ≠ '!' := by
    intro k
    cases k <;> decide
  -- behind the digits stands a mark or a letter
  have hbehind : ∀ (exact : Bool) (k : CharClass) (cs : List Char),
      ∀ c, ((if exact then ['!', k.letter] else [k.letter]) ++ cs).head? = some c →
        c.isDigit = false := by
    intro exact k cs c hc
    cases exact <;> cases hc
    · exact (hletter k).1
    · decide
  rw [text, text, List.append_assoc, List.append_assoc] at h
  obtain ⟨rfl, hrest⟩ := front_unique hg.2 (hbehind _ _ _) hg'.2 (hbehind _ _ _) h
  cases exact <;> cases exact' <;> injection hrest with hfirst hrest
  · obtain rfl := CharClass.letter_inj hfirst
    exact ⟨rfl, hrest⟩
  · exact absurd hfirst (hletter k).2
  · exact absurd hfirst.symm (hletter k').2
  · injection hrest with hfirst hrest
    obtain rfl := CharClass.letter_inj hfirst
    exact ⟨rfl, hrest⟩

/-- Pieces one behind the other, from a place on. -/
def placed (n : Nat) : List (List Char) → List Occurrence
  | [] => []
  | piece :: pieces => ⟨n, piece⟩ :: placed (n + piece.length) pieces

/-- The search goes from group to group. -/
theorem occurrencesFrom_texts {gs : List Group} (h : ∀ g ∈ gs, g.Numbered) (before : List Char) :
    groupExpression.occurrencesFrom 0 before (gs.flatMap Group.text) =
      placed before.length (gs.map Group.text) := by
  induction gs generalizing before with
  | nil => rfl
  | cons g gs ih =>
    rw [List.forall_mem_cons] at h
    have hne : g.text ≠ [] := by
      rw [Group.text, ne_eq, List.append_eq_nil_iff]
      exact fun hnil => h.1.1 hnil.1
    have hfirst : (groupExpression.trials ⟨before, g.text ++ gs.flatMap Group.text⟩).head? =
        some ⟨g.text.reverse ++ before, gs.flatMap Group.text⟩ := by
      apply reads_groupExpression.head?_trials ⟨g, h.1, rfl⟩ ⟨rfl, rfl⟩
      rintro _ ⟨g', hg', rfl⟩ ⟨rest, hrest⟩
      rw [(Group.text_append_inj hg' h.1 hrest).1]
    have hlen : (g.text.reverse ++ before).length = before.length + g.text.length := by
      rw [List.length_append, List.length_reverse, Nat.add_comm]
    rw [List.flatMap_cons, occurrencesFrom_take hne hfirst, ih h.2, hlen]
    rfl

theorem map_chars_placed (n : Nat) (pieces : List (List Char)) :
    (placed n pieces).map Occurrence.chars = pieces := by
  induction pieces generalizing n with
  | nil => rfl
  | cons piece pieces ih => rw [placed, List.map_cons, ih]

/-- The groups of a composition are found in their order, and there is no gap between them. -/
theorem occurrences_of_composed {expression : String} {gs : List Group}
    (h : Composed expression gs) :
    groupExpression.occurrences expression.toList = placed 0 (gs.map Group.text) ∧
      ((groupExpression.occurrences expression.toList).map Occurrence.chars).flatten =
        expression.toList := by
  have hplaced : groupExpression.occurrences expression.toList = placed 0 (gs.map Group.text) := by
    rw [← h.text]
    exact occurrencesFrom_texts h.numbered []
  refine ⟨hplaced, ?_⟩
  rw [hplaced, map_chars_placed, ← List.flatMap_def, h.text]

/-! ## The translation -/

/-- The digits write the number, without leading zeros. -/
structure Plain (digits : List Char) (n : Nat) : Prop where
  ne_nil : digits ≠ []
  decimal : ∀ d ∈ digits, d.isDigit = true
  value : numeralValue digits = n
  leading : digits.head? ≠ some '0'

private theorem head?_toDigits_ne {n : Nat} (hn : 1 ≤ n) :
    (Nat.toDigits 10 n).head? ≠ some '0' := by
  induction n using Nat.strongRecOn with
  | _ n ih =>
    rw [Nat.toDigits_eq_if (by decide)]
    split
    · next hlt =>
      have hdigit : ∀ m < 10, 1 ≤ m → m.digitChar ≠ '0' := by decide
      simpa using hdigit n hlt hn
    · next hge =>
      rw [List.head?_append_of_ne_nil _ Nat.toDigits_ne_nil]
      exact ih (n / 10) (by omega) (by omega)

theorem plain_numeral {n : Nat} (hn : 1 ≤ n) : Plain (numeral n) n where
  ne_nil := numeral_ne_nil n
  decimal := fun _ => isDigit_of_mem_numeral
  value := numeralValue_numeral n
  leading := head?_toDigits_ne hn

/-- The piece of the regular expression for a group: its class, and behind it the number in braces,
alone if it is exact and behind a one otherwise. -/
def Group.Translated (g : Group) (piece : List Char) : Prop :=
  ∃ digits, Plain digits g.count ∧
    piece = g.kind.regex ++ (if g.exact then ['\x7b'] else ['\x7b', '1', ',']) ++ digits ++ ['\x7d']

/-- The regular expression of a pattern is the pieces for its groups one behind the other. -/
theorem exists_translated (p : Pattern) :
    ∃ pieces, List.Forall₂ Group.Translated p.groups pieces ∧ p.regex.toList = pieces.flatten := by
  have hvalid := (wellFormed_iff.1 p.valid).2
  refine ⟨p.groups.map Group.regex, ?_, ?_⟩
  · rw [List.forall₂_map_right_iff, List.forall₂_same]
    intro g hg
    obtain ⟨-, -, hpos, -⟩ := Group.isValid_iff.1 (hvalid g hg)
    exact ⟨numeral g.count, plain_numeral hpos, rfl⟩
  · rw [regex, String.toList_ofList, List.flatMap_def]

/-! ## Expressions whose numbers can be read -/

/-- No run of digits is longer than the longest numeral that is read. -/
def ShortRuns (expression : String) : Prop :=
  ∀ run, run <:+: expression.toList → (∀ c ∈ run, c.isDigit = true) → run.length ≤ 4300

/-- The number of a group is a run of digits. -/
theorem ShortRuns.length_numeral_le {expression : String} (h : ShortRuns expression)
    {gs : List Group} (hgs : Composed expression gs) {g : Group} (hg : g ∈ gs) :
    g.numeral.length ≤ Group.digitLimit := by
  apply h _ _ (hgs.numbered g hg).2
  obtain ⟨front, back, rfl⟩ := List.append_of_mem hg
  refine ⟨front.flatMap Group.text, (if g.exact then ['!', g.kind.letter] else [g.kind.letter]) ++
    back.flatMap Group.text, ?_⟩
  rw [← hgs.text, List.flatMap_append, List.flatMap_cons, Group.text]
  simp only [List.append_assoc]

/-- Then a group may be used if its number is in the range. -/
theorem ShortRuns.isValid_iff {expression : String} (h : ShortRuns expression) {gs : List Group}
    (hgs : Composed expression gs) {g : Group} (hg : g ∈ gs) :
    g.isValid = true ↔ 1 ≤ g.count ∧ g.count ≤ 65535 := by
  rw [Group.isValid_iff]
  constructor
  · intro ⟨_, _, hpos, hle⟩
    exact ⟨hpos, hle⟩
  · intro ⟨hpos, hle⟩
    exact ⟨hgs.numbered g hg, h.length_numeral_le hgs hg, hpos, hle⟩

/-- An expression compiles if and only if it is composed of groups with numbers from 1 to 65535. It
is composed of groups in one way only; the repeated expression for groups matches it exactly then,
and the groups found in it one by one are those of the composition, with no gap between them. They
are the groups of the pattern, and the regular expression is their translation. An expression that
does not compile is refused without a reason if it is no composition, and otherwise for the leftmost
group whose number is out of range. -/
theorem compile_iff_grammar {expression : String} (hruns : ShortRuns expression) :
    ((∃ p, compile expression = .ok p) ↔
      ∃ gs, Composed expression gs ∧ ∀ g ∈ gs, 1 ≤ g.count ∧ g.count ≤ 65535) ∧
    (∀ gs gs', Composed expression gs → Composed expression gs' → gs = gs') ∧
    ((groupExpression.repeated 1 none).fits expression.toList = true ↔
      ∃ gs, Composed expression gs) ∧
    (∀ gs, Composed expression gs →
      groupExpression.occurrences expression.toList = placed 0 (gs.map Group.text) ∧
        ((groupExpression.occurrences expression.toList).map Occurrence.chars).flatten =
          expression.toList) ∧
    (∀ p, compile expression = .ok p → Composed expression p.groups ∧
      ∃ pieces, List.Forall₂ Group.Translated p.groups pieces ∧ p.regex.toList = pieces.flatten) ∧
    ∀ fault, compile expression = .error fault →
      (fault = .malformed ⟨expression, none⟩ ∧ ∀ gs, ¬ Composed expression gs) ∨
        ∃ front g back reason, Composed expression (front ++ g :: back) ∧
          (∀ f ∈ front, 1 ≤ f.count ∧ f.count ≤ 65535) ∧ g.OutOfRange reason ∧
          fault = .malformed ⟨expression, some reason⟩ := by
  refine ⟨?_, fun gs gs' => Composed.unique, fits_iff_composed, fun gs => occurrences_of_composed,
    fun p hp => ⟨compile_eq_ok_iff_composed.1 hp, exists_translated p⟩, ?_⟩
  · rw [exists_compile_eq_ok_iff]
    constructor
    · intro ⟨gs, hgs, hvalid⟩
      exact ⟨gs, hgs, fun g hg => (hruns.isValid_iff hgs hg).1 (hvalid g hg)⟩
    · intro ⟨gs, hgs, hrange⟩
      exact ⟨gs, hgs, fun g hg => (hruns.isValid_iff hgs hg).2 (hrange g hg)⟩
  · intro fault hfault
    rcases compile_eq_error_iff.1 hfault with hnone | ⟨hgs, hfront, hg⟩
    · exact .inl ⟨rfl, hnone⟩
    · rcases hg with hlong | ⟨-, hrange⟩
      · exact absurd (hruns.length_numeral_le hgs (by simp)) (Nat.not_le.2 hlong)
      · refine .inr ⟨_, _, _, _, hgs, fun f hf => ?_, hrange, rfl⟩
        exact (hruns.isValid_iff hgs (by simp [hf])).1 (hfront f hf)

/-- A number may be written with leading zeros. Of two groups out of range the first one is told, and
an unknown letter is no reason. -/
theorem compile_iff_grammar_sample :
    (ShortRuns "04!n3c" ∧ ShortRuns "4!n0a70000c" ∧ ShortRuns "4!x") ∧
    (∃ gs, Composed "04!n3c" gs ∧ (∀ g ∈ gs, 1 ≤ g.count ∧ g.count ≤ 65535) ∧
      (∀ gs', Composed "04!n3c" gs' → gs' = gs) ∧
      (groupExpression.repeated 1 none).fits "04!n3c".toList = true ∧
      ((groupExpression.occurrences "04!n3c".toList).map Occurrence.chars).flatten =
        "04!n3c".toList) ∧
    (∃ p pieces, compile "04!n3c" = .ok p ∧ List.Forall₂ Group.Translated p.groups pieces ∧
      p.regex.toList = pieces.flatten) ∧
    (∃ front g back reason, Composed "4!n0a70000c" (front ++ g :: back) ∧ g.OutOfRange reason ∧
      compile "4!n0a70000c" = .error (.malformed ⟨"4!n0a70000c", some reason⟩)) ∧
    ∀ gs, ¬ Composed "4!x" gs := by
  have hruns : ∀ expression : String, expression.toList.length ≤ 4300 → ShortRuns expression :=
    fun expression hlen run hrun _ => Nat.le_trans hrun.length_le hlen
  have hplain := hruns "04!n3c" (by decide)
  have hrange := hruns "4!n0a70000c" (by decide)
  have hletter := hruns "4!x" (by decide)
  let p : Pattern := ⟨[⟨['0', '4'], true, .digit⟩, .upTo 3 .alphanumeric], by decide⟩
  have hp : compile "04!n3c" = .ok p := compile_eq_ok_iff.2 (by decide)
  obtain ⟨hiff, hunique, hfits, hfound, htranslated, -⟩ := compile_iff_grammar hplain
  refine ⟨⟨hplain, hrange, hletter⟩, ?_, ?_, ?_, ?_⟩
  · obtain ⟨gs, hgs, hcounts⟩ := hiff.1 ⟨p, hp⟩
    exact ⟨gs, hgs, hcounts, fun gs' hgs' => hunique gs' gs hgs' hgs, hfits.2 ⟨gs, hgs⟩,
      (hfound gs hgs).2⟩
  · obtain ⟨-, pieces, hpieces, hregex⟩ := htranslated p hp
    exact ⟨p, pieces, hp, hpieces, hregex⟩
  · have hfault : compile "4!n0a70000c" =
        .error (.malformed ⟨"4!n0a70000c", some "group '0a' has a zero length"⟩) := by
      decide +kernel
    rcases (compile_iff_grammar hrange).2.2.2.2.2 _ hfault with ⟨hnone, -⟩ | hgroup
    · cases hnone
    · obtain ⟨front, g, back, reason, hgs, -, hreason, hsame⟩ := hgroup
      exact ⟨front, g, back, reason, hgs, hreason, hsame ▸ hfault⟩
  · have hfault : compile "4!x" = .error (.malformed ⟨"4!x", none⟩) := by decide +kernel
    rcases (compile_iff_grammar hletter).2.2.2.2.2 _ hfault with ⟨-, hnone⟩ | hgroup
    · exact hnone
    · obtain ⟨front, g, back, reason, -, -, -, hsame⟩ := hgroup
      cases hsame

end BankCodes.Pattern
