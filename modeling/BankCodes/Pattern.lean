import BankCodes.Pattern.Language
import BankCodes.Text.Quoted

/-!
# Layout expressions

A layout expression is a run of groups, such as `4!n3c`, and describes the texts that its groups
spell.

* `compile` reads an expression, or says what is wrong with it;
* `Pattern.expression` writes it back;
* `Pattern.accepts` decides whether a text is spelled by the groups;
* `Pattern.regex` writes the pattern as a regular expression.

Nothing of an expression is lost in reading it:

    compile e = .ok p ↔ p.expression = e
-/

namespace BankCodes

/-- Whether a list of groups makes an expression. -/
def Pattern.wellFormed (gs : List Pattern.Group) : Bool :=
  !gs.isEmpty && gs.all Pattern.Group.isValid

/-- A compiled layout expression. -/
structure Pattern where
  groups : List Pattern.Group
  valid : Pattern.wellFormed groups = true
deriving DecidableEq

namespace Pattern

open Text

/-- The expression, as it was written. -/
def expression (p : Pattern) : String := String.ofList (p.groups.flatMap Group.text)

/-- The pattern as a regular expression, to be matched against a whole text. -/
def regex (p : Pattern) : String := String.ofList (p.groups.flatMap Group.regex)

/-- The length of every text of the language, if all groups are exact. -/
def fixedLength? (p : Pattern) : Option Nat :=
  if p.groups.all Group.exact then some (p.groups.foldr (fun g n => g.count + n) 0) else none

/-- The expression with its regular expression. -/
def label (p : Pattern) : String :=
  p.expression ++ "\x7bregex=" ++ p.regex ++ "\x7d"

/-- The pattern with the names of its parts. -/
def describe (p : Pattern) : String :=
  "SwiftPattern(expression=" ++ quoted p.expression ++ ", regex=" ++ quoted p.regex ++ ")"

instance : Repr Pattern := ⟨fun p _ => p.describe⟩

/-- Whether the whole text belongs to the language. -/
def accepts (p : Pattern) (s : String) : Bool := spellsChars p.groups s.toList

/-! ### Reading -/

/-- An expression that is not well-formed, with a reason if its groups could be told apart. -/
structure SyntaxError where
  expression : String
  reason : Option String
deriving DecidableEq, Repr

def SyntaxError.message (e : SyntaxError) : String :=
  let text := "'" ++ e.expression ++ "' is not a valid SWIFT expression"
  match e.reason with
  | none | some "" => text
  | some reason => text ++ ": " ++ reason

/-- Why an expression does not compile. -/
inductive Fault where
  | malformed (e : SyntaxError)
  /-- The numeral of a group has too many digits to be read at all. -/
  | tooManyDigits (digits : Nat)
deriving DecidableEq, Repr

def Fault.message : Fault → String
  | .malformed e => e.message
  | .tooManyDigits digits =>
    "Exceeds the limit (" ++ toString Group.digitLimit ++
      " digits) for integer string conversion: value has " ++ toString digits ++
      " digits; use sys.set_int_max_str_digits() to increase the limit"

/-- Reads groups; `pending` holds the digits already read of the next one, the last digit first. -/
def groupsFrom (pending : List Char) : List Char → Option (List Group)
  | [] => if pending.isEmpty then some [] else none
  | '!' :: c :: cs =>
    if pending.isEmpty then none
    else match CharClass.ofLetter? c with
      | none => none
      | some k => (groupsFrom [] cs).map (⟨pending.reverse, true, k⟩ :: ·)
  | c :: cs =>
    if c.isDigit then groupsFrom (c :: pending) cs
    else if pending.isEmpty then none
    else match CharClass.ofLetter? c with
      | none => none
      | some k => (groupsFrom [] cs).map (⟨pending.reverse, false, k⟩ :: ·)

/-- What is wrong with the number of a group in an expression, if anything is. -/
def Group.fault? (expression : String) (g : Group) : Option Fault :=
  let about (text : String) : Option Fault :=
    some (.malformed ⟨expression, some ("group '" ++ String.ofList g.text ++ "' " ++ text)⟩)
  if g.numeral.length > digitLimit then some (.tooManyDigits g.numeral.length)
  else if g.count = 0 then about "has a zero length"
  else if g.count > countLimit then about ("is longer than " ++ toString countLimit)
  else none

/-- Reads an expression. Of several wrong groups the leftmost is reported. -/
def compile (expression : String) : Except Fault Pattern :=
  match groupsFrom [] expression.toList with
  | none => .error (.malformed ⟨expression, none⟩)
  | some gs => match gs.findSome? (Group.fault? expression) with
    | some fault => .error fault
    | none => if h : wellFormed gs = true then .ok ⟨gs, h⟩ else .error (.malformed ⟨expression, none⟩)

/-! ### Reading and writing agree -/

theorem wellFormed_iff {gs : List Group} :
    wellFormed gs = true ↔ gs ≠ [] ∧ ∀ g ∈ gs, g.isValid = true := by
  simp [wellFormed]

/-- What is read is what the groups write. -/
theorem flatMap_text_of_groupsFrom {pending cs : List Char} {gs : List Group}
    (h : groupsFrom pending cs = some gs) : gs.flatMap Group.text = pending.reverse ++ cs := by
  fun_induction groupsFrom pending cs generalizing gs with
  | case1 pending hp =>
    cases h
    simp [List.isEmpty_iff.1 hp]
  | case2 => cases h
  | case3 => cases h
  | case4 => cases h
  | case5 pending c cs hp k hk ih =>
    obtain ⟨gs, hgs, rfl⟩ := Option.map_eq_some_iff.1 h
    simp [Group.text, ih hgs, CharClass.ofLetter?_eq_some_iff.1 hk]
  | case6 pending c cs _ hc ih => simp [ih h]
  | case7 => cases h
  | case8 => cases h
  | case9 pending c cs _ hc hp k hk ih =>
    obtain ⟨gs, hgs, rfl⟩ := Option.map_eq_some_iff.1 h
    simp [Group.text, ih hgs, CharClass.ofLetter?_eq_some_iff.1 hk]

private theorem groupsFrom_digits {ds : List Char} (hd : ∀ d ∈ ds, d.isDigit = true)
    (pending cs : List Char) :
    groupsFrom pending (ds ++ cs) = groupsFrom (ds.reverse ++ pending) cs := by
  induction ds generalizing pending with
  | nil => rfl
  | cons d ds ih =>
    have hd' : d.isDigit = true := hd d (by simp)
    have ne : d ≠ '!' := by
      rintro rfl
      cases hd'
    rw [List.cons_append, groupsFrom, if_pos hd', ih fun e he => hd e (by simp [he])]
    · simp
    · intro c rest h
      exact absurd h ne

private theorem groupsFrom_text {g : Group} (hg : g.numeral ≠ [] ∧ ∀ c ∈ g.numeral, c.isDigit = true)
    (cs : List Char) : groupsFrom [] (g.text ++ cs) = (groupsFrom [] cs).map (g :: ·) := by
  obtain ⟨numeral, exact, k⟩ := g
  have letter : CharClass.ofLetter? k.letter = some k := CharClass.ofLetter?_eq_some_iff.2 rfl
  have notDigit : k.letter.isDigit = false := by cases k <;> rfl
  have notMark : k.letter ≠ '!' := by cases k <;> decide
  have pending : (numeral.reverse ++ []).isEmpty = false := by simpa using hg.1
  rw [Group.text, List.append_assoc, groupsFrom_digits hg.2]
  cases exact with
  | true =>
    simp only [if_true, List.cons_append, List.nil_append, groupsFrom, pending, letter]
    simp
  | false =>
    simp only [Bool.false_eq_true, if_false, List.cons_append, List.nil_append]
    rw [groupsFrom]
    · simp [notDigit, letter]
      intro h
      exact absurd h hg.1
    · intro c rest h
      exact absurd h notMark

/-- Groups with numerals of digits are read back from what they write. -/
theorem groupsFrom_flatMap_text {gs : List Group}
    (h : ∀ g ∈ gs, g.numeral ≠ [] ∧ ∀ c ∈ g.numeral, c.isDigit = true) :
    groupsFrom [] (gs.flatMap Group.text) = some gs := by
  induction gs with
  | nil => rfl
  | cons g gs ih =>
    rw [List.flatMap_cons, groupsFrom_text (h g (by simp)), ih fun g' hg => h g' (by simp [hg])]
    rfl

private theorem fault?_eq_none {g : Group} (h : g.isValid = true) (expression : String) :
    g.fault? expression = none := by
  obtain ⟨-, h₁, h₂, h₃⟩ := Group.isValid_iff.1 h
  have h₄ : g.count ≠ 0 := by omega
  simp [Group.fault?, Nat.not_lt.2 h₁, Nat.not_lt.2 h₃, h₄]

/-- An expression compiles to the pattern that writes it, and to no other. -/
theorem compile_eq_ok_iff {expression : String} {p : Pattern} :
    compile expression = .ok p ↔ p.expression = expression := by
  constructor
  · intro h
    unfold compile at h
    split at h
    · cases h
    · next gs hgs =>
      split at h
      · cases h
      · split at h
        · cases h
          rw [Pattern.expression, flatMap_text_of_groupsFrom hgs]
          simp
        · cases h
  · rintro rfl
    have valid := (wellFormed_iff.1 p.valid).2
    have none : p.groups.findSome? (Group.fault? p.expression) = none :=
      List.findSome?_eq_none_iff.2 fun g hg => fault?_eq_none (valid g hg) _
    have numerals := fun g hg => (Group.isValid_iff.1 (valid g hg)).1
    unfold compile
    rw [Pattern.expression, String.toList_ofList, groupsFrom_flatMap_text numerals,
      ← Pattern.expression]
    simp only [none, p.valid, dif_pos]

/-- A pattern is known by its expression. -/
theorem ext_expression {p q : Pattern} (h : p.expression = q.expression) : p = q := by
  have := (compile_eq_ok_iff.2 h).symm.trans (compile_eq_ok_iff.2 rfl)
  exact (Except.ok.inj this)

end Pattern

end BankCodes
