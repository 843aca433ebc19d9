import BankCodes.Proofs.CheckDigits.Issue
import BankCodes.Proofs.Pattern.Grammar
import BankCodes.Text.Pieces
import Mathlib.Data.List.DropRight

/-!
# Regular expressions read back

A pattern is written as a regular expression group by group, `[A-Z]{4}[A-Za-z0-9]{1,3}`. The texts
for two groups share characters, but there is one way to cut the whole into groups, and each of them
shows its class, its number and whether it is exact. What it does not show are the zeros that a
number begins with. So the pattern can be read back up to these zeros:

    ofRegex? r = some p ↔ p.regex = r ∧ p.plain = p

* `Plain.eq_numeral`: a number has one numeral without leading zeros;
* `regexFront_append_inj`: the text for a group shows its class and whether it is exact;
* `Group.ofRegex?_eq_some_iff`, `regexGroups?_eq_some_iff`: what is read is what was written;
* `regex_eq_iff_plain_eq`: two patterns with one regular expression differ in leading zeros only;
* `compile_append`: two expressions one behind the other keep their groups;
* `regex_eq_iff_alike`: all of this for compiled expressions.
-/

namespace BankCodes.Pattern

open Text CheckDigits

/-! ## Numerals without leading zeros -/

/-- Leading zeros add nothing. -/
theorem numeralValue_dropWhile_zero (digits : List Char) :
    numeralValue (digits.dropWhile (· == '0')) = numeralValue digits := by
  induction digits with
  | nil => rfl
  | cons d ds ih =>
    rw [List.dropWhile_cons]
    split
    · next h =>
      obtain rfl := eq_of_beq h
      exact ih
    · rfl

private theorem numeral_numeralValue_digit {d : Char} (hd : d.isDigit = true) :
    numeralValue [d] < 10 ∧ numeral (numeralValue [d]) = [d] :=
  forall_ascii (P := fun d => d.isDigit = true →
      numeralValue [d] < 10 ∧ numeral (numeralValue [d]) = [d])
    (by decide +kernel) (by have := isDigit_iff.1 hd; omega) hd

/-- There is one numeral of a number without leading zeros. -/
theorem Plain.eq_numeral {digits : List Char} {n : Nat} (h : Plain digits n) :
    digits = numeral n := by
  obtain ⟨hne, hdecimal, rfl, hleading⟩ := h
  induction digits using List.reverseRecOn with
  | nil => exact absurd rfl hne
  | append_singleton front d ih =>
    obtain ⟨hlt, hlast⟩ := numeral_numeralValue_digit (hdecimal d (by simp))
    rcases eq_or_ne front [] with rfl | hfront
    · exact hlast.symm
    · have hleading : front.head? ≠ some '0' := by
        rwa [List.head?_append_of_ne_nil _ hfront] at hleading
      have ih := ih hfront (fun c hc => hdecimal c (by simp [hc])) hleading
      -- a front of value zero would be the numeral of zero, which begins with a zero
      have hpos : 0 < numeralValue front := by
        refine Nat.pos_of_ne_zero fun hzero => hleading ?_
        rw [ih, hzero]
        rfl
      calc front ++ [d] = numeral (numeralValue front) ++ numeral (numeralValue [d]) := by
            rw [← ih, hlast]
        _ = numeral (10 * numeralValue front + numeralValue [d]) :=
            Nat.toDigits_append_toDigits (by decide) hpos hlt
        _ = numeral (numeralValue (front ++ [d])) := by
            rw [numeralValue_append, List.length_singleton, Nat.pow_one]

/-! ## Groups and patterns without leading zeros -/

/-- The group with its number written without leading zeros. -/
def Group.plain (g : Group) : Group := { g with numeral := g.numeral.dropWhile (· == '0') }

/-- Groups of the same class and number, exact both or neither of them. -/
structure Group.Alike (g g' : Group) : Prop where
  count : g.count = g'.count
  exact : g.exact = g'.exact
  kind : g.kind = g'.kind

@[simp] theorem Group.count_plain (g : Group) : g.plain.count = g.count :=
  numeralValue_dropWhile_zero g.numeral

theorem Group.plain_plain (g : Group) : g.plain.plain = g.plain := by
  rw [plain, plain, List.dropWhile_idempotent]

theorem Group.alike_plain (g : Group) : g.plain.Alike g := ⟨g.count_plain, rfl, rfl⟩

theorem Group.Alike.regex_eq {g g' : Group} (h : g.Alike g') : g.regex = g'.regex := by
  rw [Group.regex, Group.regex, h.count, h.exact, h.kind]

theorem Group.alike_of_plain_eq {g g' : Group} (h : g.plain = g'.plain) : g.Alike g' where
  count := by rw [← count_plain, h, count_plain]
  exact := by
    show g.plain.exact = g'.plain.exact
    rw [h]
  kind := by
    show g.plain.kind = g'.plain.kind
    rw [h]

/-- Without its leading zeros the number of a group that may be used is still a numeral. -/
theorem Group.plain_of_isValid {g : Group} (h : g.isValid = true) :
    Plain g.plain.numeral g.count where
  ne_nil := by
    obtain ⟨-, -, hpos, -⟩ := isValid_iff.1 h
    intro hnil
    have hzero : g.plain.count = 0 := by rw [count, hnil]; rfl
    rw [count_plain] at hzero
    omega
  decimal := fun d hd => (isValid_iff.1 h).1.2 d ((List.dropWhile_sublist _).subset hd)
  value := g.count_plain
  leading := by
    intro hhead
    have hnot := List.head?_dropWhile_not (· == '0') g.numeral
    rw [show g.numeral.dropWhile (· == '0') = g.plain.numeral from rfl, hhead] at hnot
    cases hnot

theorem Group.isValid_plain {g : Group} (h : g.isValid = true) : g.plain.isValid = true := by
  obtain ⟨-, hlen, hpos, hle⟩ := isValid_iff.1 h
  have hplain := plain_of_isValid h
  rw [isValid_iff, count_plain]
  have hlen := (List.dropWhile_sublist (p := (· == '0'))).length_le.trans hlen
  exact ⟨⟨hplain.ne_nil, hplain.decimal⟩, hlen, hpos, hle⟩

/-- The group may be used, and its number has no leading zeros. -/
structure Group.IsPlain (g : Group) : Prop where
  isValid : g.isValid = true
  plain_eq : g.plain = g

instance (g : Group) : Decidable g.IsPlain :=
  decidable_of_iff (g.isValid = true ∧ g.plain = g) ⟨fun h => ⟨h.1, h.2⟩, fun h => ⟨h.1, h.2⟩⟩

/-- The pattern with its numbers written without leading zeros. -/
def plain (p : Pattern) : Pattern where
  groups := p.groups.map Group.plain
  valid := by
    obtain ⟨hne, hvalid⟩ := wellFormed_iff.1 p.valid
    refine wellFormed_iff.2 ⟨by simpa using hne, ?_⟩
    rw [List.forall_mem_map]
    exact fun g hg => Group.isValid_plain (hvalid g hg)

/-! ## The text for a group -/

/-- What the regular expression of a group begins with: the class and the opening of the braces. -/
def regexFront (k : CharClass) (exact : Bool) : List Char :=
  k.regex ++ if exact then ['\x7b'] else ['\x7b', '1', ',']

/-- The regular expression of a group is its number between the front and the closing brace. -/
theorem Group.IsPlain.regex_eq {g : Group} (h : g.IsPlain) :
    g.regex = regexFront g.kind g.exact ++ (g.numeral ++ ['\x7d']) := by
  have hnumeral : g.numeral = Text.numeral g.count := by
    rw [← (plain_of_isValid h.isValid).eq_numeral, h.plain_eq]
  rw [Group.regex, ← hnumeral, regexFront, List.append_assoc _ g.numeral]

theorem CharClass.regex_append_inj {k k' : CharClass} {cs cs' : List Char}
    (h : k.regex ++ cs = k'.regex ++ cs') : k = k' ∧ cs = cs' := by
  cases k <;> cases k' <;> simp_all [regex]

/-- The front ends where the digits begin. -/
theorem regexFront_append_inj {k k' : CharClass} {exact exact' : Bool} {ds ds' : List Char}
    (hds : ∀ d ∈ ds, d.isDigit = true) (hds' : ∀ d ∈ ds', d.isDigit = true)
    (h : regexFront k exact ++ ds = regexFront k' exact' ++ ds') :
    k = k' ∧ exact = exact' ∧ ds = ds' := by
  rw [regexFront, regexFront, List.append_assoc, List.append_assoc] at h
  obtain ⟨rfl, hopening⟩ := CharClass.regex_append_inj h
  refine ⟨rfl, ?_⟩
  -- of two different openings the longer one goes on with a comma, which is no digit
  have hcomma : ∀ ds : List Char, (∀ d ∈ '1' :: ',' :: ds, d.isDigit = true) → False :=
    fun ds hds => absurd (hds ',' (by simp)) (by decide)
  cases exact <;> cases exact' <;> simp only [Bool.false_eq_true, if_false, if_true,
    List.cons_append, List.nil_append, List.cons.injEq, true_and] at hopening
  · exact ⟨rfl, hopening⟩
  · exact absurd (hopening ▸ hds') (hcomma _)
  · exact absurd (hopening ▸ hds) (hcomma _)
  · exact ⟨rfl, hopening⟩

/-- Groups without leading zeros are known by their regular expressions. -/
theorem Group.IsPlain.eq_of_regex_eq {g g' : Group} (hg : g.IsPlain) (hg' : g'.IsPlain)
    (h : g.regex = g'.regex) : g = g' := by
  have hds := (isValid_iff.1 hg.isValid).1.2
  have hds' := (isValid_iff.1 hg'.isValid).1.2
  rw [hg.regex_eq, hg'.regex_eq, ← List.append_assoc, ← List.append_assoc] at h
  obtain ⟨numeral, exact, k⟩ := g
  obtain ⟨numeral', exact', k'⟩ := g'
  obtain ⟨rfl, rfl, rfl⟩ := regexFront_append_inj hds hds' (List.append_cancel_right h)
  rfl

/-! ## Reading -/

/-- Reads the regular expression of a group of this class, exact or not. -/
def Group.behindFront? (k : CharClass) (exact : Bool) (cs : List Char) : Option Group := do
  let digits ← (← cs.dropPrefix? (regexFront k exact)).dropSuffix? ['\x7d']
  let g : Group := ⟨digits, exact, k⟩
  if g.IsPlain then some g else none

/-- The classes, each with both openings of the braces. -/
def fronts : List (CharClass × Bool) :=
  [.digit, .upper, .alphanumeric, .space].flatMap fun k => [(k, true), (k, false)]

/-- Reads the regular expression of a group. -/
def Group.ofRegex? (cs : List Char) : Option Group :=
  fronts.findSome? fun front => behindFront? front.1 front.2 cs

/-- Reads the regular expressions of groups. Each of them begins at a bracket. -/
def regexGroups? (cs : List Char) : Option (List Group) :=
  match pieces '[' cs with
  | ([], behind) => behind.mapM fun piece => Group.ofRegex? ('[' :: piece)
  | _ => none

/-- Reads the regular expression of a pattern. -/
def ofRegex? (r : String) : Option Pattern := do
  let gs ← regexGroups? r.toList
  if h : wellFormed gs = true then some ⟨gs, h⟩ else none

theorem mem_fronts (k : CharClass) (exact : Bool) : (k, exact) ∈ fronts := by
  cases k <;> cases exact <;> decide

theorem Group.behindFront?_eq_some_iff {k : CharClass} {exact : Bool} {cs : List Char} {g : Group} :
    behindFront? k exact cs = some g ↔
      (g.kind = k ∧ g.exact = exact) ∧ g.regex = cs ∧ g.IsPlain := by
  simp only [behindFront?, Option.bind_eq_bind, Option.bind_eq_some_iff,
    List.dropPrefix?_eq_some_iff, List.dropSuffix?_eq_some_iff, beq_iff_eq,
    Option.ite_none_right_eq_some, Option.some.injEq]
  constructor
  · rintro ⟨_, ⟨_, rfl, rfl⟩, digits, ⟨_, rfl, rfl⟩, hplain, rfl⟩
    exact ⟨⟨rfl, rfl⟩, hplain.regex_eq, hplain⟩
  · rintro ⟨⟨rfl, rfl⟩, rfl, hplain⟩
    exact ⟨_, ⟨_, hplain.regex_eq, rfl⟩, g.numeral, ⟨_, rfl, rfl⟩, hplain, rfl⟩

/-- The group that is read is the one without leading zeros that is written so. -/
theorem Group.ofRegex?_eq_some_iff {cs : List Char} {g : Group} :
    ofRegex? cs = some g ↔ g.regex = cs ∧ g.IsPlain := by
  constructor
  · intro h
    obtain ⟨_, -, hread⟩ := List.exists_of_findSome?_eq_some h
    exact (behindFront?_eq_some_iff.1 hread).2
  · rintro ⟨rfl, hplain⟩
    have hread := behindFront?_eq_some_iff.2 ⟨⟨rfl, rfl⟩, rfl, hplain⟩
    have hsome : (ofRegex? g.regex).isSome = true :=
      List.findSome?_isSome_iff.2 ⟨_, mem_fronts g.kind g.exact, by rw [hread]; rfl⟩
    -- whatever front is found first, the group behind it is written in the same way
    obtain ⟨g', hg'⟩ := Option.isSome_iff_exists.1 hsome
    obtain ⟨_, -, hread'⟩ := List.exists_of_findSome?_eq_some hg'
    obtain ⟨-, hregex, hplain'⟩ := behindFront?_eq_some_iff.1 hread'
    rw [hg', hplain'.eq_of_regex_eq hplain hregex]

theorem mapM_eq_some_iff {α β : Type} {f : α → Option β} {as : List α} {bs : List β} :
    as.mapM f = some bs ↔ List.Forall₂ (fun a b => f a = some b) as bs := by
  induction as generalizing bs with
  | nil => simp [eq_comm]
  | cons a as ih =>
    simp only [List.mapM_cons, Option.bind_eq_bind, Option.pure_def, Option.bind_eq_some_iff,
      Option.some.injEq, ih]
    constructor
    · rintro ⟨b, hb, bs, hbs, rfl⟩
      exact .cons hb hbs
    · rintro (_ | ⟨hb, hbs⟩)
      exact ⟨_, hb, _, hbs, rfl⟩

/-- The text for a group begins with a bracket. -/
theorem Group.cons_tail_regex (g : Group) : '[' :: g.regex.tail = g.regex := by
  obtain ⟨numeral, exact, k⟩ := g
  cases k <;> rfl

/-- There is no other bracket in it. -/
theorem Group.bracket_notMem_tail_regex (g : Group) : '[' ∉ g.regex.tail := by
  have hfront : ∀ k exact, '[' ∉ (regexFront k exact).tail := by
    intro k exact
    cases k <;> cases exact <;> decide
  have hne : regexFront g.kind g.exact ≠ [] := by
    rw [regexFront]
    cases g.kind <;> simp [CharClass.regex]
  have hregex : g.regex = regexFront g.kind g.exact ++ (Text.numeral g.count ++ ['\x7d']) := by
    rw [regex, regexFront, List.append_assoc _ (Text.numeral g.count)]
  rw [hregex, List.tail_append_of_ne_nil hne, List.mem_append, List.mem_append, List.mem_singleton]
  rintro (hmem | hmem | hmem)
  · exact hfront _ _ hmem
  · exact notMem_numeral rfl _ hmem
  · cases hmem

/-- Cut at brackets, the regular expression falls into those of its groups. -/
theorem pieces_flatMap_regex (gs : List Group) :
    pieces '[' (gs.flatMap Group.regex) = ([], gs.map fun g => g.regex.tail) := by
  have hjoined : gs.flatMap Group.regex = rejoined '[' (gs.map fun g => g.regex.tail) := by
    rw [rejoined, List.flatMap_map]
    simp only [Group.cons_tail_regex]
  rw [hjoined]
  apply pieces_append_rejoined (p := [])
  rw [List.forall_mem_cons, List.forall_mem_map]
  exact ⟨by simp, fun g _ => g.bracket_notMem_tail_regex⟩

/-- The groups that are read are those without leading zeros that are written so. -/
theorem regexGroups?_eq_some_iff {cs : List Char} {gs : List Group} :
    regexGroups? cs = some gs ↔ gs.flatMap Group.regex = cs ∧ ∀ g ∈ gs, g.IsPlain := by
  constructor
  · intro h
    unfold regexGroups? at h
    split at h
    · next behind hpieces =>
      rw [← append_rejoined_pieces '[' cs, hpieces, List.nil_append]
      have hread := mapM_eq_some_iff.1 h
      clear h hpieces
      -- group by group, each of them behind its bracket
      induction hread with
      | nil => exact ⟨rfl, by simp⟩
      | cons hg _ ih =>
        obtain ⟨hregex, hplain⟩ := Group.ofRegex?_eq_some_iff.1 hg
        refine ⟨?_, List.forall_mem_cons.2 ⟨hplain, ih.2⟩⟩
        rw [List.flatMap_cons, hregex, ih.1, rejoined, rejoined, List.flatMap_cons]
    · cases h
  · rintro ⟨rfl, hgs⟩
    unfold regexGroups?
    rw [pieces_flatMap_regex]
    refine mapM_eq_some_iff.2 (List.forall₂_map_left_iff.2 (List.forall₂_same.2 fun g hg => ?_))
    rw [Group.cons_tail_regex]
    exact Group.ofRegex?_eq_some_iff.2 ⟨rfl, hgs g hg⟩

/-! ## Patterns -/

@[simp] theorem groups_plain (p : Pattern) : p.plain.groups = p.groups.map Group.plain := rfl

theorem plain_eq_self_iff {p : Pattern} : p.plain = p ↔ ∀ g ∈ p.groups, g.plain = g := by
  obtain ⟨gs, hvalid⟩ := p
  calc (plain ⟨gs, hvalid⟩ = ⟨gs, hvalid⟩) ↔ gs.map Group.plain = gs.map id := by
        rw [plain, Pattern.mk.injEq, List.map_id]
    _ ↔ ∀ g ∈ gs, g.plain = g := List.map_inj_left

theorem plain_plain (p : Pattern) : p.plain.plain = p.plain := by
  rw [plain_eq_self_iff, groups_plain, List.forall_mem_map]
  exact fun g _ => g.plain_plain

@[simp] theorem regex_plain (p : Pattern) : p.plain.regex = p.regex := by
  rw [regex, regex, groups_plain, List.flatMap_map]
  simp only [(Group.alike_plain _).regex_eq]

/-- The pattern that is read is the one without leading zeros that is written so. -/
theorem ofRegex?_eq_some_iff {r : String} {p : Pattern} :
    ofRegex? r = some p ↔ p.regex = r ∧ p.plain = p := by
  simp only [ofRegex?, Option.bind_eq_bind, Option.bind_eq_some_iff, regexGroups?_eq_some_iff,
    Option.dite_none_right_eq_some, Option.some.injEq, plain_eq_self_iff]
  constructor
  · rintro ⟨gs, ⟨htext, hgs⟩, hwell, rfl⟩
    refine ⟨?_, fun g hg => (hgs g hg).plain_eq⟩
    rw [regex, htext, String.ofList_toList]
  · rintro ⟨rfl, hplain⟩
    have hvalid := (wellFormed_iff.1 p.valid).2
    exact ⟨p.groups, ⟨by rw [regex, String.toList_ofList], fun g hg => ⟨hvalid g hg, hplain g hg⟩⟩,
      p.valid, rfl⟩

/-- A number with a leading zero is not written in a regular expression. -/
example : ofRegex? "[0-9]\x7b04\x7d" = none := by decide +kernel

/-- The regular expression of a pattern is read back as the pattern without leading zeros. -/
theorem ofRegex?_regex (p : Pattern) : ofRegex? p.regex = some p.plain :=
  ofRegex?_eq_some_iff.2 ⟨regex_plain p, plain_plain p⟩

/-- Two patterns with one regular expression differ in leading zeros only. -/
theorem regex_eq_iff_plain_eq {p q : Pattern} : p.regex = q.regex ↔ p.plain = q.plain := by
  constructor
  · intro h
    apply Option.some.inj
    rw [← ofRegex?_regex, h, ofRegex?_regex]
  · intro h
    rw [← regex_plain, h, regex_plain]

/-- Without leading zeros groups are equal if they are alike, one by one. -/
theorem plain_eq_iff_forall₂_alike {p q : Pattern} :
    p.plain = q.plain ↔ List.Forall₂ Group.Alike p.groups q.groups := by
  constructor
  · intro h
    have hgroups : p.groups.map Group.plain = q.groups.map Group.plain := congrArg groups h
    rw [← List.forall₂_eq_eq_eq, List.forall₂_map_left_iff, List.forall₂_map_right_iff] at hgroups
    exact hgroups.imp fun g g' => Group.alike_of_plain_eq
  · -- groups that are alike are written in the same way
    intro h
    rw [← regex_eq_iff_plain_eq, regex, regex, List.flatMap_def, List.flatMap_def]
    have hpieces : p.groups.map Group.regex = q.groups.map Group.regex := by
      rw [← List.forall₂_eq_eq_eq, List.forall₂_map_left_iff, List.forall₂_map_right_iff]
      exact h.imp fun g g' => Group.Alike.regex_eq
    rw [hpieces]

/-! ## Patterns one behind the other -/

/-- The groups of one pattern and behind them those of another one. -/
def append (p q : Pattern) : Pattern where
  groups := p.groups ++ q.groups
  valid := by
    obtain ⟨hne, hp⟩ := wellFormed_iff.1 p.valid
    refine wellFormed_iff.2 ⟨by simp [hne], fun g hg => ?_⟩
    rcases List.mem_append.1 hg with hg | hg
    · exact hp g hg
    · exact (wellFormed_iff.1 q.valid).2 g hg

instance : Append Pattern := ⟨append⟩

@[simp] theorem groups_append (p q : Pattern) : (p ++ q).groups = p.groups ++ q.groups := rfl

theorem regex_append (p q : Pattern) : (p ++ q).regex = p.regex ++ q.regex := by
  rw [regex, regex, regex, groups_append, List.flatMap_append, String.ofList_append]

theorem expression_append (p q : Pattern) :
    (p ++ q).expression = p.expression ++ q.expression := by
  rw [expression, expression, expression, groups_append, List.flatMap_append, String.ofList_append]

/-- Two expressions one behind the other compile to the groups of both. -/
theorem compile_append {e₁ e₂ : String} {p q : Pattern} (hp : compile e₁ = .ok p)
    (hq : compile e₂ = .ok q) : compile (e₁ ++ e₂) = .ok (p ++ q) := by
  rw [compile_eq_ok_iff] at hp hq ⊢
  rw [expression_append, hp, hq]

/-! ## The translation -/

/-- Compiled expressions have the groups that they are composed of. Their regular expressions are
equal if and only if these groups are alike one by one, that is, if they are the same apart from
leading zeros. From a regular expression the groups are read back, without leading zeros. One behind
the other, the expressions compile to the groups of both, and their regular expressions stand one
behind the other too. -/
theorem regex_eq_iff_alike {e₁ e₂ : String} {p q : Pattern} (hp : compile e₁ = .ok p)
    (hq : compile e₂ = .ok q) :
    (Composed e₁ p.groups ∧ Composed e₂ q.groups) ∧
    (p.regex = q.regex ↔ List.Forall₂ Group.Alike p.groups q.groups) ∧
    (p.regex = q.regex ↔ p.groups.map Group.plain = q.groups.map Group.plain) ∧
    (ofRegex? p.regex).map groups = some (p.groups.map Group.plain) ∧
    ∃ pq, compile (e₁ ++ e₂) = .ok pq ∧ pq.groups = p.groups ++ q.groups ∧
      pq.regex = p.regex ++ q.regex := by
  refine ⟨⟨compile_eq_ok_iff_composed.1 hp, compile_eq_ok_iff_composed.1 hq⟩, ?_, ?_, ?_, ?_⟩
  · rw [regex_eq_iff_plain_eq, plain_eq_iff_forall₂_alike]
  · rw [regex_eq_iff_plain_eq, plain, plain, Pattern.mk.injEq]
  · rw [ofRegex?_regex]
    rfl
  · exact ⟨p ++ q, compile_append hp hq, groups_append p q, regex_append p q⟩

/-- Leading zeros are lost, but the comma is not: `15!n` is not `5n`. -/
theorem regex_eq_iff_alike_samples :
    (∃ p q, compile "04!n3c" = .ok p ∧ compile "4!n003c" = .ok q ∧ p.regex = q.regex ∧
      (ofRegex? p.regex).map groups = some [.exactly 4 .digit, .upTo 3 .alphanumeric]) ∧
    ∃ p q, compile "15!n" = .ok p ∧ compile "5n" = .ok q ∧ p.regex ≠ q.regex ∧
      ∃ pq, compile ("15!n" ++ "5n") = .ok pq ∧ pq.regex = p.regex ++ q.regex := by
  constructor
  · let p : Pattern := ⟨[⟨['0', '4'], true, .digit⟩, .upTo 3 .alphanumeric], by decide⟩
    let q : Pattern := ⟨[.exactly 4 .digit, ⟨['0', '0', '3'], false, .alphanumeric⟩], by decide⟩
    have hp : compile "04!n3c" = .ok p := compile_eq_ok_iff.2 (by decide)
    have hq : compile "4!n003c" = .ok q := compile_eq_ok_iff.2 (by decide)
    obtain ⟨-, halike, -, hread, -⟩ := regex_eq_iff_alike hp hq
    refine ⟨p, q, hp, hq, halike.2 ?_, ?_⟩
    · exact .cons ⟨rfl, rfl, rfl⟩ (.cons ⟨rfl, rfl, rfl⟩ .nil)
    · rw [hread]
      decide
  · let p : Pattern := ⟨[.exactly 15 .digit], by decide⟩
    let q : Pattern := ⟨[.upTo 5 .digit], by decide⟩
    have hp : compile "15!n" = .ok p := compile_eq_ok_iff.2 (by decide)
    have hq : compile "5n" = .ok q := compile_eq_ok_iff.2 (by decide)
    obtain ⟨-, halike, -, -, pq, hpq, -, hregex⟩ := regex_eq_iff_alike hp hq
    refine ⟨p, q, hp, hq, fun h => ?_, pq, hpq, hregex⟩
    obtain _ | ⟨h, -⟩ := halike.1 h
    cases h.exact

end BankCodes.Pattern
