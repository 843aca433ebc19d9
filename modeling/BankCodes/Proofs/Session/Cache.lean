import BankCodes.Proofs.Scan.Order
import BankCodes.Session.Cache
import Mathlib.Data.List.Forall2

/-!
# The cache over many expressions

The cache only grows, and a pattern keeps its number for good. What is compiled makes those patterns
that are not there yet, each at its first place, and these are what is told.

* `take_eq` and `takeAll_eq`: what one pattern and many of them do to a cache, and their numbers;
* `fresh_append` and `grow_append`: patterns after each other;
* `number?_grow` and `number?_inj`: numbers are stable, and tell patterns apart;
* `filterMap_tried`: the expressions of a table that are compiled.
-/

namespace BankCodes

/-- The pattern that an expression compiles to, if it does. -/
def Pattern.ofExpression? (expression : String) : Option Pattern :=
  (Pattern.compile expression).toOption

theorem Pattern.ofExpression?_eq_some_iff {expression : String} {p : Pattern} :
    Pattern.ofExpression? expression = some p ↔ p.expression = expression := by
  rw [← compile_eq_ok_iff, ofExpression?]
  cases compile expression with
  | error fault => exact ⟨nofun, nofun⟩
  | ok q => exact ⟨fun h => congrArg _ (Option.some.inj h), fun h => congrArg _ (Except.ok.inj h)⟩

/-! ## Tables -/

namespace Registry

/-- The expressions of a table that are compiled: that of each entry up to the first wrong one. If
its code is wrong, its own expression is not looked at. -/
def tried : Table → List String
  | [] => []
  | (code, expression) :: table => match Country.ofCode? code with
    | none => []
    | some _ => match Pattern.compile expression with
      | .error _ => [expression]
      | .ok _ => expression :: tried table

/-- The layouts of a table are those of the expressions that compile. -/
theorem filterMap_tried (table : Table) :
    (tried table).filterMap Pattern.ofExpression? = (readTable table).1.map Rule.pattern := by
  induction table with
  | nil => rfl
  | cons entry table ih =>
    obtain ⟨code, expression⟩ := entry
    unfold tried readTable readEntry
    cases Country.ofCode? code with
    | none => rfl
    | some country =>
      cases hcompile : Pattern.compile expression with
      | error fault => simp [Pattern.ofExpression?, hcompile, Except.toOption]
      | ok p => simp [Pattern.ofExpression?, hcompile, Except.toOption, ih]

/-- What stands behind a wrong entry is not read. -/
theorem readTable_append_wrong {entry : String × String} {failure : Failure}
    (h : readEntry entry = .error failure) (front back : Table) :
    readTable (front ++ entry :: back) = readTable (front ++ [entry]) := by
  induction front with
  | nil => simp only [List.nil_append, readTable, h]
  | cons first front ih => simp only [List.cons_append, readTable, ih]

theorem mem_of_mem_put {rule other : Rule} {rules : List Rule} (h : other ∈ rule.put rules) :
    other = rule ∨ other ∈ rules := by
  induction rules with
  | nil => exact .inl (List.mem_singleton.1 h)
  | cons first rules ih =>
    unfold Rule.put at h
    split at h
    · rcases List.mem_cons.1 h with rfl | h
      · exact .inl rfl
      · exact .inr (List.mem_cons_of_mem _ h)
    · rcases List.mem_cons.1 h with rfl | h
      · exact .inr List.mem_cons_self
      · exact (ih h).imp_right (List.mem_cons_of_mem _)

theorem mem_of_mem_foldl_insert {registry : Registry} {rules : List Rule} {rule : Rule}
    (h : rule ∈ (rules.foldl insert registry).rules) : rule ∈ registry.rules ∨ rule ∈ rules := by
  induction rules generalizing registry with
  | nil => exact .inl h
  | cons first rules ih =>
    rcases ih h with hmem | hmem
    · rcases mem_of_mem_put hmem with rfl | hmem
      · exact .inr List.mem_cons_self
      · exact .inl hmem
    · exact .inr (List.mem_cons_of_mem _ hmem)

/-- The layouts in a registry are of expressions in its table. -/
theorem expression_mem_tried {kind : String} {table : Table} {registry : Registry}
    (h : build kind table = .ok registry) :
    ∀ rule ∈ registry.rules, rule.expression ∈ tried table := by
  unfold build at h
  split at h
  · cases h
  · next rules hread =>
    cases h
    intro rule hrule
    have hrules : rule ∈ (readTable table).1 := by
      rw [hread]
      exact (mem_of_mem_foldl_insert hrule).resolve_left List.not_mem_nil
    have hpattern : rule.pattern ∈ (tried table).filterMap Pattern.ofExpression? := by
      rw [filterMap_tried]
      exact List.mem_map_of_mem hrules
    obtain ⟨expression, htried, hof⟩ := List.mem_filterMap.1 hpattern
    show rule.pattern.expression ∈ tried table
    rw [Pattern.ofExpression?_eq_some_iff.1 hof]
    exact htried

end Registry

/-! ## The cache -/

namespace Session.Cache

/-- The patterns of a list that the cache does not hold yet, each at its first place. -/
def fresh (c : Cache) (ps : List Pattern) : List Pattern := (ps.removeAll c.patterns).eraseDups

/-- The cache once all patterns of a list have been made. -/
def grow (c : Cache) (ps : List Pattern) : Cache := ⟨c.patterns ++ c.fresh ps⟩

variable {c : Cache} {p q : Pattern}

@[simp] theorem fresh_nil : c.fresh [] = [] := by simp [fresh]

@[simp] theorem grow_nil : c.grow [] = c := by simp [grow]

theorem mem_fresh {ps : List Pattern} : p ∈ c.fresh ps ↔ p ∈ ps ∧ p ∉ c.patterns := by
  simp [fresh, List.removeAll]

theorem mem_grow {ps : List Pattern} : p ∈ (c.grow ps).patterns ↔ p ∈ c.patterns ∨ p ∈ ps := by
  rw [grow, List.mem_append, mem_fresh]
  grind

/-- Of patterns after each other, the later ones are new if they are to the cache by then. -/
theorem fresh_append (ps qs : List Pattern) :
    c.fresh (ps ++ qs) = c.fresh ps ++ (c.grow ps).fresh qs := by
  have hfront : (ps ++ qs).removeAll c.patterns =
      ps.removeAll c.patterns ++ qs.removeAll c.patterns := List.filter_append ..
  -- new to what is new in front and to the old cache: that is, to the cache by then
  have hback : (qs.removeAll c.patterns).removeAll (ps.removeAll c.patterns) =
      qs.removeAll (c.grow ps).patterns := by
    simp only [List.removeAll, List.filter_filter]
    apply List.filter_congr
    intro p _
    have hgrow : p ∈ (c.grow ps).patterns ↔ p ∈ c.patterns ∨ p ∈ ps := mem_grow
    grind [List.elem_eq_mem]
  rw [fresh, hfront, List.eraseDups_append, hback]
  rfl

theorem grow_append (ps qs : List Pattern) : c.grow (ps ++ qs) = (c.grow ps).grow qs := by
  simp only [grow, fresh_append, List.append_assoc]

theorem fresh_of_mem (h : p ∈ c.patterns) : c.fresh [p] = [] := by
  simp [fresh, List.cons_removeAll, h]

theorem fresh_of_not_mem (h : p ∉ c.patterns) : c.fresh [p] = [p] := by
  simp [fresh, List.cons_removeAll, List.eraseDups_cons, h]

/-- A pattern keeps its number. -/
theorem number?_grow {n : Nat} (h : c.number? p = some n) (ps : List Pattern) :
    (c.grow ps).number? p = some n := by
  unfold number? grow List.idxOf? at *
  rw [List.findIdx?_append, h]
  rfl

/-- Different patterns have different numbers. -/
theorem number?_inj {n : Nat} (hp : c.number? p = some n) (hq : c.number? q = some n) : p = q := by
  obtain ⟨hn, rfl, -⟩ := List.idxOf?_eq_some_iff.1 hp
  obtain ⟨_, hq', -⟩ := List.idxOf?_eq_some_iff.1 hq
  exact hq'

theorem exists_number?_of_mem (h : p ∈ c.patterns) : ∃ n, c.number? p = some n :=
  Option.isSome_iff_exists.1 (List.isSome_idxOf?.2 h)

/-- Making a pattern adds it if it is new, and tells it then. -/
theorem take_eq (c : Cache) (p : Pattern) :
    ∃ n, c.take p = (c.grow [p], n, (c.fresh [p]).map .compiled) ∧
      (c.grow [p]).number? p = some n := by
  by_cases h : p ∈ c.patterns
  · obtain ⟨n, hn⟩ := exists_number?_of_mem h
    refine ⟨n, ?_, number?_grow hn [p]⟩
    simp [take, hn, grow, fresh_of_mem h]
  · have hnone : c.number? p = none := List.idxOf?_eq_none_iff.2 h
    refine ⟨c.patterns.length, ?_, ?_⟩
    · simp [take, hnone, grow, fresh_of_not_mem h]
    · unfold number? grow List.idxOf? at *
      rw [fresh_of_not_mem h, List.findIdx?_append, hnone]
      simp

/-- Making patterns one after the other adds those that are new. Each has got the number that it has
from then on. -/
theorem takeAll_eq (c : Cache) (ps : List Pattern) :
    ∃ ns, c.takeAll ps = (c.grow ps, ns, (c.fresh ps).map .compiled) ∧
      List.Forall₂ (fun p n => (c.grow ps).number? p = some n) ps ns := by
  induction ps generalizing c with
  | nil => exact ⟨[], by simp [takeAll], .nil⟩
  | cons p ps ih =>
    obtain ⟨n, htake, hn⟩ := c.take_eq p
    obtain ⟨ns, htakeAll, hns⟩ := ih (c.grow [p])
    have hfresh : c.fresh (p :: ps) = c.fresh [p] ++ (c.grow [p]).fresh ps := fresh_append [p] ps
    have hgrow : c.grow (p :: ps) = (c.grow [p]).grow ps := grow_append [p] ps
    refine ⟨n :: ns, ?_, ?_⟩
    · simp only [takeAll, htake, htakeAll, hfresh, hgrow, List.map_append]
    · rw [hgrow]
      exact .cons (number?_grow hn ps) hns

/-- Building a registry makes the patterns of the expressions in its table that compile. -/
theorem build_eq (c : Cache) (kind : String) (table : Registry.Table) :
    c.build kind table =
      (c.grow ((Registry.tried table).filterMap Pattern.ofExpression?),
        (c.fresh ((Registry.tried table).filterMap Pattern.ofExpression?)).map .compiled,
        Registry.build kind table) := by
  rw [Registry.filterMap_tried]
  obtain ⟨ns, htakeAll, -⟩ := c.takeAll_eq ((Registry.readTable table).1.map Rule.pattern)
  simp only [build, htakeAll]

end Session.Cache

end BankCodes
