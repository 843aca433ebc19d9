import BankCodes.Country
import BankCodes.Failure
import BankCodes.Text.Order

/-!
# Registries of layouts

A rule is the layout of one country. A registry holds at most one rule for each country, in the
order in which the countries first came in; a second rule for a country takes the place of the
first. `Registry.build` makes a registry from a table of codes and expressions, and fails at the
first entry that is not in order.
-/

namespace BankCodes

/-- The layout of the country-specific part of an identifier. -/
structure Rule where
  country : Country
  pattern : Pattern
deriving DecidableEq

namespace Rule

/-- The layout expression. -/
def expression (r : Rule) : String := r.pattern.expression

/-- The length of every body, if the layout fixes it. -/
def length? (r : Rule) : Option Nat := r.pattern.fixedLength?

/-- Whether a body follows the layout. -/
def accepts (r : Rule) (body : String) : Bool := r.pattern.accepts body

/-- The code of the country with the layout expression. -/
def label (r : Rule) : String := r.country.code ++ " (" ++ r.expression ++ ")"

/-- A rule is known by its label: the code comes first and has two letters. -/
theorem ext_label {r other : Rule} (h : r.label = other.label) : r = other := by
  rw [label, label, ← String.toList_inj] at h
  simp only [String.toList_append, Country.toList_code, List.append_assoc] at h
  obtain ⟨hcode, hbehind⟩ := List.append_inj h rfl
  have hexpression := List.append_cancel_right (List.append_cancel_left hbehind)
  have hcountry : r.country = other.country :=
    Country.ext_code (String.toList_inj.1 (by simpa only [Country.toList_code] using hcode))
  have hpattern : r.pattern = other.pattern :=
    Pattern.ext_expression (String.toList_inj.1 hexpression)
  cases r
  cases other
  congr

/-- The rule with the names of its parts. -/
def describe (r : Rule) : String :=
  "StructureRule(country=<IsoCountry." ++ r.country.code ++ ": " ++ Text.quoted r.country.name ++
    ">, pattern=" ++ r.pattern.describe ++ ")"

instance : Repr Rule := ⟨fun r _ => r.describe⟩

/-- Whether no two of the rules are for the same country. -/
def distinct : List Rule → Bool
  | [] => true
  | r :: rs => rs.all (fun s => s.country != r.country) && distinct rs

theorem nodup_of_distinct {rs : List Rule} (h : distinct rs = true) :
    (rs.map country).Nodup := by
  induction rs with
  | nil => exact .nil
  | cons r rs ih =>
    simp only [distinct, Bool.and_eq_true, List.all_eq_true, bne_iff_ne] at h
    rw [List.map_cons, List.nodup_cons]
    refine ⟨fun hm => ?_, ih h.2⟩
    obtain ⟨s, hs, e⟩ := List.mem_map.1 hm
    exact h.1 s hs e

/-- The rules with one more, in the place of the rule for its country if there is one. -/
def put (rule : Rule) : List Rule → List Rule
  | [] => [rule]
  | r :: rs => if r.country = rule.country then rule :: rs else r :: put rule rs

/-- A new rule brings in its country, and drops no other. -/
theorem mem_map_country_put {rule : Rule} {rs : List Rule} {c : Country} :
    c ∈ (put rule rs).map country ↔ c = rule.country ∨ c ∈ rs.map country := by
  induction rs with
  | nil => simp [put]
  | cons r rs ih =>
    unfold put
    split
    · next h => simp [h]
    · simp only [List.map_cons, List.mem_cons, ih]
      exact or_left_comm

theorem nodup_put {rule : Rule} {rs : List Rule} (h : (rs.map country).Nodup) :
    ((put rule rs).map country).Nodup := by
  induction rs with
  | nil => simp [put]
  | cons r rs ih =>
    rw [List.map_cons, List.nodup_cons] at h
    unfold put
    split
    · next hr => rw [List.map_cons, List.nodup_cons, ← hr]; exact h
    · next hr =>
      rw [List.map_cons, List.nodup_cons, mem_map_country_put]
      exact ⟨fun hm => hm.elim hr h.1, ih h.2⟩

end Rule

/-- A table of layouts for one kind of identifier, with one rule for each country. -/
structure Registry where
  kind : String
  rules : List Rule
  nodup : (rules.map Rule.country).Nodup

namespace Registry

/-- The registry without any rule. -/
def empty (kind : String) : Registry := ⟨kind, [], .nil⟩

/-- The registry with one more rule. -/
def insert (r : Registry) (rule : Rule) : Registry :=
  ⟨r.kind, rule.put r.rules, Rule.nodup_put r.nodup⟩

/-- The number of countries. -/
def size (r : Registry) : Nat := r.rules.length

/-- The rule for a country. -/
def lookup (r : Registry) (c : Country) : Option Rule := r.rules.find? (·.country = c)

/-- The rule for a code in any case, with or without spaces around it. -/
def lookupCode (r : Registry) (code : String) : Option Rule :=
  let cs := Text.upper (Text.strip code.toList)
  r.rules.find? (·.country.code.toList == cs)

/-- The codes of the countries, in ascending order. -/
def codes (r : Registry) : List String := Text.sorted (r.rules.map (·.country.code))

/-- The kind of the registry with its size. -/
def describe (r : Registry) : String :=
  "StructureRegistry(" ++ Text.quoted r.kind ++ ", " ++ toString r.size ++ " countries)"

/-- The rule that is found for a country is the one that the registry holds for it. -/
theorem lookup_eq_some_iff {r : Registry} {c : Country} {rule : Rule} :
    r.lookup c = some rule ↔ rule ∈ r.rules ∧ rule.country = c := by
  constructor
  · intro h
    exact ⟨List.mem_of_find?_eq_some h, by simpa using List.find?_some h⟩
  · rintro ⟨hm, rfl⟩
    obtain ⟨kind, rules, nodup⟩ := r
    show rules.find? (·.country = rule.country) = some rule
    induction rules with
    | nil => cases hm
    | cons first rest ih =>
      rw [List.map_cons, List.nodup_cons] at nodup
      rcases List.mem_cons.1 hm with rfl | hm
      · simp
      · have ne : first.country ≠ rule.country := fun e =>
          nodup.1 (e ▸ List.mem_map_of_mem hm)
        rw [List.find?_cons_of_neg (by simpa using ne)]
        exact ih nodup.2 hm

/-- A registry holds one rule for a country. -/
theorem eq_of_country_eq {r : Registry} {rule other : Rule} (h₁ : rule ∈ r.rules)
    (h₂ : other ∈ r.rules) (h : other.country = rule.country) : other = rule := by
  have hrule := lookup_eq_some_iff.2 ⟨h₁, rfl⟩
  have hother := lookup_eq_some_iff.2 ⟨h₂, h⟩
  exact Option.some.inj (hother.symm.trans hrule)

/-- No rule is found for a country if the registry holds none. -/
theorem lookup_eq_none_iff {r : Registry} {c : Country} :
    r.lookup c = none ↔ ∀ rule ∈ r.rules, rule.country ≠ c := by
  simp [lookup]

/-! ### Building a registry -/

/-- A table of layouts as it is written: country codes with layout expressions. -/
abbrev Table := List (String × String)

/-- The rule of one entry. The code is looked at before the expression. -/
def readEntry (entry : String × String) : Except Failure Rule :=
  match Country.ofCode? entry.1 with
  | none => .error (.notCountryCode entry.1)
  | some country => match Pattern.compile entry.2 with
    | .error fault => .error (.pattern fault)
    | .ok pattern => .ok ⟨country, pattern⟩

/-- The rules of the entries before the first wrong one, and its failure if there is one. -/
def readTable : Table → List Rule × Option Failure
  | [] => ([], none)
  | entry :: table => match readEntry entry with
    | .error failure => ([], some failure)
    | .ok rule =>
      let (rules, failure) := readTable table
      (rule :: rules, failure)

/-- The registry of the rules, a later one of a country replacing an earlier one. -/
def ofRules (kind : String) (rules : List Rule) : Registry := rules.foldl insert (empty kind)

/-- The registry of a table, or the failure of its first wrong entry. -/
def build (kind : String) (table : Table) : Except Failure Registry :=
  match readTable table with
  | (_, some failure) => .error failure
  | (rules, none) => .ok (ofRules kind rules)

end Registry

end BankCodes
