import BankCodes.CountryArgument
import BankCodes.Proofs.Examination
import BankCodes.Proofs.Registry.Build
import Mathlib.Data.Finset.Dedup
import Mathlib.Data.List.Induction

/-!
# What a registry of a table holds

The codes of a table may differ and still name one country, since case and surrounding spaces do not
count. The rules are taken in from the first entry to the last: a rule for a new country goes behind
the others, and one for a country that is there replaces the rule in its place.

* `lookup_insert` and `map_country_insert`: what one more rule does;
* `lookup_ofRules` and `map_country_ofRules`: what a list of rules comes to, the last rule of each
  country in the place of the first;
* `build_eq_ok_iff`: which tables make a registry, and of which rules;
* `built_iff_in_order`: all of this for the entries of a table.
-/

namespace BankCodes

open Pattern Text

/-! ## One more rule -/

namespace Rule

/-- A rule for another country leaves the rule of a country as it is. -/
theorem find?_put (rule : Rule) (rs : List Rule) (c : Country) :
    (put rule rs).find? (·.country = c) =
      if rule.country = c then some rule else rs.find? (·.country = c) := by
  induction rs with
  | nil => by_cases h : rule.country = c <;> simp [put, h]
  | cons r rs ih =>
    unfold put
    split
    · next hr => by_cases h : rule.country = c <;> simp [h, hr]
    · next hr =>
      rw [List.find?_cons, List.find?_cons, ih]
      by_cases h : rule.country = c
      · have hne : r.country ≠ c := fun hc => hr (hc.trans h.symm)
        simp [h, hne]
      · simp [h]

/-- A new country comes last, and one that is there stays in its place. -/
theorem map_country_put (rule : Rule) (rs : List Rule) :
    (put rule rs).map country =
      if rule.country ∈ rs.map country then rs.map country
      else rs.map country ++ [rule.country] := by
  induction rs with
  | nil => rfl
  | cons r rs ih =>
    unfold put
    split
    · next hr => simp [hr]
    · next hr =>
      have hne : rule.country ≠ r.country := fun h => hr h.symm
      rw [List.map_cons, ih]
      simp only [List.map_cons, List.mem_cons, hne, false_or]
      split <;> rfl

end Rule

namespace Registry

theorem lookup_insert (r : Registry) (rule : Rule) (c : Country) :
    (r.insert rule).lookup c = if rule.country = c then some rule else r.lookup c :=
  Rule.find?_put rule r.rules c

theorem map_country_insert (r : Registry) (rule : Rule) :
    (r.insert rule).rules.map Rule.country =
      if rule.country ∈ r.rules.map Rule.country then r.rules.map Rule.country
      else r.rules.map Rule.country ++ [rule.country] :=
  Rule.map_country_put rule r.rules

/-! ## A list of rules -/

theorem ofRules_concat (kind : String) (rules : List Rule) (rule : Rule) :
    ofRules kind (rules ++ [rule]) = (ofRules kind rules).insert rule := by
  rw [ofRules, List.foldl_concat, ofRules]

theorem kind_ofRules (kind : String) (rules : List Rule) : (ofRules kind rules).kind = kind := by
  induction rules using List.reverseRecOn with
  | nil => rfl
  | append_singleton rules rule ih =>
    rw [ofRules_concat]
    exact ih

/-- The rule of a country is the last one for it. -/
theorem lookup_ofRules (kind : String) (rules : List Rule) (c : Country) :
    (ofRules kind rules).lookup c = rules.reverse.find? (·.country = c) := by
  induction rules using List.reverseRecOn with
  | nil => rfl
  | append_singleton rules rule ih =>
    rw [ofRules_concat, lookup_insert, ih, List.reverse_concat, List.find?_cons]
    by_cases h : rule.country = c <;> simp [h]

/-- The countries come in the order of their first rules, each of them once. -/
theorem map_country_ofRules (kind : String) (rules : List Rule) :
    (ofRules kind rules).rules.map Rule.country = (rules.map Rule.country).eraseDups := by
  induction rules using List.reverseRecOn with
  | nil => rfl
  | append_singleton rules rule ih =>
    rw [ofRules_concat, map_country_insert, ih, List.map_append, List.eraseDups_append]
    by_cases h : rule.country ∈ rules.map Rule.country
    · rw [if_pos (List.mem_eraseDups.2 h)]
      simp [List.removeAll, List.mem_map.1 h]
    · rw [if_neg (mt List.mem_eraseDups.1 h)]
      have hnew : [rule.country].removeAll (rules.map Rule.country) = [rule.country] := by
        simpa [List.removeAll] using h
      rw [List.map_singleton, hnew]
      rfl

/-- The last of the rules for a country is the one behind which there is no other. -/
theorem find?_reverse_eq_some_iff {rules : List Rule} {country : Country} {rule : Rule} :
    rules.reverse.find? (·.country = country) = some rule ↔
      rule.country = country ∧ ∃ before after, rules = before ++ rule :: after ∧
        country ∉ after.map Rule.country := by
  rw [List.find?_eq_some_iff_append]
  constructor
  · rintro ⟨hcountry, after, before, hcut, hafter⟩
    refine ⟨by simpa using hcountry, before.reverse, after.reverse, ?_, by simpa using hafter⟩
    rw [← List.reverse_reverse rules, hcut]
    simp
  · rintro ⟨hcountry, before, after, rfl, hafter⟩
    refine ⟨by simpa using hcountry, after.reverse, before.reverse, by simp, ?_⟩
    simpa using hafter

/-! ## The entries of a table -/

/-- The entry is one for the country. -/
def EntryFor (country : Country) (entry : String × String) : Prop :=
  Country.ofCode? entry.1 = some country

/-- The code of the entry is that of a country, and its expression compiles. -/
def EntryInOrder (entry : String × String) : Prop :=
  (∃ country, EntryFor country entry) ∧ ∃ p, compile entry.2 = .ok p

/-- The countries that a table names, from its first entry to the last. -/
def named (table : Table) : List Country := table.filterMap fun entry => Country.ofCode? entry.1

theorem mem_named_iff {country : Country} {table : Table} :
    country ∈ named table ↔ ∃ entry ∈ table, EntryFor country entry :=
  List.mem_filterMap

theorem readEntry_eq_ok_iff {entry : String × String} {rule : Rule} :
    readEntry entry = .ok rule ↔
      EntryFor rule.country entry ∧ compile entry.2 = .ok rule.pattern := by
  obtain ⟨country, p⟩ := rule
  unfold readEntry EntryFor
  cases Country.ofCode? entry.1 with
  | none => simp
  | some found =>
    cases compile entry.2 with
    | error fault => simp
    | ok q => simp

theorem entryInOrder_iff {entry : String × String} :
    EntryInOrder entry ↔ ∃ rule, readEntry entry = .ok rule := by
  simp only [readEntry_eq_ok_iff]
  constructor
  · rintro ⟨⟨country, hcountry⟩, p, hp⟩
    exact ⟨⟨country, p⟩, hcountry, hp⟩
  · rintro ⟨rule, hcountry, hp⟩
    exact ⟨⟨_, hcountry⟩, _, hp⟩

/-- A table is read to the end if each of its entries is read, and to their rules. -/
theorem readTable_eq_iff {table : Table} {rules : List Rule} :
    readTable table = (rules, none) ↔ table.map readEntry = rules.map .ok := by
  induction table generalizing rules with
  | nil => cases rules <;> simp [readTable]
  | cons entry table ih =>
    unfold readTable
    cases hentry : readEntry entry with
    | error failure => cases rules <;> simp [hentry]
    | ok rule =>
      cases rules with
      | nil => simp
      | cons first rules =>
        simp only [List.map_cons, hentry, List.cons.injEq, Except.ok.injEq, ← ih]
        simp [Prod.ext_iff, and_assoc]

theorem build_eq_ok_iff {kind : String} {table : Table} {r : Registry} :
    build kind table = .ok r ↔
      ∃ rules : List Rule, table.map readEntry = rules.map .ok ∧ r = ofRules kind rules := by
  simp only [← readTable_eq_iff]
  unfold build
  split
  · next h => simp [h]
  · next h => simp [h, eq_comm]

/-- The entries of a table that is read to the end are in order. -/
theorem forall_entryInOrder_iff {table : Table} :
    (∀ entry ∈ table, EntryInOrder entry) ↔
      ∃ rules : List Rule, table.map readEntry = rules.map .ok := by
  simp only [entryInOrder_iff]
  induction table with
  | nil => exact iff_of_true (by simp) ⟨[], rfl⟩
  | cons entry table ih =>
    rw [List.forall_mem_cons, ih]
    constructor
    · rintro ⟨⟨rule, hrule⟩, rules, hrules⟩
      exact ⟨rule :: rules, by rw [List.map_cons, List.map_cons, hrule, hrules]⟩
    · rintro ⟨_ | ⟨rule, rules⟩, hrules⟩
      · cases hrules
      · obtain ⟨hrule, hrules⟩ := List.cons.inj hrules
        exact ⟨⟨rule, hrule⟩, rules, hrules⟩

section Read

variable {table : Table} {rules : List Rule} (hread : table.map readEntry = rules.map .ok)
include hread

/-- The countries of the rules are those that the table names. -/
theorem map_country_eq_named : rules.map Rule.country = named table := by
  induction table generalizing rules with
  | nil =>
    cases rules with
    | nil => rfl
    | cons => cases hread
  | cons entry table ih =>
    cases rules with
    | nil => cases hread
    | cons rule rules =>
      obtain ⟨hrule, hrules⟩ := List.cons.inj hread
      have hcountry : Country.ofCode? entry.1 = some rule.country := (readEntry_eq_ok_iff.1 hrule).1
      simp [named, hcountry, ih hrules]

/-- The last rule for a country is that of the last entry for it. -/
theorem find?_reverse_eq_some_iff_entry {country : Country} {rule : Rule} :
    rules.reverse.find? (·.country = country) = some rule ↔
      rule.country = country ∧ ∃ front entry back, table = front ++ entry :: back ∧
        readEntry entry = .ok rule ∧ country ∉ named back := by
  rw [find?_reverse_eq_some_iff]
  apply and_congr_right
  intro _
  constructor
  · rintro ⟨before, after, rfl, hafter⟩
    rw [List.map_append, List.map_cons, List.map_eq_append_iff] at hread
    obtain ⟨front, rest, rfl, -, hrest⟩ := hread
    obtain ⟨entry, back, rfl, hentry, hback⟩ := List.map_eq_cons_iff.1 hrest
    exact ⟨front, entry, back, rfl, hentry, map_country_eq_named hback ▸ hafter⟩
  · rintro ⟨front, entry, back, rfl, hentry, hback⟩
    rw [List.map_append, List.map_cons, eq_comm, List.map_eq_append_iff] at hread
    obtain ⟨before, rest, rfl, -, hrest⟩ := hread
    obtain ⟨first, after, rfl, hfirst, hafter⟩ := List.map_eq_cons_iff.1 hrest
    obtain rfl : first = rule := Except.ok.inj (hfirst.trans hentry)
    exact ⟨before, after, rfl, map_country_eq_named hafter.symm ▸ hback⟩

end Read

/-- What is wrong with an entry. The code is looked at before the expression. -/
def WrongEntry (code expression : String) (failure : Failure) : Prop :=
  (Country.ofCode? code = none ∧ failure = .notCountryCode code) ∨
    ∃ country fault, Country.ofCode? code = some country ∧ compile expression = .error fault ∧
      failure = .pattern fault

theorem readEntry_eq_error_iff_wrong {code expression : String} {failure : Failure} :
    readEntry (code, expression) = .error failure ↔ WrongEntry code expression failure := by
  unfold readEntry WrongEntry
  cases Country.ofCode? code with
  | none => simp [eq_comm]
  | some country => cases compile expression <;> simp [eq_comm]

/-! ## Codes -/

/-- A code is looked up as the country that it names. -/
theorem lookupCode_eq (r : Registry) (code : String) :
    r.lookupCode code = (Country.ofCode? code).bind r.lookup := by
  unfold lookupCode Country.ofCode?
  generalize upper (strip code.toList) = cs
  cases hcs : Country.ofChars? cs with
  | none =>
    apply List.find?_eq_none.2
    intro rule _
    rw [beq_iff_eq]
    exact Country.ofChars?_eq_none_iff.1 hcs rule.country
  | some country =>
    have hcode : cs = country.code.toList := by
      rw [Country.toList_code, Country.ofChars?_eq_some_iff.1 hcs]
    have hsame : ∀ rule : Rule,
        (rule.country.code.toList == cs) = decide (rule.country = country) := by
      intro rule
      rw [Bool.eq_iff_iff, beq_iff_eq, decide_eq_true_eq, hcode, String.toList_inj]
      exact ⟨Country.ext_code, congrArg Country.code⟩
    simp only [hsame]
    rfl

theorem mem_codes_iff {r : Registry} {code : String} :
    code ∈ r.codes ↔ ∃ country ∈ r.rules.map Rule.country, country.code = code := by
  rw [codes, (sorted_perm _).mem_iff]
  simp

/-- The codes of the countries are in ascending order, and none is there twice. -/
theorem pairwise_codes (r : Registry) : r.codes.Pairwise (· < ·) := by
  apply pairwise_sorted
  have hcodes : (r.rules.map Rule.country).map Country.code = r.rules.map (·.country.code) := by
    rw [List.map_map]
    rfl
  rw [← hcodes]
  exact r.nodup.map fun _ _ => Country.ext_code

/-! ## Registries of tables -/

/-- What a registry holds of a table. For each country that the table names it is the rule of the
last entry for it; the countries come in the order of their first entries. A code is looked up as
the country that it names, and is in the registry if there is a rule then. -/
structure Holds (table : Table) (r : Registry) : Prop where
  lookup_eq_some_iff : ∀ country rule, r.lookup country = some rule ↔
    ∃ front entry back, table = front ++ entry :: back ∧ EntryFor country entry ∧
      rule.country = country ∧ compile entry.2 = .ok rule.pattern ∧
      ∀ other ∈ back, ¬ EntryFor country other
  lookup_eq_none_iff : ∀ country, r.lookup country = none ↔
    ∀ entry ∈ table, ¬ EntryFor country entry
  countries : r.rules.map Rule.country = (named table).eraseDups
  lookup_country : ∀ rule ∈ r.rules, r.lookup rule.country = some rule
  size_eq : r.size = (named table).toFinset.card
  codes_ascending : r.codes.Pairwise (· < ·)
  mem_codes : ∀ code, code ∈ r.codes ↔ ∃ country ∈ named table, country.code = code
  lookup_code : ∀ code, r.lookupArgument (.code code) =
    r.lookupArgument ((Country.ofCode? code).elim .absent .member)
  contains_code : ∀ code, r.contains (.code code) = true ↔ r.lookupArgument (.code code) ≠ none

theorem holds_of_map_readEntry {table : Table} {rules : List Rule}
    (hread : table.map readEntry = rules.map .ok) (kind : String) :
    Holds table (ofRules kind rules) := by
  have hcountries := map_country_ofRules kind rules
  rw [map_country_eq_named hread] at hcountries
  have hnamed : ∀ country, country ∈ (ofRules kind rules).rules.map Rule.country ↔
      country ∈ named table := by
    intro country
    rw [hcountries, List.mem_eraseDups]
  refine ⟨?_, ?_, hcountries, ?_, ?_, pairwise_codes _, ?_, ?_, ?_⟩
  · intro country rule
    rw [lookup_ofRules, find?_reverse_eq_some_iff_entry hread]
    simp only [readEntry_eq_ok_iff, mem_named_iff, not_exists, not_and]
    constructor
    · rintro ⟨rfl, front, entry, back, hcut, ⟨hentry, hcompile⟩, hback⟩
      exact ⟨front, entry, back, hcut, hentry, rfl, hcompile, hback⟩
    · rintro ⟨front, entry, back, hcut, hentry, rfl, hcompile, hback⟩
      exact ⟨rfl, front, entry, back, hcut, ⟨hentry, hcompile⟩, hback⟩
  · intro country
    have hnone := not_congr (hnamed country)
    simp only [mem_named_iff, List.mem_map, not_exists, not_and] at hnone
    rw [Registry.lookup_eq_none_iff, hnone]
  · intro rule hrule
    exact Registry.lookup_eq_some_iff.2 ⟨hrule, rfl⟩
  · have hset : (named table).toFinset = (named table).eraseDups.toFinset := by
      ext country
      rw [List.mem_toFinset, List.mem_toFinset, List.mem_eraseDups]
    have hnodup := (ofRules kind rules).nodup
    rw [hcountries] at hnodup
    rw [hset, List.toFinset_card_of_nodup hnodup, ← hcountries, List.length_map]
    rfl
  · intro code
    simp only [mem_codes_iff, hnamed]
  · intro code
    show lookupCode _ code = _
    rw [lookupCode_eq]
    cases Country.ofCode? code <;> rfl
  · intro code
    exact Option.isSome_iff_ne_none

/-- A table makes a registry if and only if each of its entries is in order, and otherwise fails for
what is wrong with the first one that is not. -/
theorem built_iff_in_order (kind : String) (table : Table) :
    ((∃ r, build kind table = .ok r) ↔ ∀ entry ∈ table, EntryInOrder entry) ∧
    (∀ failure, build kind table = .error failure ↔
      ∃ front code expression back, table = front ++ (code, expression) :: back ∧
        (∀ entry ∈ front, EntryInOrder entry) ∧ WrongEntry code expression failure) ∧
    ∀ r, build kind table = .ok r → r.kind = kind ∧ Holds table r := by
  refine ⟨?_, fun failure => ?_, fun r hr => ?_⟩
  · rw [forall_entryInOrder_iff]
    simp only [build_eq_ok_iff]
    constructor
    · rintro ⟨_, rules, hrules, -⟩
      exact ⟨rules, hrules⟩
    · rintro ⟨rules, hrules⟩
      exact ⟨_, rules, hrules, rfl⟩
  · rw [build_eq_error_iff]
    simp only [entryInOrder_iff, ← readEntry_eq_error_iff_wrong]
    constructor
    · rintro ⟨front, ⟨code, expression⟩, back, hcut, hfront, hentry⟩
      exact ⟨front, code, expression, back, hcut, hfront, hentry⟩
    · rintro ⟨front, code, expression, back, hcut, hfront, hentry⟩
      exact ⟨front, (code, expression), back, hcut, hfront, hentry⟩
  · obtain ⟨rules, hread, rfl⟩ := build_eq_ok_iff.1 hr
    exact ⟨kind_ofRules kind rules, holds_of_map_readEntry hread kind⟩

/-- France comes twice, under different codes: it keeps the first place and has the second layout.
And of two wrong entries it is the first that is told, for its code. -/
theorem built_iff_in_order_samples :
    (∃ r, build "IBAN" [("fr", "5n"), ("DE", "8!n10!n"), (" FR", "4!a")] = .ok r ∧
      r.rules.map (·.label) = ["FR (4!a)", "DE (8!n10!n)"] ∧
      Holds [("fr", "5n"), ("DE", "8!n10!n"), (" FR", "4!a")] r) ∧
    ∃ front code expression back,
      [("DE", "4!n"), ("XX", "4!x"), ("FR", "0n")] = front ++ (code, expression) :: back ∧
      (∀ entry ∈ front, EntryInOrder entry) ∧ WrongEntry code expression (.notCountryCode "XX") := by
  constructor
  · have hlabels : (build "IBAN" [("fr", "5n"), ("DE", "8!n10!n"), (" FR", "4!a")]).map
        (fun r => r.rules.map (·.label)) = .ok ["FR (4!a)", "DE (8!n10!n)"] := by
      decide +kernel
    obtain ⟨r, hr, hlabels⟩ := map_eq_ok_iff.1 hlabels
    exact ⟨r, hr, hlabels, ((built_iff_in_order _ _).2.2 r hr).2⟩
  · have hfailure : (readTable [("DE", "4!n"), ("XX", "4!x"), ("FR", "0n")]).2 =
        some (.notCountryCode "XX") := by
      decide +kernel
    have hbuild : build "IBAN" _ = .error (.notCountryCode "XX") :=
      build_eq_error_iff.2 (readTable_eq_some_iff.1 hfailure)
    exact ((built_iff_in_order "IBAN" _).2.1 _).1 hbuild

end Registry

end BankCodes
