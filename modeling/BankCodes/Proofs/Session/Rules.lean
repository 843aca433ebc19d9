import BankCodes.Proofs.Session.Compilation

/-!
# Rules and their patterns as objects

A registry that is built in a session takes the pattern of each rule from the cache. So the pattern
is the very object that is handed out for its expression in any other call, before or behind
(`compile_hands_pattern_of_rule`). A rule is an object of its registry: looking it up again, in
whatever has become of the session, gives the same one (`object?_lookup`).
-/

namespace BankCodes.Session

open Cache

/-! ## Patterns of rules -/

/-- The call that builds a registry is handed a numbered object for the pattern of each rule. -/
theorem Replied.exists_handed_rule {calls : List Call} {i : Nat} {kind name : String}
    {table : Registry.Table} {reply : Reply} (h : Replied calls i (.build kind table name) reply)
    {registry : Registry} (hbuild : Registry.build kind table = .ok registry) {rule : Rule}
    (hrule : rule ∈ registry.rules) :
    ∃ n, Handed (.build kind table name) reply rule.expression n ∧
      reply.session.cache.number? rule.pattern = some n := by
  have hcompile : Pattern.compile rule.expression = .ok rule.pattern :=
    Pattern.compile_eq_ok_iff.2 rfl
  have htried : rule.expression ∈ (Call.build kind table name).expressions :=
    Registry.expression_mem_tried hbuild rule hrule
  obtain ⟨n, hhanded⟩ := h.served.exists_handed htried hcompile
  obtain ⟨-, p, hp, hn⟩ := id hhanded
  rw [hcompile] at hp
  cases hp
  exact ⟨n, hhanded, hn⟩

/-- Wherever in the run a registry is built and the expression of one of its rules is compiled, the
call gives the object that is the pattern of the rule. -/
theorem compile_hands_pattern_of_rule {calls : List Call} {i j : Nat} {kind name name' : String}
    {table : Registry.Table} {reply reply' : Reply} {registry : Registry} {rule : Rule}
    (hi : Replied calls i (.build kind table name) reply)
    (hbuild : Registry.build kind table = .ok registry) (hrule : rule ∈ registry.rules)
    (hj : Replied calls j (.compile rule.expression name') reply') :
    ∃ n, reply.session.cache.number? rule.pattern = some n ∧
      reply'.session.object? name' = some ⟨.cached n, .pattern rule.pattern⟩ := by
  obtain ⟨n, hhanded, hn⟩ := hi.exists_handed_rule hbuild hrule
  refine ⟨n, hn, ?_⟩
  have hcompile : Pattern.compile rule.expression = .ok rule.pattern :=
    Pattern.compile_eq_ok_iff.2 rfl
  cases hj.served.answered with
  | refused hrefused =>
    rw [hcompile] at hrefused
    cases hrefused
  | compiled hp hn' _ hobject =>
    rw [hcompile] at hp
    cases hp
    have hhanded' : Handed (.compile rule.expression name') reply' rule.expression _ :=
      ⟨List.mem_singleton_self _, _, hcompile, hn'⟩
    rw [(handed_eq_iff hi hj hhanded hhanded').2 rfl]
    exact hobject

/-! ## Rules -/

/-- A registry with a place for its rules is there already, or the name is not bound. -/
theorem withRegistry_of_home {s : Session} {registry : RegistryArgument} {home : Home}
    (hhome : s.home? registry = some home) (next : Session → Option Registry → Reply) :
    (∃ r, s.withRegistry registry next = next s r) ∨
      ∃ refusal, s.withRegistry registry next = s.reply (.error refusal) := by
  cases registry with
  | usual => exact .inl ⟨none, rfl⟩
  | bban => exact .inl ⟨some .bban, rfl⟩
  | creditor => exact .inl ⟨some .creditor, rfl⟩
  | named name =>
    simp only [Session.withRegistry]
    cases s.registries.lookup name with
    | none => exact .inr ⟨.unbound name, rfl⟩
    | some r => exact .inl ⟨some r, rfl⟩
  | table kind entries => cases hhome

/-- A lookup that finds a rule binds the object that it is in its registry. Any other one binds
nothing. -/
theorem step_lookup {s : Session} {registry : RegistryArgument} {home : Home}
    (hhome : s.home? registry = some home) (country : CountryArgument) (name : String) :
    (∃ rule, s.step (.lookup registry country (some name)) =
      (s.bind name ⟨.listed home rule.country.code, .rule rule⟩).reply (.ok (.rule (some rule)))) ∨
    ∃ answer, s.step (.lookup registry country (some name)) = s.reply answer ∧
      ∀ rule, answer ≠ .ok (.rule (some rule)) := by
  simp only [Session.step]
  rcases withRegistry_of_home hhome _ with ⟨r, hnext⟩ | ⟨refusal, hrefused⟩
  · rw [hnext]
    cases (r.getD .bban).lookupArgument country with
    | none => exact .inr ⟨_, rfl, fun _ h => by cases h⟩
    | some rule =>
      refine .inl ⟨rule, ?_⟩
      simp only [bindRule, hhome]
  · exact .inr ⟨_, hrefused, fun _ h => by cases h⟩

/-- The object of a rule that is found has its identity from the registry and the country, and the
registry keeps its place. So the same lookup later on gives the same object. -/
theorem object?_lookup {s : Session} {registry : RegistryArgument} {home : Home}
    (hhome : s.home? registry = some home) {country : CountryArgument} {name : String} {rule : Rule}
    (hanswer : (s.step (.lookup registry country (some name))).answer = .ok (.rule (some rule))) :
    let s' := (s.step (.lookup registry country (some name))).session
    s'.object? name = some ⟨.listed home rule.country.code, .rule rule⟩ ∧
      s'.home? registry = some home := by
  rcases step_lookup hhome country name with ⟨found, hfound⟩ | ⟨answer, hnone, hne⟩
  · rw [hfound] at hanswer ⊢
    cases hanswer
    refine ⟨object?_bind .., ?_⟩
    cases registry <;> exact hhome
  · rw [hnone] at hanswer
    exact absurd hanswer (hne rule)

end BankCodes.Session
