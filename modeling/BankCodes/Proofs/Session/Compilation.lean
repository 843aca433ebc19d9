import BankCodes.Proofs.Registry.Build
import BankCodes.Proofs.Session.Cache
import BankCodes.Session
import Mathlib.Data.List.Count

/-!
# Runs that compile expressions

A call compiles one expression, or those of a table that a registry is built from. All calls of a
session share one cache. What a single call does is said in `Served`: it makes and tells the
patterns that are new to the cache, and binds what it has made. Since the cache is then the one with
these patterns in it (`step_served`), a run of calls does what one call with all their expressions
would do (`cache_after`, `log_run`).

* `count_log_run`: each expression that compiles is told once;
* `handed_eq_iff`: objects are the same for the same expression only;
* `refused` and `step_build_append_wrong`: what does not compile, and what stands behind it.
-/

namespace BankCodes.Session

open Cache

/-! ## Runs of steps -/

/-- The session after some steps. -/
def after (s : Session) (steps : List Step) : Session :=
  steps.foldl (fun s step => (s.step step).session) s

/-- Each reply of a run is the one to its step, in the session after the steps before it. -/
theorem getElem?_run (s : Session) (steps : List Step) (i : Nat) :
    (s.run steps)[i]? = steps[i]?.map (s.after (steps.take i)).step := by
  induction steps generalizing s i with
  | nil => rfl
  | cons step steps ih =>
    cases i with
    | zero => rfl
    | succ i => exact ih (s.step step).session i

/-! ## Calls -/

/-- The ways to have expressions compiled: one alone, or those of a table. -/
inductive Call where
  | compile (expression name : String)
  | build (kind : String) (table : Registry.Table) (name : String)

namespace Call

/-- The step of a session that the call is. -/
def step : Call → Step
  | compile expression name => .compile (some expression) name
  | build kind table name => .build kind table name

/-- The expressions that the call compiles, or tries to. -/
def expressions : Call → List String
  | compile expression _ => [expression]
  | build _ table _ => Registry.tried table

/-- The patterns of those that compile. -/
def patterns (call : Call) : List Pattern := call.expressions.filterMap Pattern.ofExpression?

end Call

/-! ## Replies -/

/-- What a call may come to. -/
inductive Answered : Call → Reply → Prop where
  | compiled {expression name : String} {p : Pattern} {n : Nat} {names : List String}
      {reply : Reply} :
      Pattern.compile expression = .ok p → reply.session.cache.number? p = some n →
      reply.answer = .ok (.compiled p.regex names) →
      reply.session.object? name = some ⟨.cached n, .pattern p⟩ →
      Answered (.compile expression name) reply
  | refused {expression name : String} {fault : Pattern.Fault} {reply : Reply} :
      Pattern.compile expression = .error fault →
      reply.answer = .error (.failure (.pattern fault)) →
      Answered (.compile expression name) reply
  | built {kind name : String} {table : Registry.Table} {registry : Registry} {reply : Reply} :
      Registry.build kind table = .ok registry →
      reply.answer = .ok (.text registry.describe) →
      reply.session.registries.lookup name = some registry →
      (∀ rule ∈ registry.rules, rule.expression ∈ Registry.tried table) →
      Answered (.build kind table name) reply
  | failed {kind name : String} {table : Registry.Table} {failure : Failure} {reply : Reply} :
      Registry.build kind table = .error failure →
      reply.answer = .error (.failure failure) →
      Answered (.build kind table name) reply

/-- The reply to a call with a cache: what is new to the cache is told, once and in order. -/
structure Served (c : Cache) (call : Call) (reply : Reply) : Prop where
  cache : reply.session.cache = c.grow call.patterns
  log : reply.log = (c.fresh call.patterns).map .compiled
  answered : Answered call reply

theorem object?_bind (s : Session) (name : String) (o : Object) :
    (s.bind name o).object? name = some o :=
  List.lookup_cons_self

theorem compile_served (s : Session) (expression name : String) :
    Served s.cache (.compile expression name) (s.compile (some expression) name) := by
  have hgiven : given "expression" (some expression) = .ok expression := rfl
  cases hcompile : Pattern.compile expression with
  | error fault =>
    have hpatterns : (Call.compile expression name).patterns = [] := by
      simp [Call.patterns, Call.expressions, Pattern.ofExpression?, hcompile, Except.toOption]
    simp only [Session.compile, hgiven, hcompile]
    refine ⟨?_, ?_, .refused hcompile rfl⟩
    · rw [hpatterns, grow_nil]
      rfl
    · rw [hpatterns, fresh_nil]
      rfl
  | ok p =>
    have hpatterns : (Call.compile expression name).patterns = [p] := by
      simp [Call.patterns, Call.expressions, Pattern.ofExpression?, hcompile, Except.toOption]
    obtain ⟨n, htake, hnumber⟩ := s.cache.take_eq p
    simp only [Session.compile, hgiven, hcompile, htake]
    refine ⟨?_, ?_, .compiled hcompile hnumber rfl (object?_bind _ _ _)⟩
    · rw [hpatterns]
      rfl
    · rw [hpatterns]

theorem build_served (s : Session) (kind : String) (table : Registry.Table) (name : String) :
    Served s.cache (.build kind table name) (s.step (.build kind table name)) := by
  simp only [Session.step, withRegistry, build_eq]
  cases hbuild : Registry.build kind table with
  | error failure => exact ⟨rfl, rfl, .failed hbuild rfl⟩
  | ok registry =>
    have hrules := Registry.expression_mem_tried hbuild
    refine ⟨rfl, ?_, .built hbuild rfl List.lookup_cons_self hrules⟩
    exact List.append_nil _

/-- Each call is served from the cache of the session, and leaves it with what was new. -/
theorem step_served (s : Session) (call : Call) : Served s.cache call (s.step call.step) := by
  cases call with
  | compile expression name => exact compile_served s expression name
  | build kind table name => exact build_served s kind table name

/-! ## Runs of calls -/

theorem cache_after (s : Session) (calls : List Call) :
    (s.after (calls.map Call.step)).cache = s.cache.grow (calls.flatMap Call.patterns) := by
  induction calls generalizing s with
  | nil => exact s.cache.grow_nil.symm
  | cons call calls ih =>
    show ((s.step call.step).session.after (calls.map Call.step)).cache = _
    rw [ih, (s.step_served call).cache, ← grow_append, List.flatMap_cons]

/-- All that is told in a run is told of new patterns, in the order of their first calls. -/
theorem log_run (s : Session) (calls : List Call) :
    (s.run (calls.map Call.step)).flatMap Reply.log =
      (s.cache.fresh (calls.flatMap Call.patterns)).map .compiled := by
  induction calls generalizing s with
  | nil => simp [run]
  | cons call calls ih =>
    have hserved := s.step_served call
    rw [List.map_cons, run, List.flatMap_cons, ih, hserved.log, hserved.cache, List.flatMap_cons,
      fresh_append, List.map_append]

/-- The call in a place of a run, with the reply to it. -/
def Replied (calls : List Call) (i : Nat) (call : Call) (reply : Reply) : Prop :=
  calls[i]? = some call ∧ (initial.run (calls.map Call.step))[i]? = some reply

/-- Each call of a run has a reply, from the cache with what was compiled before it. -/
theorem replied_iff {calls : List Call} {i : Nat} {call : Call} {reply : Reply} :
    Replied calls i call reply ↔ calls[i]? = some call ∧
      reply = (initial.after ((calls.take i).map Call.step)).step call.step := by
  unfold Replied
  rw [getElem?_run, List.getElem?_map, List.map_take]
  constructor
  · intro ⟨hcall, hreply⟩
    rw [hcall] at hreply
    exact ⟨hcall, (Option.some.inj hreply).symm⟩
  · intro ⟨hcall, hreply⟩
    rw [hcall, hreply]
    exact ⟨rfl, rfl⟩

theorem Replied.served {calls : List Call} {i : Nat} {call : Call} {reply : Reply}
    (h : Replied calls i call reply) :
    Served (Cache.empty.grow ((calls.take i).flatMap Call.patterns)) call reply := by
  obtain ⟨-, rfl⟩ := replied_iff.1 h
  have hcache := cache_after initial (calls.take i)
  show Served (initial.cache.grow _) _ _
  rw [← hcache]
  apply step_served

/-- What a pattern's number is after a call, it is at the end of the run. -/
theorem Replied.number?_eq {calls : List Call} {i : Nat} {call : Call} {reply : Reply}
    (h : Replied calls i call reply) {p : Pattern} {n : Nat}
    (hn : reply.session.cache.number? p = some n) :
    (Cache.empty.grow (calls.flatMap Call.patterns)).number? p = some n := by
  -- the cache after the call is a front of the one at the end, which only grows
  have hcut : calls = calls.take i ++ call :: calls.drop (i + 1) := by
    obtain ⟨hi, hcall⟩ := List.getElem?_eq_some_iff.1 h.1
    rw [← hcall, ← List.drop_eq_getElem_cons hi, List.take_append_drop]
  rw [h.served.cache] at hn
  rw [hcut, List.flatMap_append, List.flatMap_cons, grow_append, grow_append]
  exact number?_grow hn _

/-- In the reply to a call an expression has been compiled, to the object with the number. -/
def Handed (call : Call) (reply : Reply) (expression : String) (n : Nat) : Prop :=
  expression ∈ call.expressions ∧
    ∃ p, Pattern.compile expression = .ok p ∧ reply.session.cache.number? p = some n

theorem Served.exists_handed {c : Cache} {call : Call} {reply : Reply} (h : Served c call reply)
    {expression : String} (hmem : expression ∈ call.expressions) {p : Pattern}
    (hp : Pattern.compile expression = .ok p) : ∃ n, Handed call reply expression n := by
  have hpattern : p ∈ call.patterns := by
    apply List.mem_filterMap.2
    exact ⟨expression, hmem, Pattern.ofExpression?_eq_some_iff.2 (Pattern.compile_eq_ok_iff.1 hp)⟩
  have hheld : p ∈ reply.session.cache.patterns := by
    rw [h.cache]
    exact mem_grow.2 (.inr hpattern)
  obtain ⟨n, hn⟩ := exists_number?_of_mem hheld
  exact ⟨n, hmem, p, hp, hn⟩

/-! ## Failures -/

/-- What becomes of an expression that does not compile, alone, and in a table where all before it
is in order. -/
structure Refused (s : Session) (expression : String) (fault : Pattern.Fault) : Prop where
  alone : ∀ name, s.step (Call.compile expression name).step =
    s.reply (.error (.failure (.pattern fault)))
  inTable : ∀ kind front code country back name, Country.ofCode? code = some country →
    (∀ entry ∈ front, ∃ rule, Registry.readEntry entry = .ok rule) →
    (s.step (Call.build kind (front ++ (code, expression) :: back) name).step).answer =
      .error (.failure (.pattern fault))

theorem refused {expression : String} {fault : Pattern.Fault}
    (h : Pattern.compile expression = .error fault) (s : Session) : Refused s expression fault := by
  refine ⟨?_, ?_⟩
  · intro name
    show s.compile (some expression) name = s.reply (.error (.failure (.pattern fault)))
    have hgiven : given "expression" (some expression) = .ok expression := rfl
    simp only [Session.compile, hgiven, h]
  · intro kind front code country back name hcode hfront
    have hentry : Registry.readEntry (code, expression) = .error (.pattern fault) := by
      simp only [Registry.readEntry, hcode, h]
    have hbuild : Registry.build kind (front ++ (code, expression) :: back) =
        .error (.pattern fault) :=
      Registry.build_eq_error_iff.2 ⟨front, _, back, rfl, hfront, hentry⟩
    cases (s.step_served (.build kind (front ++ (code, expression) :: back) name)).answered with
    | built hbuilt =>
      rw [hbuild] at hbuilt
      cases hbuilt
    | failed hfailed hanswer =>
      rw [hbuild] at hfailed
      cases hfailed
      exact hanswer

/-- What stands behind a wrong entry of a table makes no difference. -/
theorem step_build_append_wrong {entry : String × String} {failure : Failure}
    (h : Registry.readEntry entry = .error failure) (s : Session) (kind : String)
    (front back : Registry.Table) (name : String) :
    s.step (.build kind (front ++ entry :: back) name) =
      s.step (.build kind (front ++ [entry]) name) := by
  simp only [Session.step, withRegistry, Cache.build, Registry.build,
    Registry.readTable_append_wrong h front back]

/-! ## The records of a run -/

theorem compiled_injective : Function.Injective Log.Event.compiled := by
  intro p q h
  apply Pattern.ext_expression
  have harguments : Log.Arguments.texts [p.expression, p.regex] = .texts [q.expression, q.regex] :=
    congrArg Log.Event.arguments h
  injection harguments with htexts
  injection htexts with hexpression
  injection hexpression

theorem mem_patterns_iff {calls : List Call} {p : Pattern} :
    p ∈ calls.flatMap Call.patterns ↔ p.expression ∈ calls.flatMap Call.expressions := by
  have hpatterns : calls.flatMap Call.patterns =
      (calls.flatMap Call.expressions).filterMap Pattern.ofExpression? :=
    List.filterMap_flatMap.symm
  rw [hpatterns, List.mem_filterMap]
  constructor
  · intro ⟨expression, hmem, hp⟩
    rw [Pattern.ofExpression?_eq_some_iff.1 hp]
    exact hmem
  · intro hmem
    exact ⟨p.expression, hmem, Pattern.ofExpression?_eq_some_iff.2 rfl⟩

/-- What is told in a session that starts with nothing compiled: no pattern twice. -/
theorem log_run_initial (calls : List Call) :
    (initial.run (calls.map Call.step)).flatMap Reply.log =
      (calls.flatMap Call.patterns).eraseDups.map .compiled := by
  rw [log_run]
  simp [fresh, initial, Cache.empty]

/-- Over a whole run, each expression that is compiled is told once, and no other is told. -/
theorem count_log_run (calls : List Call) (p : Pattern) :
    ((initial.run (calls.map Call.step)).flatMap Reply.log).count (.compiled p) =
      if p.expression ∈ calls.flatMap Call.expressions then 1 else 0 := by
  rw [log_run_initial, List.count_map_of_injective _ _ compiled_injective,
    (Scan.nodup_eraseDups _).count]
  simp only [List.mem_eraseDups, mem_patterns_iff]

/-- Two successful compiles in a run give the same object exactly for the same expression. -/
theorem handed_eq_iff {calls : List Call} {i j : Nat} {call call' : Call} {reply reply' : Reply}
    (hi : Replied calls i call reply) (hj : Replied calls j call' reply')
    {expression expression' : String} {n n' : Nat} (h : Handed call reply expression n)
    (h' : Handed call' reply' expression' n') : n = n' ↔ expression = expression' := by
  obtain ⟨-, p, hp, hn⟩ := h
  obtain ⟨-, p', hp', hn'⟩ := h'
  have hend := hi.number?_eq hn
  have hend' := hj.number?_eq hn'
  rw [← Pattern.compile_eq_ok_iff.1 hp, ← Pattern.compile_eq_ok_iff.1 hp']
  constructor
  · intro hsame
    rw [← hsame] at hend'
    rw [number?_inj hend hend']
  · intro hsame
    rw [Pattern.ext_expression hsame] at hend
    exact Option.some.inj (hend.symm.trans hend')

/-- Whatever expressions are compiled in a run, alone or for the tables of registries, also of
registries that fail: each that compiles is told once, at the level of debugging, by the first call
that compiles it, and its object is the same in all calls, while other expressions have other
objects. One that does not compile is not told, and fails each time. What stands behind the wrong
entry of a table is left alone. -/
theorem compiled_once (calls : List Call) :
    (∀ p : Pattern, ((initial.run (calls.map Call.step)).flatMap Reply.log).count (.compiled p) =
      if p.expression ∈ calls.flatMap Call.expressions then 1 else 0) ∧
    (∀ event ∈ (initial.run (calls.map Call.step)).flatMap Reply.log,
      event.level = Log.debug ∧ ∃ p, event = .compiled p) ∧
    (∀ i call, calls[i]? = some call → ∃ reply, Replied calls i call reply ∧
      Served (Cache.empty.grow ((calls.take i).flatMap Call.patterns)) call reply ∧
      ∀ expression ∈ call.expressions, ∀ p, Pattern.compile expression = .ok p →
        ∃ n, Handed call reply expression n) ∧
    (∀ i j call call' reply reply', Replied calls i call reply → Replied calls j call' reply' →
      ∀ expression expression' n n', Handed call reply expression n →
        Handed call' reply' expression' n' → (n = n' ↔ expression = expression')) ∧
    (∀ expression fault, Pattern.compile expression = .error fault →
      ∀ s, Refused s expression fault) ∧
    ∀ entry failure, Registry.readEntry entry = .error failure →
      ∀ s kind front back name, step s (Call.build kind (front ++ entry :: back) name).step =
        step s (Call.build kind (front ++ [entry]) name).step := by
  refine ⟨count_log_run calls, ?_, ?_, ?_, ?_, ?_⟩
  · intro event hevent
    rw [log_run_initial] at hevent
    obtain ⟨p, -, rfl⟩ := List.mem_map.1 hevent
    exact ⟨rfl, p, rfl⟩
  · intro i call hcall
    have hreplied : Replied calls i call _ := replied_iff.2 ⟨hcall, rfl⟩
    refine ⟨_, hreplied, hreplied.served, ?_⟩
    intro expression hmem p hp
    exact hreplied.served.exists_handed hmem hp
  · intro i j call call' reply reply' hi hj expression expression' n n' h h'
    exact handed_eq_iff hi hj h h'
  · intro expression fault hfault s
    exact refused hfault s
  · intro entry failure hentry s kind front back name
    exact step_build_append_wrong hentry s kind front back name

/-- An expression, the same with a zero in front of its number, and a table that has the first one
again before a wrong entry: the table tells nothing new, and its last entry is not compiled. -/
theorem compiled_once_samples :
    ∃ (table : Registry.Table) (calls : List Call),
      table = [("FR", "4!n"), ("DE", "2!x"), ("ES", "3!a")] ∧
      calls = [.compile "4!n" "digits", .compile "04!n" "padded", .build "IBAN" table "layouts"] ∧
      (∀ p : Pattern, p.expression = "4!n" ∨ p.expression = "04!n" →
        ((initial.run (calls.map Call.step)).flatMap Reply.log).count (.compiled p) = 1) ∧
      (∀ p : Pattern, p.expression = "3!a" →
        ((initial.run (calls.map Call.step)).flatMap Reply.log).count (.compiled p) = 0) ∧
      ∃ reply reply' reply'' n n', Replied calls 0 (.compile "4!n" "digits") reply ∧
        Replied calls 1 (.compile "04!n" "padded") reply' ∧
        Replied calls 2 (.build "IBAN" table "layouts") reply'' ∧
        Handed (.compile "4!n" "digits") reply "4!n" n ∧
        Handed (.compile "04!n" "padded") reply' "04!n" n' ∧
        Handed (.build "IBAN" table "layouts") reply'' "4!n" n ∧ n ≠ n' := by
  obtain ⟨table, htable⟩ : ∃ table, table = [("FR", "4!n"), ("DE", "2!x"), ("ES", "3!a")] :=
    ⟨_, rfl⟩
  obtain ⟨calls, hcalls⟩ : ∃ calls : List Call, calls = [.compile "4!n" "digits",
      .compile "04!n" "padded", .build "IBAN" table "layouts"] := ⟨_, rfl⟩
  obtain ⟨hcount, -, hserved, hsame, -⟩ := compiled_once calls
  have htried : Registry.tried table = ["4!n", "2!x"] := by
    rw [htable]
    decide +kernel
  have hexpressions : calls.flatMap Call.expressions = ["4!n", "04!n", "4!n", "2!x"] := by
    rw [hcalls]
    show ["4!n"] ++ (["04!n"] ++ (Registry.tried table ++ [])) = _
    rw [htried]
    rfl
  have hplain : Pattern.compile "4!n" = .ok ⟨[⟨['4'], true, .digit⟩], by decide⟩ :=
    Pattern.compile_eq_ok_iff.2 (by decide +kernel)
  have hpadded : Pattern.compile "04!n" = .ok ⟨[⟨['0', '4'], true, .digit⟩], by decide⟩ :=
    Pattern.compile_eq_ok_iff.2 (by decide +kernel)
  obtain ⟨reply, hreply, -, hhanded⟩ := hserved 0 (.compile "4!n" "digits") (by rw [hcalls]; rfl)
  obtain ⟨reply', hreply', -, hhanded'⟩ :=
    hserved 1 (.compile "04!n" "padded") (by rw [hcalls]; rfl)
  obtain ⟨reply'', hreply'', -, hhanded''⟩ :=
    hserved 2 (.build "IBAN" table "layouts") (by rw [hcalls]; rfl)
  obtain ⟨n, hn⟩ := hhanded "4!n" List.mem_cons_self _ hplain
  obtain ⟨n', hn'⟩ := hhanded' "04!n" List.mem_cons_self _ hpadded
  have hmem : "4!n" ∈ (Call.build "IBAN" table "layouts").expressions := by
    show "4!n" ∈ Registry.tried table
    rw [htried]
    exact List.mem_cons_self
  obtain ⟨n'', hn''⟩ := hhanded'' "4!n" hmem _ hplain
  have hagain : n = n'' := (hsame _ _ _ _ _ _ hreply hreply'' _ _ _ _ hn hn'').2 rfl
  have hother : n ≠ n' := by
    intro h
    have heq := (hsame _ _ _ _ _ _ hreply hreply' _ _ _ _ hn hn').1 h
    exact absurd heq (by decide)
  rw [← hagain] at hn''
  refine ⟨table, calls, htable, hcalls, ?_, ?_, reply, reply', reply'', n, n', hreply, hreply',
    hreply'', hn, hn', hn'', hother⟩
  · intro p hp
    rw [hcount, hexpressions, if_pos]
    rcases hp with hp | hp
    · simp [hp]
    · simp [hp]
  · intro p hp
    rw [hcount, hexpressions, if_neg]
    rw [hp]
    decide

end BankCodes.Session
