import BankCodes.Proofs.CheckDigits.Issue
import BankCodes.Proofs.Pattern.Grammar
import BankCodes.Registry

/-!
# What tables and expressions fail for

An expression that does not compile is told to be malformed, and so is a table with such an
expression, unless a number in it has too many digits to be read at all. That comes first: the
range of a number is looked at only once the number is known.

* `compile_eq_tooManyDigits_iff`: the expressions that are not read;
* `build_eq_error_iff`: a table fails for its first wrong entry;
* `compile_and_build_failures`: all that may go wrong with expressions and with tables of them.
-/

namespace BankCodes

namespace Pattern

/-! ## Numbers that are not read -/

/-- The leftmost wrong group of the expression has `n` digits, which are too many. -/
def Unreadable (expression : String) (n : Nat) : Prop :=
  ∃ front g back, Composed expression (front ++ g :: back) ∧ (∀ f ∈ front, f.isValid = true) ∧
    g.numeral.length = n ∧ 4300 < n

theorem compile_eq_tooManyDigits_iff {expression : String} {n : Nat} :
    compile expression = .error (.tooManyDigits n) ↔ Unreadable expression n := by
  rw [compile_eq_error_iff]
  constructor
  · rintro (- | ⟨hgs, hfront, hlong | -⟩)
    exact ⟨_, _, _, hgs, hfront, rfl, hlong⟩
  · rintro ⟨front, g, back, hgs, hfront, rfl, hlong⟩
    exact .wrongGroup hgs hfront (.unreadable hlong)

/-- An expression compiles, is told to be malformed, or has a number that is not read. -/
theorem compile_outcomes (expression : String) :
    (∃ p, compile expression = .ok p) ∨
      (∃ reason, compile expression = .error (.malformed ⟨expression, reason⟩)) ∨
      ∃ n, compile expression = .error (.tooManyDigits n) := by
  cases h : compile expression with
  | ok p => exact .inl ⟨p, rfl⟩
  | error fault =>
    rcases compile_eq_error_iff.1 h with - | ⟨-, -, - | -⟩
    · exact .inr (.inl ⟨none, rfl⟩)
    · exact .inr (.inr ⟨_, rfl⟩)
    · exact .inr (.inl ⟨_, rfl⟩)

/-- A group that can be read and whose number is out of range is told, if all before it are in
order. -/
theorem exists_reason_of_outOfRange {expression : String} {front back : List Group} {g : Group}
    (hgs : Composed expression (front ++ g :: back)) (hfront : ∀ f ∈ front, f.isValid = true)
    (hshort : g.numeral.length ≤ 4300) (hrange : g.count = 0 ∨ 65535 < g.count) :
    ∃ reason, g.OutOfRange reason ∧
      compile expression = .error (.malformed ⟨expression, some reason⟩) := by
  have htold : ∃ reason, g.OutOfRange reason :=
    hrange.elim (fun h => ⟨_, .zero h⟩) fun h => ⟨_, .above h⟩
  obtain ⟨reason, hreason⟩ := htold
  have hfailed : Failed expression (.malformed ⟨expression, some reason⟩) :=
    .wrongGroup hgs hfront (.outOfRange hshort hreason)
  exact ⟨reason, hreason, compile_eq_error_iff.2 hfailed⟩

end Pattern

namespace Registry

open Pattern

/-! ## Tables -/

/-- An entry is wrong for its code, or for its expression if the code is that of a country. -/
theorem readEntry_eq_error_iff {code expression : String} {failure : Failure} :
    readEntry (code, expression) = .error failure ↔
      (Country.ofCode? code = none ∧ failure = .notCountryCode code) ∨
        ∃ country, Country.ofCode? code = some country ∧
          ((∃ reason, compile expression = .error (.malformed ⟨expression, reason⟩) ∧
              failure = .pattern (.malformed ⟨expression, reason⟩)) ∨
            ∃ n, Unreadable expression n ∧ failure = .pattern (.tooManyDigits n)) := by
  simp only [← compile_eq_tooManyDigits_iff]
  unfold readEntry
  cases Country.ofCode? code with
  | none => simp [eq_comm]
  | some country =>
    rcases compile_outcomes expression with ⟨p, h⟩ | ⟨reason, h⟩ | ⟨n, h⟩
    all_goals simp [h, eq_comm]

/-- Reading a table stops at the first wrong entry. -/
theorem readTable_eq_some_iff {table : Table} {failure : Failure} :
    (readTable table).2 = some failure ↔
      ∃ front entry back, table = front ++ entry :: back ∧
        (∀ e ∈ front, ∃ rule, readEntry e = .ok rule) ∧ readEntry entry = .error failure := by
  induction table with
  | nil => simp [readTable]
  | cons first table ih =>
    unfold readTable
    cases hfirst : readEntry first with
    | error failure' =>
      constructor
      · rintro ⟨⟩
        exact ⟨[], first, table, rfl, by simp, hfirst⟩
      · rintro ⟨_ | ⟨e, front⟩, entry, back, hcut, hfront, hentry⟩
        · cases hcut
          rw [hfirst] at hentry
          cases hentry
          rfl
        · cases hcut
          obtain ⟨rule, hrule⟩ := hfront first (by simp)
          rw [hfirst] at hrule
          cases hrule
    | ok rule =>
      show (readTable table).2 = some failure ↔ _
      rw [ih]
      constructor
      · rintro ⟨front, entry, back, rfl, hfront, hentry⟩
        exact ⟨first :: front, entry, back, rfl, List.forall_mem_cons.2 ⟨⟨rule, hfirst⟩, hfront⟩,
          hentry⟩
      · rintro ⟨_ | ⟨e, front⟩, entry, back, hcut, hfront, hentry⟩
        · cases hcut
          rw [hfirst] at hentry
          cases hentry
        · cases hcut
          exact ⟨front, entry, back, rfl, fun e he => hfront e (by simp [he]), hentry⟩

/-- A table fails for its first wrong entry. -/
theorem build_eq_error_iff {kind : String} {table : Table} {failure : Failure} :
    build kind table = .error failure ↔
      ∃ front entry back, table = front ++ entry :: back ∧
        (∀ e ∈ front, ∃ rule, readEntry e = .ok rule) ∧ readEntry entry = .error failure := by
  rw [← readTable_eq_some_iff]
  unfold build
  split
  · next h => simp [h]
  · next h => simp [h]

end Registry

open CheckDigits Pattern Registry Text

/-! ## All that may go wrong -/

/-- An expression compiles or is told to be malformed, unless its leftmost wrong group has more than
4300 digits: then their number is told, and nothing of the expression. A group with fewer digits
whose number is zero or too large is told for that. A table fails for its first wrong entry, with
the code that is none, or for what its expression fails for. -/
theorem compile_and_build_failures (expression kind : String) (table : Table) (failure : Failure) :
    ((∀ n, ¬ Unreadable expression n) ↔
      (∃ p, compile expression = .ok p) ∨
        ∃ reason, compile expression = .error (.malformed ⟨expression, reason⟩)) ∧
    (∀ n, Unreadable expression n ↔ compile expression = .error (.tooManyDigits n)) ∧
    (∀ front g back, Composed expression (front ++ g :: back) →
      (∀ f ∈ front, f.isValid = true) → g.numeral.length ≤ 4300 →
      (g.count = 0 ∨ 65535 < g.count) →
      ∃ reason, g.OutOfRange reason ∧
        compile expression = .error (.malformed ⟨expression, some reason⟩)) ∧
    (build kind table = .error failure ↔
      ∃ front code layout back, table = front ++ (code, layout) :: back ∧
        (∀ entry ∈ front, ∃ rule, readEntry entry = .ok rule) ∧
        ((Country.ofCode? code = none ∧ failure = .notCountryCode code) ∨
          ∃ country, Country.ofCode? code = some country ∧
            ((∃ reason, compile layout = .error (.malformed ⟨layout, reason⟩) ∧
                failure = .pattern (.malformed ⟨layout, reason⟩)) ∨
              ∃ n, Unreadable layout n ∧ failure = .pattern (.tooManyDigits n)))) := by
  refine ⟨?_, fun n => compile_eq_tooManyDigits_iff.symm,
    fun front g back => exists_reason_of_outOfRange, ?_⟩
  · simp only [← compile_eq_tooManyDigits_iff]
    constructor
    · intro hread
      rcases compile_outcomes expression with h | h | ⟨n, h⟩
      · exact .inl h
      · exact .inr h
      · exact absurd h (hread n)
    · rintro (⟨p, hp⟩ | ⟨reason, hreason⟩) n hn
      · rw [hp] at hn
        cases hn
      · rw [hreason] at hn
        cases hn
  · rw [build_eq_error_iff]
    constructor
    · rintro ⟨front, ⟨code, layout⟩, back, hcut, hfront, hentry⟩
      exact ⟨front, code, layout, back, hcut, hfront, readEntry_eq_error_iff.1 hentry⟩
    · rintro ⟨front, code, layout, back, hcut, hfront, hentry⟩
      exact ⟨front, (code, layout), back, hcut, hfront, readEntry_eq_error_iff.2 hentry⟩

/-- A group of 4301 digits or more is not read, whatever its number. -/
theorem compile_of_many_digits {digits : List Char} (hdigits : ∀ d ∈ digits, d.isDigit = true)
    (hlong : 4300 < digits.length) :
    compile (String.ofList (digits ++ ['n'])) = .error (.tooManyDigits digits.length) := by
  apply compile_eq_tooManyDigits_iff.2
  have hne : digits ≠ [] := List.ne_nil_of_length_pos (by omega)
  refine ⟨[], ⟨digits, false, .digit⟩, [], ⟨by simp, ?_, ?_⟩, by simp, rfl, hlong⟩
  · exact List.forall_mem_singleton.2 ⟨hne, hdigits⟩
  · rw [String.toList_ofList]
    exact List.append_nil _

theorem numeralValue_nines (n : Nat) : numeralValue (List.replicate n '9') + 1 = 10 ^ n := by
  induction n with
  | zero => rfl
  | succ n ih =>
    have hnine : numeralValue ['9'] = 9 := rfl
    rw [List.replicate_succ', numeralValue_append, hnine, List.length_singleton, Nat.pow_one,
      Nat.pow_succ, ← ih]
    omega

theorem lt_numeralValue_nines {n : Nat} (hn : 5 ≤ n) :
    65535 < numeralValue (List.replicate n '9') := by
  have hvalue := numeralValue_nines n
  have hpow : 10 ^ 5 ≤ 10 ^ n := Nat.pow_le_pow_right (by decide) hn
  omega

theorem numeralValue_zeros (n : Nat) : numeralValue (List.replicate n '0') = 0 := by
  induction n with
  | zero => rfl
  | succ n ih =>
    rw [List.replicate_succ', numeralValue_append, ih]
    rfl

/-- A number of 4301 nines is larger than 65535, and one of 4301 zeros is zero, but the expressions
with them are not told to be malformed, alone or in a table. -/
theorem many_digits_not_malformed :
    65535 < numeralValue (List.replicate 4301 '9') ∧ numeralValue (List.replicate 4301 '0') = 0 ∧
      ∀ d ∈ ['9', '0'],
        compile (String.ofList (List.replicate 4301 d ++ ['n'])) = .error (.tooManyDigits 4301) ∧
        (∀ e, compile (String.ofList (List.replicate 4301 d ++ ['n'])) ≠ .error (.malformed e)) ∧
        build "IBAN" [("FR", String.ofList (List.replicate 4301 d ++ ['n']))] =
          .error (.pattern (.tooManyDigits 4301)) := by
  refine ⟨lt_numeralValue_nines (by decide), numeralValue_zeros 4301, fun d hd => ?_⟩
  have hdigits : ['9', '0'].all Char.isDigit = true := rfl
  have hall : ∀ c ∈ List.replicate 4301 d, c.isDigit = true := by
    intro c hc
    rw [List.eq_of_mem_replicate hc]
    exact List.all_eq_true.1 hdigits d hd
  have hcompile := compile_of_many_digits hall (by rw [List.length_replicate]; decide)
  rw [List.length_replicate] at hcompile
  refine ⟨hcompile, fun e he => ?_, ?_⟩
  · rw [hcompile] at he
    cases he
  · apply build_eq_error_iff.2
    refine ⟨[], _, [], rfl, by simp, readEntry_eq_error_iff.2 (.inr ?_)⟩
    obtain ⟨country, hcountry⟩ : ∃ country, Country.ofCode? "FR" = some country :=
      Option.isSome_iff_exists.1 (by decide +kernel)
    exact ⟨country, hcountry, .inr ⟨4301, compile_eq_tooManyDigits_iff.1 hcompile, rfl⟩⟩

end BankCodes
