import BankCodes.Proofs.Bic.Acceptance
import BankCodes.Proofs.CreditorIdentifier.Acceptance
import BankCodes.Proofs.Log.Template
import BankCodes.Verdict

/-!
# What verdicts rest on

A verdict takes a rejection for a "no", and lets every other failure through. There are no others:
a text is looked at by the check-digit engine only after its general form has been found in order,
so that each of its characters has a weight, and whatever is not accepted is rejected
(`parse_outcome`).

    the verdict is yes ↔ the text is read

* `parse_outcome`: for each kind, a text is accepted, or rejected as it was typed;
* `message_rejection`: what is told of a rejection;
* `yes_iff_read`: the verdict on every text, and on what is no text.
-/

namespace BankCodes

open Candidate Text

/-! ## Every text is accepted or rejected -/

/-- The outcomes of taking a text for an identifier of a kind. Each rejection names a cause. -/
inductive Outcome (kind input : String) : Except Failure α → Prop where
  | accepted (a : α) : Outcome kind input (.ok a)
  | rejected {cause : Rejection.Cause} :
      cause ≠ .unspecified → Outcome kind input (.error (.rejected ⟨kind, input, cause⟩))

/-- What is made of the value that is read does not matter. -/
theorem Outcome.map {kind input : String} {result : Except Failure α} (f : α → β)
    (h : Outcome kind input result) : Outcome kind input (result.map f) := by
  cases h with
  | accepted a => exact .accepted (f a)
  | rejected hcause => exact .rejected hcause

/-- An outcome told of another candidate is one of that candidate. -/
theorem Outcome.about {kind input : String} {result : Except Failure α} (other : Candidate)
    (h : Outcome kind input result) :
    Outcome other.kind other.input (result.mapError (.about other)) := by
  cases h with
  | accepted a => exact .accepted a
  | rejected hcause => exact .rejected hcause

theorem Iban.FirstFault.ne_unspecified {registry : Registry} {cs : List Char}
    {cause : Rejection.Cause} (h : FirstFault registry cs cause) : cause ≠ .unspecified := by
  rcases h with - | ⟨-, - | - | - | -⟩
  all_goals nofun

theorem Iban.parse_outcome (input : String) (registry : Registry) :
    Outcome Iban.kind input (parse input registry) := by
  have hspec := parse_spec input registry
  generalize parse input registry = result at hspec ⊢
  cases hspec with
  | accepted => exact .accepted _
  | rejected hfault => exact .rejected hfault.ne_unspecified

theorem Bic.parse_outcome (input : String) : Outcome Bic.kind input (parse input) := by
  have hspec := parse_spec input
  generalize parse input = result at hspec ⊢
  cases hspec with
  | accepted => exact .accepted _
  | malformed => exact .rejected nofun
  | unknownCountry => exact .rejected nofun

/-- A creditor identifier fares like the IBAN without its business code. -/
theorem CreditorIdentifier.parse_outcome (input : String) (registry : Registry) :
    Outcome CreditorIdentifier.kind input (parse input registry) := by
  by_cases hwell : WellFormed (canonicalChars input.toList)
  · obtain ⟨code, digits, business, body, hcs, hcode, hdigits, hbusiness⟩ := hwell.exists_segments
    rw [parse_eq_parse_iban hcs hcode hdigits hbusiness hwell registry]
    apply Outcome.about ⟨CreditorIdentifier.kind, input⟩
    apply Outcome.map
    apply Iban.parse_outcome
  · rw [parse_of_not_wellFormed hwell]
    exact .rejected nofun

theorem Identifier.parse_outcome {kind : Kind} (hkind : kind ≠ .unspecified)
    (registry : Option Registry) (input : String) :
    Outcome kind.label input (parse kind registry input) := by
  cases kind with
  | iban =>
    rw [parse_iban]
    exact (Iban.parse_outcome input _).map iban
  | bic =>
    rw [parse_bic]
    exact (Bic.parse_outcome input).map bic
  | creditor =>
    rw [parse_creditor]
    exact (CreditorIdentifier.parse_outcome input _).map creditor
  | unspecified => exact absurd rfl hkind

/-! ## What is told -/

/-- A rejection is told with the kind and the wording of the failure. -/
theorem Log.Event.message_rejection (kind : String) (failure : Failure) :
    (Event.rejection kind failure).message = .ok (kind ++ " rejected: " ++ failure.message) := by
  let qs : List (List Char) := [" rejected: ".toList, []]
  have hformat : format ([] ++ Template.behindMarks qs) (.texts [kind, failure.message]) = _ :=
    format_texts List.not_mem_nil (by decide) rfl
  have htemplate : [] ++ Template.behindMarks qs = "%s rejected: %s".toList := by decide
  rw [htemplate] at hformat
  refine (congrArg (Except.map String.ofList) hformat).trans ?_
  simp [Except.map, ← String.toList_inj, qs]

/-! ## Verdicts -/

namespace Verdict

/-- What is told of a result with this verdict: nothing with a yes, and with a no the failure. -/
structure Tells (kind : String) (result : Except Failure α) (verdict : Verdict) : Prop where
  yes : verdict.valid = true ↔ ∃ a, result = .ok a
  silent : verdict.valid = true → verdict.log = []
  told : verdict.valid = false → ∃ failure event, result = .error failure ∧
    verdict.log = [event] ∧ event.level = Log.debug ∧ event.kind = some kind ∧
    event.message = .ok (kind ++ " rejected: " ++ failure.message)

/-- There is a verdict on every text that is accepted or rejected. -/
theorem ofResult_spec {kind input : String} {result : Except Failure α}
    (h : Outcome kind input result) :
    ∃ verdict, ofResult kind result = .ok verdict ∧ Tells kind result verdict := by
  cases h with
  | accepted a =>
    refine ⟨⟨true, []⟩, rfl, ?_, fun _ => rfl, nofun⟩
    exact iff_of_true rfl ⟨a, rfl⟩
  | rejected =>
    refine ⟨⟨false, [_]⟩, rfl, ⟨nofun, nofun⟩, nofun, fun _ => ?_⟩
    refine ⟨_, _, rfl, rfl, rfl, rfl, ?_⟩
    apply Log.Event.message_rejection

/-- For each kind of identifiers, in every registry: a text is read, or rejected as it was typed for
one of the causes, and never fails in another way. There is a verdict on it in either case. It is
yes if the text is read, and nothing is told then; otherwise the rejection is told once, at the
level of debugging, with the kind and the wording of the very failure. What is no text is not valid,
and nothing is told. -/
theorem yes_iff_read (kind : Kind) (hkind : kind ≠ .unspecified) (registry : Option Registry) :
    (∀ input : String,
      ((∃ x, Identifier.ofInput kind registry (some input) = .ok x) ∨
        ∃ cause, cause ≠ .unspecified ∧ Identifier.ofInput kind registry (some input) =
          .error (.rejected ⟨kind.label, input, cause⟩)) ∧
      ∃ verdict, on kind registry (some input) = .ok verdict ∧
        Tells kind.label (Identifier.ofInput kind registry (some input)) verdict) ∧
    on kind registry none = .ok ⟨false, []⟩ := by
  refine ⟨fun input => ?_, rfl⟩
  have houtcome : Outcome kind.label input (Identifier.ofInput kind registry (some input)) :=
    Identifier.parse_outcome hkind registry input
  refine ⟨?_, ofResult_spec houtcome⟩
  generalize Identifier.ofInput kind registry (some input) = result at houtcome ⊢
  cases houtcome with
  | accepted x => exact .inl ⟨x, rfl⟩
  | rejected hcause => exact .inr ⟨_, hcause, rfl⟩

/-- An IBAN in groups and in small letters, and a BIC of no country. -/
theorem yes_iff_read_samples :
    (∃ verdict, on .iban none (some "gb82 west 1234 5698 7654 32") = .ok verdict ∧
      verdict.valid = true ∧ verdict.log = []) ∧
    ∃ verdict failure event, on .bic none (some "deut zz ff") = .ok verdict ∧
      Identifier.ofInput .bic none (some "deut zz ff") = .error failure ∧
      verdict.valid = false ∧ verdict.log = [event] ∧
      event.message = .ok (Bic.kind ++ " rejected: " ++ failure.message) := by
  constructor
  · obtain ⟨verdict, hon, htells⟩ :=
      ((yes_iff_read .iban nofun none).1 "gb82 west 1234 5698 7654 32").2
    have hyes := htells.yes.2 (exists_eq_ok (by decide +kernel))
    exact ⟨verdict, hon, hyes, htells.silent hyes⟩
  · obtain ⟨verdict, hon, htells⟩ := ((yes_iff_read .bic nofun none).1 "deut zz ff").2
    have hnone : (Identifier.ofInput .bic none (some "deut zz ff")).isOk = false := by
      decide +kernel
    have hno : verdict.valid = false := by
      rw [← Bool.not_eq_true, htells.yes]
      intro ⟨x, hx⟩
      rw [hx] at hnone
      cases hnone
    obtain ⟨failure, event, hread, hlog, -, -, hmessage⟩ := htells.told hno
    exact ⟨verdict, failure, event, hon, hread, hno, hlog, hmessage⟩

end Verdict

end BankCodes
