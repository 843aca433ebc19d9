import BankCodes.Terminal

/-!
# The terminal as a host

The terminal reads arguments from left to right, and leaves those as they are that are no options of
any command (`readAfter_of_plain`). So command lines that are in order are read as they are meant
(`conforms_host`). Lines are shown as they are unless they have brackets, short codes or control
characters, or end in a space (`verbatim_host`).
-/

namespace BankCodes.Terminal

open Console (Command InOrder Plain Reading)

/-! ## Plain arguments -/

namespace Arguments

theorem token_of_plain (options : Options) {argument : String} (h : Plain argument) :
    token options argument = .other := by
  unfold Plain at h
  unfold token
  split <;> simp_all

/-- Plain arguments are left as they are. -/
theorem readAfter_of_plain (options : Options) (read : Arguments) {arguments : List String}
    (h : ∀ argument ∈ arguments, Plain argument) :
    readAfter options read arguments = some { read with others := read.others ++ arguments } := by
  induction arguments generalizing read with
  | nil => rw [readAfter, List.append_nil]
  | cons argument rest ih =>
    rw [List.forall_mem_cons] at h
    rw [readAfter, token_of_plain options h.1]
    show readAfter options _ rest = _
    rw [ih _ h.2, List.append_assoc]
    rfl

end Arguments

/-! ## Commands -/

/-- Plain arguments of a command that takes words are its words. -/
theorem readArguments_of_plain (name : CommandName) {make : List String → Command}
    (hmake : ∀ word words, ofArguments name ⟨[], [], word :: words⟩ = some (make (word :: words)))
    {words : List String} (hne : words ≠ []) (hplain : ∀ word ∈ words, Plain word) :
    readArguments name words = .command (make words) := by
  obtain ⟨word, words, rfl⟩ := List.exists_cons_of_ne_nil hne
  have hread : Arguments.read? (options name) (word :: words) = some ⟨[], [], word :: words⟩ := by
    rw [Arguments.read?, Arguments.readAfter_of_plain _ _ hplain, List.nil_append]
  have hhelp : Arguments.has ⟨[], [], word :: words⟩ helpFlag = false := rfl
  simp [readArguments, hread, hhelp, hmake]

/-- The terminal reads command lines in order as they are meant, whatever the width of its screen. -/
theorem conforms_host (width : Nat) : (host width).Conforms := by
  refine ⟨fun {arguments command} h => ?_⟩
  show readCommandLine arguments = .command command
  cases h with
  | version => rfl
  | iban hne hplain => exact readArguments_of_plain .iban (fun _ _ => rfl) hne hplain
  | creditor hne hplain => exact readArguments_of_plain .creditor (fun _ _ => rfl) hne hplain
  | scan hne hplain => exact readArguments_of_plain .scan (fun _ _ => rfl) hne hplain
  | @bic code hplain =>
    show readArguments .bic [code] = _
    rw [readArguments, Arguments.read?, Arguments.readAfter, Arguments.token_of_plain _ hplain]
    rfl
  | @testBic code hplain =>
    show readArguments .bic [code, "--test"] = _
    rw [readArguments, Arguments.read?, Arguments.readAfter, Arguments.token_of_plain _ hplain]
    rfl
  | ibanBuild => rfl
  | creditorBuild => rfl
  | creditorBuildWith => rfl

/-! ## Lines -/

/-- Ordinary lines are shown as they are. -/
theorem verbatim_host (width : Nat) {lines : List String}
    (h : lines.all (Display.isOrdinary ·.toList) = true) : (host width).Verbatim lines := by
  intro line hline
  show String.ofList (Display.shown width line.toList) = line
  rw [Display.shown_eq_self width (List.all_eq_true.1 h line hline), String.ofList_toList]

end BankCodes.Terminal
