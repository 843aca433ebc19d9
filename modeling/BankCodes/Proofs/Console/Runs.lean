import BankCodes.Console
import BankCodes.Proofs.Bic.TestCode
import BankCodes.Proofs.CanonicalForm
import BankCodes.Proofs.Log.Setup
import BankCodes.Proofs.Making
import BankCodes.Proofs.Terminal.Host
import BankCodes.Proofs.Text.Words
import BankCodes.Proofs.Verdict

/-!
# What a run of the console comes to

A run adds nothing of its own to what the library makes of the arguments. Each failure that the
library has for arguments that are texts is a rejection, so that a run whose command line is read as
a command ends with an exit code, and the code says whether the library accepted the arguments. All
of this holds on every host. That an identifier is read again as it was made takes a host that
conforms.

* `run_of_reads`: a run is the report of its command, behind the log of the settings;
* `report_eq_answer`: the report is the answer of the library;
* `run_of_retyped`, `run_ibanBuild`, `run_creditorBuild`: runs with arguments that mean the same, and
  runs that make an identifier of parts and those that read it again;
* `console_agrees`: all of this for every command line that is read as a command.
-/

namespace BankCodes.Console

open Text

/-! ## Failures of the library -/

/-- A result that is there, or a rejection. -/
inductive Judged : Except Failure α → Prop where
  | accepted (x : α) : Judged (.ok x)
  | rejected (r : Rejection) : Judged (.error (.rejected r))

theorem judged_of_outcome {kind input : String} {result : Except Failure α}
    (h : BankCodes.Outcome kind input result) : Judged result := by
  cases h with
  | accepted x => exact .accepted x
  | rejected => exact .rejected _

theorem Judged.map {result : Except Failure α} (f : α → β) (h : Judged result) :
    Judged (result.map f) := by
  cases h with
  | accepted x => exact .accepted (f x)
  | rejected r => exact .rejected r

/-- A text that is given for a country is one, or is rejected. -/
theorem exists_rejection_of_useless {kind text : String} {failure : Failure}
    (h : (CountryArgument.code text).Useless kind failure) : ∃ r, failure = .rejected r := by
  cases h with
  | unknown => exact ⟨_, rfl⟩

theorem judged_ofParts_iban (country bban : String) :
    Judged (Iban.ofParts (.code country) (some bban)) := by
  cases hresult : Iban.ofParts (.code country) (some bban) with
  | ok x => exact .accepted x
  | error failure =>
    cases Iban.ofParts_eq_error_iff.1 hresult with
    | country huseless =>
      obtain ⟨r, rfl⟩ := exists_rejection_of_useless huseless
      exact .rejected r
    | body => exact .rejected _

theorem judged_ofParts_creditor (country businessCode nationalId : String) :
    Judged (CreditorIdentifier.ofParts (.code country) (some businessCode) (some nationalId)) := by
  cases hresult :
    CreditorIdentifier.ofParts (.code country) (some businessCode) (some nationalId) with
  | ok y => exact .accepted y
  | error failure =>
    cases CreditorIdentifier.ofParts_eq_error_iff.1 hresult with
    | country huseless =>
      obtain ⟨r, rfl⟩ := exists_rejection_of_useless huseless
      exact .rejected r
    | businessCode => exact .rejected _
    | body => exact .rejected _

/-! ## Operations -/

/-- What the library makes of the arguments of a command, as the rows that are shown for it. -/
def Command.operation? (settings : Settings) : Command → Option (Except Failure (List Row))
  | .iban words => some ((Iban.parse (joined words)).map (ibanRows settings.printable))
  | .ibanBuild country bban =>
    some ((Iban.ofParts (.code country) (some bban)).map (ibanRows settings.printable))
  | .bic code test => some ((Bic.parse code).map fun x => bicRows (if test then x.asTest else x))
  | .creditor words => some ((CreditorIdentifier.parse (joined words)).map creditorRows)
  | .creditorBuild country businessCode nationalId =>
    some ((CreditorIdentifier.ofParts (.code country) (some businessCode) (some nationalId)).map
      creditorRows)
  | .version | .scan _ => none

/-- The report on a result: its rows, or the wording of the failure. -/
def answer : Except Failure (List Row) → Report
  | .ok rows => ⟨[], rowLines rows, 0⟩
  | .error failure => ⟨[], ["INVALID " ++ failure.message], 1⟩

theorem reportResult_eq_answer {result : Except Failure α} (h : Judged result)
    (rows : α → List Row) : reportResult rows result = .ok (answer (result.map rows)) := by
  cases h with
  | accepted x => rfl
  | rejected r => rfl

/-- Every BIC that is read has a test code. -/
theorem bind_toTest (code : String) (test : Bool) :
    (Bic.parse code >>= fun x => if test then x.toTest else .ok x) =
      (Bic.parse code).map fun x => if test then x.asTest else x := by
  cases hx : Bic.parse code with
  | error failure => rfl
  | ok x =>
    have htest := (Bic.parse_eq_ok_iff.1 hx).1.toTest_eq
    cases test with
    | false => rfl
    | true => exact htest

/-- The report of a command is the answer of the library. -/
theorem report_eq_answer {settings : Settings} {command : Command}
    {result : Except Failure (List Row)} (h : command.operation? settings = some result) :
    command.report settings = .ok (answer result) := by
  cases command with
  | iban words =>
    obtain rfl := Option.some.inj h
    rw [Command.report, reportResult_eq_answer (judged_of_outcome (Iban.parse_outcome _ _))]
  | ibanBuild country bban =>
    obtain rfl := Option.some.inj h
    rw [Command.report, reportResult_eq_answer (judged_ofParts_iban country bban)]
  | bic code test =>
    obtain rfl := Option.some.inj h
    have hjudged := (judged_of_outcome (Bic.parse_outcome code)).map fun x =>
      if test then x.asTest else x
    rw [Command.report, bind_toTest, reportResult_eq_answer hjudged]
    cases Bic.parse code <;> rfl
  | creditor words =>
    obtain rfl := Option.some.inj h
    rw [Command.report,
      reportResult_eq_answer (judged_of_outcome (CreditorIdentifier.parse_outcome _ _))]
  | creditorBuild country businessCode nationalId =>
    obtain rfl := Option.some.inj h
    rw [Command.report,
      reportResult_eq_answer (judged_ofParts_creditor country businessCode nationalId)]
  | version => cases h
  | scan => cases h

/-! ## Runs -/

/-- The environment names the level of the log, or names none and the usual one is meant. -/
def LevelOf (env : Environment) (level : Log.Level) : Prop :=
  Log.namedLevels.lookup (Settings.ofEnvironment env).logLevel = some level

/-- What a run writes for its settings and the events of its command. -/
def logOf (now : Log.Instant) (env : Environment) (level : Log.Level) (events : List Log.Event) :
    String :=
  let settings := Settings.ofEnvironment env
  writeEvents ⟨level, [if settings.jsonLog then .json else .plain]⟩ now
    (settingsEvent settings :: events)

/-- How a run ends that has carried out its command. -/
def ending (host : Host) (now : Log.Instant) (env : Environment) (level : Log.Level)
    (report : Report) : Outcome :=
  ⟨report.exitCode, some (logOf now env level report.events ++ host.print report.lines)⟩

theorem exitCode_ending (host : Host) (now : Log.Instant) (env : Environment) (level : Log.Level)
    (report : Report) : (ending host now env level report).exitCode = report.exitCode := rfl

/-- With the name of a level the log is set up, with one writer. -/
theorem setUp_of_levelOf {env : Environment} {level : Log.Level} (hlevel : LevelOf env level) :
    setUp (Settings.ofEnvironment env) =
      .ok ⟨level, [if (Settings.ofEnvironment env).jsonLog then .json else .plain]⟩ := by
  have hmeans : (Log.LevelArgument.name (Settings.ofEnvironment env).logLevel).Means level :=
    .name (Log.LevelArgument.lookup_namedLevels_iff.1 hlevel)
  simp only [setUp, Log.Root.run_setup_of_means hmeans]

section

variable {host : Host} {now : Log.Instant} {env : Environment} {level : Log.Level}
  {arguments : List String} {command : Command} (hlevel : LevelOf env level)
  (hreads : host.Reads arguments command)
include hlevel hreads

/-- A run ends with the report of its command. -/
theorem run_of_reads :
    run host now env arguments =
      (command.report (Settings.ofEnvironment env)).map (ending host now env level) := by
  have hread : host.read arguments = .command command := hreads
  rw [run, hread]
  simp only [setUp_of_levelOf hlevel]
  cases command.report (Settings.ofEnvironment env) <;> rfl

theorem run_of_operation {result : Except Failure (List Row)}
    (h : command.operation? (Settings.ofEnvironment env) = some result) :
    run host now env arguments = .ok (ending host now env level (answer result)) := by
  rw [run_of_reads hlevel hreads, report_eq_answer h]
  rfl

end

/-- Lines that are shown as they are, are written so. -/
theorem print_of_verbatim {host : Host} {lines : List String} (h : host.Verbatim lines) :
    host.print lines = String.join (lines.map (· ++ "\n")) := by
  have hlines : lines.map (fun line => host.shown line ++ "\n") = lines.map (· ++ "\n") := by
    apply List.map_congr_left
    intro line hline
    rw [h line hline]
  rw [Host.print, hlines]

/-- The run ends with the code, and behind the log the lines are shown. They are written as they are
if the host shows them so. -/
structure EndsWith (host : Host) (now : Log.Instant) (env : Environment) (level : Log.Level)
    (arguments : List String) (code : Nat) (lines : List String) : Prop where
  shown : run host now env arguments = .ok ⟨code, some (logOf now env level [] ++ host.print lines)⟩
  verbatim : host.Verbatim lines → run host now env arguments =
    .ok ⟨code, some (logOf now env level [] ++ String.join (lines.map (· ++ "\n")))⟩

/-- The run ends as the result says: with 0 and its rows, or with 1 and the wording of the failure.
-/
structure Answers (host : Host) (now : Log.Instant) (env : Environment) (level : Log.Level)
    (arguments : List String) (result : Except Failure (List Row)) : Prop where
  ended : ∃ outcome, run host now env arguments = .ok outcome ∧
    (outcome.exitCode = 0 ↔ ∃ rows, result = .ok rows)
  accepted : ∀ rows, result = .ok rows →
    EndsWith host now env level arguments 0 (rowLines rows)
  rejected : ∀ failure, result = .error failure →
    EndsWith host now env level arguments 1 ["INVALID " ++ failure.message]

theorem endsWith_of_run {host : Host} {now : Log.Instant} {env : Environment} {level : Log.Level}
    {arguments : List String} {code : Nat} {lines : List String}
    (h : run host now env arguments = .ok (ending host now env level ⟨[], lines, code⟩)) :
    EndsWith host now env level arguments code lines := by
  refine ⟨h, fun hverbatim => ?_⟩
  rw [← print_of_verbatim hverbatim]
  exact h

theorem answers_of_run {host : Host} {now : Log.Instant} {env : Environment} {level : Log.Level}
    {arguments : List String} {result : Except Failure (List Row)}
    (h : run host now env arguments = .ok (ending host now env level (answer result))) :
    Answers host now env level arguments result := by
  cases result with
  | ok rows =>
    refine ⟨⟨_, h, iff_of_true rfl ⟨rows, rfl⟩⟩, ?_, nofun⟩
    rintro _ ⟨⟩
    exact endsWith_of_run h
  | error failure =>
    refine ⟨⟨_, h, iff_of_false Nat.one_ne_zero nofun⟩, nofun, ?_⟩
    rintro _ ⟨⟩
    exact endsWith_of_run h

/-! ## Words that mean the same -/

/-- The spaces between words are of no account. -/
theorem canonical_joined (words : List String) :
    canonical (joined words) = canonical (String.join words) := by
  rw [canonical_eq_iff, joined, String.toList_intercalate, String.toList_join]
  cases words with
  | nil => rfl
  | cons word words =>
    have hspaced : [' '].intercalate ((word :: words).map String.toList) =
        spaced word.toList (words.map String.toList) := Iban.intercalate_space _ _
    show canonicalChars ([' '].intercalate _) = _
    rw [hspaced, canonicalChars_spaced, List.flatMap_cons, List.flatMap_def]

/-- Results that differ in the text of a rejection at most have answers with the same code, and are
the same if this is 0. -/
theorem answer_mapError (result : Except Failure (List Row)) (f : Failure → Failure) :
    (answer result).exitCode = (answer (result.mapError f)).exitCode ∧
      ((answer result).exitCode = 0 → result.mapError f = result) := by
  cases result with
  | ok rows => exact ⟨rfl, fun _ => rfl⟩
  | error failure => exact ⟨rfl, nofun⟩

/-! ## Scans -/

theorem scanRows_eq_nil_iff {text : String} :
    scanRows text = [] ↔ (Scan.ibans text).found = [] ∧ (Scan.bics text).found = [] ∧
      (Scan.creditorIdentifiers text).found = [] := by
  rw [scanRows, List.append_eq_nil_iff, List.append_eq_nil_iff, List.map_eq_nil_iff,
    List.map_eq_nil_iff, List.map_eq_nil_iff, and_assoc]

/-- A scan has the code 1 if there are no rows, and 0 otherwise. -/
theorem exitCode_reportScan (text : String) :
    (reportScan text).exitCode = if scanRows text = [] then 1 else 0 := by
  unfold reportScan
  cases scanRows text <;> rfl

/-! ## All runs -/

/-- Capital letters and digits are no option. -/
theorem plain_of_capitals {s : String} (h : ∀ c ∈ s.toList, c.isUpper = true ∨ c.isDigit = true) :
    Plain s := by
  intro hhead
  exact absurd (h '-' (List.mem_of_head? hhead)) (by decide)

section

variable {host : Host} {now : Log.Instant} {env : Environment} {level : Log.Level}
  (hlevel : LevelOf env level)
include hlevel

/-- Runs for texts of one canonical form end with the same code, and in the same way if it is 0. -/
theorem run_of_retyped (parse : String → Except Failure α) (rows : α → List Row)
    {make : List String → Command}
    (hmake : ∀ words, (make words).operation? (Settings.ofEnvironment env) =
      some ((parse (joined words)).map rows))
    (habout : ∀ s t, canonical s = canonical t → ∃ f, (parse s).mapError f = parse t)
    {arguments arguments' words words' : List String} (hreads : host.Reads arguments (make words))
    (hreads' : host.Reads arguments' (make words'))
    (hsame : canonical (String.join words) = canonical (String.join words')) :
    ∃ outcome outcome', run host now env arguments = .ok outcome ∧
      run host now env arguments' = .ok outcome' ∧ outcome.exitCode = outcome'.exitCode ∧
      (outcome.exitCode = 0 → outcome = outcome') := by
  rw [← canonical_joined, ← canonical_joined] at hsame
  obtain ⟨f, hf⟩ := habout _ _ hsame
  obtain ⟨hcode, hequal⟩ := answer_mapError ((parse (joined words)).map rows) f
  rw [mapError_map, hf] at hcode hequal
  refine ⟨_, _, run_of_operation hlevel hreads (hmake words),
    run_of_operation hlevel hreads' (hmake words'), hcode, fun hzero => ?_⟩
  rw [hequal hzero]

/-- To make an IBAN shows what is shown when it is read. -/
theorem run_ibanBuild (hconforms : host.Conforms) {arguments : List String} {country bban : String}
    {x : Iban} (hreads : host.Reads arguments (.ibanBuild country bban))
    (hx : Iban.ofParts (.code country) (some bban) = .ok x) :
    run host now env arguments = run host now env ["iban", x.text] := by
  have hmade := (Iban.ofParts_eq_ok_iff.1 hx).2.2
  have hplain : ∀ word ∈ [x.text], Plain word :=
    List.forall_mem_singleton.2 (plain_of_capitals hmade.text_capitals)
  have hreads' := hconforms.reads (.iban (by simp) hplain)
  have hread : Iban.parse (joined [x.text]) = .ok x := hmade.valid.parse_text
  rw [run_of_operation hlevel hreads rfl, run_of_operation hlevel hreads' rfl, hx, hread]

/-- To make a creditor identifier shows what is shown when it is read. -/
theorem run_creditorBuild (hconforms : host.Conforms) {arguments : List String}
    {country businessCode nationalId : String} {y : CreditorIdentifier}
    (hreads : host.Reads arguments (.creditorBuild country businessCode nationalId))
    (hy : CreditorIdentifier.ofParts (.code country) (some businessCode) (some nationalId) = .ok y) :
    run host now env arguments = run host now env ["ci", y.text] := by
  have hmade := (CreditorIdentifier.ofParts_eq_ok_iff.1 hy).2.2.2
  have hplain : ∀ word ∈ [y.text], Plain word :=
    List.forall_mem_singleton.2 (plain_of_capitals hmade.text_capitals)
  have hreads' := hconforms.reads (.creditor (by simp) hplain)
  have hread : CreditorIdentifier.parse (joined [y.text]) = .ok y := hmade.parse_shipped
  rw [run_of_operation hlevel hreads rfl, run_of_operation hlevel hreads' rfl, hy, hread]

/-- A scan ends with 0 if one of the searches finds something, and with 1 if none does. -/
theorem run_scan {arguments words : List String} (hreads : host.Reads arguments (.scan words)) :
    ∃ outcome, run host now env arguments = .ok outcome ∧
      (outcome.exitCode = 0 ↔ (Scan.ibans (joined words)).found ≠ [] ∨
        (Scan.bics (joined words)).found ≠ [] ∨
        (Scan.creditorIdentifiers (joined words)).found ≠ []) ∧
      (outcome.exitCode = 0 ∨ outcome.exitCode = 1) := by
  have hrun : run host now env arguments =
      .ok (ending host now env level (reportScan (joined words))) := by
    rw [run_of_reads hlevel hreads, Command.report]
    rfl
  refine ⟨_, hrun, ?_⟩
  rw [exitCode_ending, exitCode_reportScan]
  split
  · next hnone =>
    obtain ⟨hibans, hbics, hcreditors⟩ := scanRows_eq_nil_iff.1 hnone
    exact ⟨iff_of_false Nat.one_ne_zero (by simp [hibans, hbics, hcreditors]), .inr rfl⟩
  · next hsome =>
    rw [scanRows_eq_nil_iff, not_and_or, not_and_or] at hsome
    exact ⟨iff_of_true rfl hsome, .inl rfl⟩

end

/-- On every host that reads command lines in order as they are meant, and in every environment with
the name of a level: a run whose command line is read as a command comes to what the library makes of
the arguments. It ends with 0 and shows the parts if they are accepted, and with 1 and the wording of
the rejection otherwise, and what is written are these very lines if the host shows them as they are.
For IBANs and creditor identifiers, arguments that are the same in canonical form, put together, lead
to the same code, and to the same output if it is 0. To make an identifier of parts shows what is
shown when it is read. A scan ends with 0 if and only if one of the three searches finds something.
-/
theorem console_agrees (host : Host) (hconforms : host.Conforms) (now : Log.Instant)
    {env : Environment} {level : Log.Level} (hlevel : LevelOf env level) :
    (∀ arguments command result,
      InOrder arguments command ∨ host.Reads arguments command →
        command.operation? (Settings.ofEnvironment env) = some result →
          Answers host now env level arguments result) ∧
    (∀ make, make = Command.iban ∨ make = Command.creditor →
      ∀ arguments arguments' words words', host.Reads arguments (make words) →
        host.Reads arguments' (make words') →
        canonical (String.join words) = canonical (String.join words') →
          ∃ outcome outcome', run host now env arguments = .ok outcome ∧
            run host now env arguments' = .ok outcome' ∧ outcome.exitCode = outcome'.exitCode ∧
            (outcome.exitCode = 0 → outcome = outcome')) ∧
    (∀ arguments country bban x, host.Reads arguments (.ibanBuild country bban) →
      Iban.ofParts (.code country) (some bban) = .ok x →
        run host now env arguments = run host now env ["iban", x.text]) ∧
    (∀ arguments country businessCode nationalId y,
      host.Reads arguments (.creditorBuild country businessCode nationalId) →
      CreditorIdentifier.ofParts (.code country) (some businessCode) (some nationalId) = .ok y →
        run host now env arguments = run host now env ["ci", y.text]) ∧
    ∀ arguments words, host.Reads arguments (.scan words) →
      ∃ outcome, run host now env arguments = .ok outcome ∧
        (outcome.exitCode = 0 ↔ (Scan.ibans (joined words)).found ≠ [] ∨
          (Scan.bics (joined words)).found ≠ [] ∨
          (Scan.creditorIdentifiers (joined words)).found ≠ []) ∧
        (outcome.exitCode = 0 ∨ outcome.exitCode = 1) := by
  refine ⟨?_, ?_, ?_, ?_, ?_⟩
  · intro arguments command result hreads hresult
    exact answers_of_run (run_of_operation hlevel (hreads.elim hconforms.reads id) hresult)
  · rintro make (rfl | rfl) arguments arguments' words words' hreads hreads' hsame
    · exact run_of_retyped hlevel (fun s => Iban.parse s) _ (fun _ => rfl)
        (fun s t h => ⟨_, Iban.parse_about h _⟩) hreads hreads' hsame
    · exact run_of_retyped hlevel (fun s => CreditorIdentifier.parse s) _ (fun _ => rfl)
        (fun s t h => ⟨_, CreditorIdentifier.parse_about h _⟩) hreads hreads' hsame
  · intro arguments country bban x hreads hx
    exact run_ibanBuild hlevel hconforms hreads hx
  · intro arguments country businessCode nationalId y hreads hy
    exact run_creditorBuild hlevel hconforms hreads hy
  · intro arguments words hreads
    exact run_scan hlevel hreads

/-- On the terminal, where nothing is set in the environment: an IBAN whose groups are several
arguments, the same made of its parts, and a creditor identifier with wrong check digits. -/
theorem console_agrees_samples :
    (Terminal.host Terminal.usualWidth).Conforms ∧ LevelOf [] Log.warning ∧
    (∃ x, Iban.ofParts (.code "gb") (some "west 123456 98765432") = .ok x ∧
      run (Terminal.host Terminal.usualWidth) .epoch []
          ["iban-build", "--country", "gb", "--bban", "west 123456 98765432"] =
        run (Terminal.host Terminal.usualWidth) .epoch [] ["iban", x.text]) ∧
    run (Terminal.host Terminal.usualWidth) .epoch []
        ["iban", "gb82", "west", "1234 5698", "7654 32"] =
      .ok ⟨0, some ("iban          GB82 WEST 1234 5698 7654 32\ncountry       GB (United Kingdom)\n" ++
        "check digits  82\nbban          WEST12345698765432\n")⟩ ∧
    run (Terminal.host Terminal.usualWidth) .epoch [] ["ci", "de98", "zzz", "09999999998"] =
      .ok ⟨1, some "INVALID 'de98 zzz 09999999998' check digits are incorrect\n"⟩ := by
  have hlevel : LevelOf [] Log.warning := by
    unfold LevelOf
    decide +kernel
  have hlog : logOf .epoch [] Log.warning [] = "" := by decide +kernel
  obtain ⟨hanswers, -, hbuild, -⟩ :=
    console_agrees _ (Terminal.conforms_host Terminal.usualWidth) .epoch hlevel
  refine ⟨Terminal.conforms_host _, hlevel, ?_, ?_, ?_⟩
  · obtain ⟨x, hx⟩ : ∃ x, Iban.ofParts (.code "gb") (some "west 123456 98765432") = .ok x :=
      exists_eq_ok (by decide +kernel)
    refine ⟨x, hx, hbuild _ _ _ x ?_ hx⟩
    exact (Terminal.conforms_host _).reads (.ibanBuild _ _)
  · have horder := @InOrder.iban ["gb82", "west", "1234 5698", "7654 32"] (by simp) (by decide)
    have hends := (hanswers _ _ _ (.inl horder) rfl).accepted
      [("iban", "GB82 WEST 1234 5698 7654 32"), ("country", "GB (United Kingdom)"),
        ("check digits", "82"), ("bban", "WEST12345698765432")] (by decide +kernel)
    rw [hends.verbatim (Terminal.verbatim_host _ (by decide +kernel)), hlog]
    decide +kernel
  · have horder := @InOrder.creditor ["de98", "zzz", "09999999998"] (by simp) (by decide)
    have hends := (hanswers _ _ _ (.inl horder) rfl).rejected
      (.rejected ⟨CreditorIdentifier.kind, "de98 zzz 09999999998", .wrongCheckDigits⟩)
      (by decide +kernel)
    rw [hends.verbatim (Terminal.verbatim_host _ (by decide +kernel)), hlog]
    decide +kernel

end BankCodes.Console
