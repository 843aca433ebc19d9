import BankCodes.Log.Record
import BankCodes.Proofs.Stages
import BankCodes.Text.Pieces
import Mathlib.Data.List.Basic

/-!
# The plain line of a record

A record with a message is written in columns, with the report on an error below:

    time | level | logger | message
    report

Time and level hold no bar. Unless the logger holds one, cutting at bars gives the columns back, and
everything behind the third bar is message and report, whatever they hold. Nothing is escaped: a
line break in a message is one in the log.

* `toList_plainLines`: the layout;
* `pieces_plainLines`: the columns read back;
* `plain_line`: the plain form of every record.
-/

namespace BankCodes.Log

open Text

/-! ## Columns without a bar -/

theorem bar_notMem_padded (width n : Nat) : '|' ∉ padded 10 width n := by
  rw [padded, List.leftpad, List.mem_append, List.mem_replicate, not_or]
  exact ⟨fun h => absurd h.2 (by decide), notMem_numeral rfl n⟩

theorem Instant.bar_notMem_plainText (t : Instant) : '|' ∉ t.plainText := by
  simp [plainText, Date.afterYear, timeOfDay, bar_notMem_padded, notMem_numeral]

/-- Most levels have no name and are told by number. -/
theorem bar_notMem_levelName (level : Level) : '|' ∉ (levelName level).toList := by
  have hrepr : ∀ n : Nat, '|' ∉ n.repr.toList := by
    intro n
    rw [Nat.repr_eq_ofList_toDigits, String.toList_ofList]
    exact notMem_numeral rfl n
  have hnumber : '|' ∉ (toString level).toList := by
    cases level with
    | ofNat n => exact hrepr n
    | negSucc n =>
      show '|' ∉ ("-" ++ (n + 1).repr).toList
      rw [String.toList_append, List.mem_append, not_or]
      exact ⟨by decide, hrepr (n + 1)⟩
  unfold levelName
  split_ifs
  case neg =>
    rw [String.toList_append, List.mem_append, not_or]
    exact ⟨by decide, hnumber⟩
  all_goals decide

namespace Record

/-! ## The layout -/

/-- Whether a text ends in a line break is seen at its end, unless this is empty. -/
theorem reported_append {front : String} (hfront : front.toList.getLast? = some ' ')
    (text : String) (error : Option String) :
    reported (front ++ text) error = front ++ reported text error := by
  have hlast : ((front ++ text).toList.getLast? == some '\n') =
      (text.toList.getLast? == some '\n') := by
    rw [String.toList_append, List.getLast?_append, hfront]
    cases text.toList.getLast? <;> rfl
  unfold reported
  split
  · rfl
  · rfl
  · rw [hlast]
    split <;> simp only [String.append_assoc]

/-- The columns behind the time, each to stand behind a bar. -/
def columns (r : Record) (last : String) : List (List Char) :=
  [' ' :: (levelName r.level).toList ++ [' '], ' ' :: r.logger.toList ++ [' '], ' ' :: last.toList]

theorem toList_plainLines (r : Record) (message : String) :
    (r.plainLines message).toList =
      r.created.plainText ++ ' ' :: rejoined '|' (r.columns (reported message r.error)) := by
  have hfront : ∀ front : String, (front ++ " | ").toList.getLast? = some ' ' := by
    intro front
    rw [String.toList_append, List.getLast?_append]
    rfl
  rw [plainLines, reported_append (hfront _)]
  simp [columns, rejoined]

/-- Cut at bars, the line has the time, the level and the logger first. The last column goes on to
the end and may hold bars itself. -/
theorem pieces_plainLines {r : Record} (hlogger : '|' ∉ r.logger.toList) (message : String) :
    ∃ q qs, q ++ rejoined '|' qs = ' ' :: (reported message r.error).toList ∧
      pieces '|' (r.plainLines message).toList =
        (r.created.plainText ++ [' '],
          (' ' :: (levelName r.level).toList ++ [' ']) :: (' ' :: r.logger.toList ++ [' ']) ::
            q :: qs) := by
  let last := ' ' :: (reported message r.error).toList
  let q := (pieces '|' last).1
  let qs := (pieces '|' last).2
  have hlast : q ++ rejoined '|' qs = last := append_rejoined_pieces '|' last
  refine ⟨q, qs, hlast, ?_⟩
  have hrejoined : (r.plainLines message).toList = (r.created.plainText ++ [' ']) ++ rejoined '|'
      ((' ' :: (levelName r.level).toList ++ [' ']) :: (' ' :: r.logger.toList ++ [' ']) ::
        q :: qs) := by
    rw [toList_plainLines, columns]
    simp only [rejoined, List.flatMap_cons, List.flatMap_nil, List.append_nil] at hlast ⊢
    simp [← hlast, last]
  rw [hrejoined]
  apply pieces_append_rejoined
  intro p hp
  rw [List.mem_cons, List.mem_cons, List.mem_cons] at hp
  rcases hp with rfl | rfl | rfl | hp
  · simp [r.created.bar_notMem_plainText]
  · simp [bar_notMem_levelName r.level]
  · simp [hlogger]
  · exact separator_notMem_pieces '|' last p hp

/-- Records whose loggers hold no bar have the same lines if and only if they agree in each column
and in what stands behind. -/
theorem plainLines_eq_plainLines_iff {r other : Record} (hr : '|' ∉ r.logger.toList)
    (hother : '|' ∉ other.logger.toList) {message message' : String} :
    r.plainLines message = other.plainLines message' ↔
      r.created.plainText = other.created.plainText ∧ levelName r.level = levelName other.level ∧
        r.logger = other.logger ∧ reported message r.error = reported message' other.error := by
  constructor
  · intro h
    obtain ⟨q, qs, hq, hcut⟩ := pieces_plainLines hr message
    obtain ⟨q', qs', hq', hcut'⟩ := pieces_plainLines hother message'
    rw [h, hcut'] at hcut
    injection hcut with htime hcolumns
    injection hcolumns with hlevel hcolumns
    injection hcolumns with hlogger hlast
    injection hlast with hlast hbehind
    rw [← hlast, ← hbehind, hq'] at hq
    refine ⟨(List.append_cancel_right htime).symm, ?_, ?_, ?_⟩
    · simpa [String.toList_inj] using hlevel.symm
    · simpa [String.toList_inj] using hlogger.symm
    · simpa [String.toList_inj] using hq.symm
  · rintro ⟨htime, hlevel, hlogger, hlast⟩
    rw [← String.toList_inj, toList_plainLines, toList_plainLines, columns, columns, htime, hlevel,
      hlogger, hlast]

/-- A record whose arguments do not fit its template has no plain line, for the same reason as it
has no message. Every other record has its columns, which are read back if the logger holds no bar:
a record with the same line has the same time, level and logger, and message and report are the same
when put together. -/
theorem plain_line (r : Record) :
    (∀ misfit, r.message = .error misfit ↔ r.plain = .error misfit) ∧
    ∀ message, r.message = .ok message →
      ∃ line, r.plain = .ok line ∧
        line.toList =
          r.created.plainText ++ ' ' :: rejoined '|' (r.columns (reported message r.error)) ∧
        ∀ other : Record, '|' ∉ r.logger.toList → '|' ∉ other.logger.toList →
          (other.plain = .ok line ↔
            r.created.plainText = other.created.plainText ∧
              levelName r.level = levelName other.level ∧ r.logger = other.logger ∧
              ∃ message', other.message = .ok message' ∧
                reported message r.error = reported message' other.error) := by
  constructor
  · exact fun misfit => map_eq_error_iff.symm
  intro message hmessage
  have hplain : r.plain = .ok (r.plainLines message) := map_eq_ok_iff.2 ⟨message, hmessage, rfl⟩
  refine ⟨r.plainLines message, hplain, r.toList_plainLines message, ?_⟩
  intro other hr hother
  constructor
  · intro hsame
    obtain ⟨message', hmessage', hline⟩ := map_eq_ok_iff.1 hsame
    obtain ⟨htime, hlevel, hlogger, hlast⟩ :=
      (plainLines_eq_plainLines_iff hr hother).1 hline.symm
    exact ⟨htime, hlevel, hlogger, message', hmessage', hlast⟩
  · rintro ⟨htime, hlevel, hlogger, message', hmessage', hlast⟩
    refine map_eq_ok_iff.2 ⟨message', hmessage', ?_⟩
    exact ((plainLines_eq_plainLines_iff hr hother).2 ⟨htime, hlevel, hlogger, hlast⟩).symm

/-- A message ends in a line break, and a report follows; then the same without a break. -/
example :
    let r : Record :=
      { level := warning, logger := "bank", template := "no|bar\n", arguments := .texts [],
        kind := none, error := some (errorReport "ValueError" "x"), created := .epoch }
    r.plain = .ok "1970-01-01 00:00:00 | WARNING | bank | no|bar\nValueError: x" ∧
    { r with template := "no|bar" }.plain = r.plain := by
  decide +kernel

end Record

end BankCodes.Log
