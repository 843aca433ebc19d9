import BankCodes.Text.Numeral

/-!
# Dates and times of day

A day is counted from 1 January 1970. Its date in the Gregorian calendar is found in the era of 400
years it falls into, whose years are taken to begin in March so that the leap day is the last one.
-/

namespace BankCodes.Log

/-- A date of the Gregorian calendar. -/
structure Date where
  year : Int
  month : Nat
  day : Nat
deriving DecidableEq, Repr

/-- The date of a day, counted from 1 January 1970. -/
def Date.ofDay (day : Int) : Date :=
  let fromMarch := day + 719468
  let era := fromMarch.fdiv 146097
  let dayOfEra := (fromMarch.fmod 146097).toNat
  let yearOfEra :=
    (dayOfEra - dayOfEra / 1460 + dayOfEra / 36524 - dayOfEra / 146096) / 365
  let dayOfYear := dayOfEra - (365 * yearOfEra + yearOfEra / 4 - yearOfEra / 100)
  let monthFromMarch := (5 * dayOfYear + 2) / 153
  let month := if monthFromMarch < 10 then monthFromMarch + 3 else monthFromMarch - 9
  ⟨era * 400 + yearOfEra + (if month ≤ 2 then 1 else 0), month,
    dayOfYear - (153 * monthFromMarch + 2) / 5 + 1⟩

/-- The month and the day of a date, as they follow its year. -/
def Date.afterYear (d : Date) : List Char :=
  '-' :: Text.padded 10 2 d.month ++ '-' :: Text.padded 10 2 d.day

/-- The time of day of a second, counted from the start of some day. -/
def timeOfDay (second : Int) : List Char :=
  let s := (second.fmod 86400).toNat
  Text.padded 10 2 (s / 3600) ++ ':' :: Text.padded 10 2 (s / 60 % 60) ++
    ':' :: Text.padded 10 2 (s % 60)

/-- The date of a second, counted from the start of 1 January 1970. -/
def Date.ofSecond (second : Int) : Date := .ofDay (second.fdiv 86400)

end BankCodes.Log
