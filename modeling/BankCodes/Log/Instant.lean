import BankCodes.Log.Date

/-!
# Instants

Time is counted in seconds from the start of 1970, Universal Time. The log shows an instant in two
ways: to the second, rounded down, and to the microsecond, rounded to the nearest one. Neither can
be found from the other, so an instant keeps both.
-/

namespace BankCodes.Log

/-- A point in time, as exactly as the log can show it. -/
structure Instant where
  /-- The second it lies in. -/
  second : Int
  /-- The microsecond it is nearest to. -/
  microsecond : Int
deriving DecidableEq, Repr

namespace Instant

/-- The start of 1970. -/
def epoch : Instant := ⟨0, 0⟩

/-- The whole number nearest to `x`, the even one of two. -/
def nearest (x : Float) : Int :=
  let below := x.floor.toInt64.toInt
  let part := x - x.floor
  if part < 0.5 || (part == 0.5 && below % 2 == 0) then below else below + 1

/-- The instant of a number of seconds. The fraction is scaled to microseconds before it is rounded,
so the scaling itself rounds as all arithmetic on such numbers does. -/
def ofSeconds (x : Float) : Instant :=
  let whole := if x < 0 then x.ceil else x.floor
  ⟨x.floor.toInt64.toInt, whole.toInt64.toInt * 1000000 + nearest ((x - whole) * 1000000)⟩

/-- The instant to the microsecond, which is left out if it is zero, with the offset from Universal
Time. -/
def exactText (t : Instant) : List Char :=
  let second := t.microsecond.fdiv 1000000
  let micros := (t.microsecond.fmod 1000000).toNat
  let date := Date.ofSecond second
  Text.padded 10 4 date.year.toNat ++ date.afterYear ++ 'T' :: timeOfDay second ++
    (if micros = 0 then [] else '.' :: Text.padded 10 6 micros) ++
    ['+', '0', '0', ':', '0', '0']

/-- The instant to the second. -/
def plainText (t : Instant) : List Char :=
  let date := Date.ofSecond t.second
  Text.numeral date.year.toNat ++ date.afterYear ++ ' ' :: timeOfDay t.second

end Instant

end BankCodes.Log
