import ControlPlane.ForStd.Calendar

/-!
# The billing period

`src/period.ts`: a UTC calendar month. An instant is its epoch milliseconds, as `getTime()`
gives it, within the range of a `Date`: a hundred million days before and after the epoch.
-/

namespace ControlPlane

/-- The milliseconds of a day. -/
def msPerDay : Int := 86400000

/-- `getUTCFullYear()`. -/
def utcFullYear (now : Int) : Int := Calendar.yearFromDay (now / msPerDay)

/-- `getUTCMonth()`, from zero. -/
def utcMonth (now : Int) : Int := Calendar.monthFromDay (now / msPerDay) % 12

/-- The last instant of a `Date`, and its first with the sign changed. -/
def maxTime : Int := 8640000000000000

/-- `new Date(Date.UTC(year, month, 1))`: a year from 0 to 99 is taken for one of the
    twentieth century, and a month past December is one of the next year. None is an invalid
    date, out of range, on which `toISOString` throws a `RangeError`. -/
def dateUTC (year month : Int) : Option Int :=
  let fullYear := if 0 ≤ year ∧ year ≤ 99 then 1900 + year else year
  let time := msPerDay * Calendar.firstDay (12 * fullYear + month)
  if -maxTime ≤ time ∧ time ≤ maxTime then some time else none

/-- `String(n).padStart(2, "0")` of a number of at most two digits. -/
def padStart2 (n : Int) : String := if n < 10 then "0" ++ toString n else toString n

/-- Period key for an instant, e.g. "2026-08". -/
def periodKey (now : Int) : String :=
  toString (utcFullYear now) ++ "-" ++ padStart2 (utcMonth now + 1)

/-- The bounds of a period. Where one is an invalid date the call throws instead. -/
structure PeriodBounds where
  key : String
  /-- Inclusive. -/
  start : Option Int
  /-- Exclusive: the first instant of the next period. -/
  stop : Option Int
deriving Repr, DecidableEq

/-- The calendar month of an instant, half open. -/
def periodBounds (now : Int) : PeriodBounds where
  key := periodKey now
  start := dateUTC (utcFullYear now) (utcMonth now)
  stop := dateUTC (utcFullYear now) (utcMonth now + 1)

end ControlPlane
