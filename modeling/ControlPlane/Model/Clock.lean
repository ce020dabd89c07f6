import ControlPlane.Model.Store

/-!
# Instants in milliseconds

`Date.parse` drops everything below a millisecond, and `toISOString` writes
whole milliseconds, so a watermark is an instant cut down to its millisecond.
-/

namespace ControlPlane

/-- Nanoseconds in a millisecond. -/
abbrev nsPerMs : Int := 1000000

/-- `Date.parse` of an ISO 8601 text that denotes the instant `t`: epoch milliseconds. -/
def dateParse (t : Int) : Int := t / nsPerMs

/-- `new Date(ms).toISOString()`. -/
def toISOString (ms : Int) : Int := ms * nsPerMs

/-- A time is read back as it was written. -/
@[simp] theorem dateParse_toISOString (ms : Int) : dateParse (toISOString ms) = ms := by
  simp only [dateParse, toISOString, nsPerMs]; omega

/-- Later texts are later times. -/
theorem dateParse_mono {s t : Int} (h : s ≤ t) : dateParse s ≤ dateParse t :=
  Int.ediv_le_ediv (by decide) h

end ControlPlane
