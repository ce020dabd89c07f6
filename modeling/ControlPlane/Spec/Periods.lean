import ControlPlane.Model.Period
import Mathlib

/-!
# The billing periods tile time

A month is numbered through the years; its number is what the key writes down and what the
bounds are computed from, so an instant has a period's key exactly when it lies between the
period's bounds.

## Key results

- `periodKey_eq_iff`: the key is the number of the month
- `mem_period_iff`: the instants of a period are those with its key
- `periods_tile`: consecutive periods share no instant and leave no gap
-/

namespace ControlPlane

/-- The month of an instant, numbered through the years. -/
def monthOf (now : Int) : Int := Calendar.monthFromDay (now / msPerDay)

theorem utcFullYear_eq (now : Int) : utcFullYear now = monthOf now / 12 :=
  (Calendar.monthFromDay_div _).symm

theorem twelve_mul_year_add_month (now : Int) :
    12 * utcFullYear now + utcMonth now = monthOf now := by
  rw [utcFullYear_eq]
  show 12 * (monthOf now / 12) + monthOf now % 12 = _
  omega

/-! ## The months of time -/

/-- Month `n` begins no later than an instant that lies in it or in a later one. -/
theorem firstDay_le_iff (now n : Int) : msPerDay * Calendar.firstDay n ≤ now ↔ n ≤ monthOf now := by
  obtain ⟨hle, hlt⟩ := Calendar.monthFromDay_spec (now / msPerDay)
  -- a month begins with a day, so instants are compared by their days
  have hday : msPerDay * Calendar.firstDay n ≤ now ↔ Calendar.firstDay n ≤ now / msPerDay := by
    unfold msPerDay
    omega
  rw [hday]
  constructor
  · intro h
    exact Int.lt_add_one_iff.mp (Calendar.firstDay_lt_iff.mp (h.trans_lt hlt))
  · intro h
    refine le_trans ?_ hle
    rw [← not_lt, Calendar.firstDay_lt_iff]
    exact not_lt.mpr h

/-- The instants of month `n` are those between its first day and the next month's. -/
theorem monthOf_eq_iff (now n : Int) : monthOf now = n ↔
    msPerDay * Calendar.firstDay n ≤ now ∧ now < msPerDay * Calendar.firstDay (n + 1) := by
  rw [firstDay_le_iff, ← not_le, firstDay_le_iff]
  omega

/-- The first day of a month lies in it. -/
theorem monthOf_firstDay (n : Int) : monthOf (msPerDay * Calendar.firstDay n) = n := by
  rw [monthOf_eq_iff]
  refine ⟨le_rfl, ?_⟩
  have hlt := Calendar.firstDay_lt_iff.mpr (Int.lt_add_one_of_le (le_refl n))
  unfold msPerDay
  omega

/-! ## The bounds -/

/-- An instant of the years 0 to 99, whose bounds are taken from the twentieth century. -/
def TwoDigitYear (now : Int) : Prop := 0 ≤ utcFullYear now ∧ utcFullYear now ≤ 99

/-- The month whose first days `periodBounds` computes. -/
def boundsMonth (now : Int) : Int :=
  if 0 ≤ utcFullYear now ∧ utcFullYear now ≤ 99 then monthOf now + 12 * 1900 else monthOf now

theorem dateUTC_eq (now extra : Int) : dateUTC (utcFullYear now) (utcMonth now + extra) =
    let time := msPerDay * Calendar.firstDay (boundsMonth now + extra)
    if -maxTime ≤ time ∧ time ≤ maxTime then some time else none := by
  have hmonth := twelve_mul_year_add_month now
  unfold dateUTC boundsMonth
  dsimp only
  -- a year of two digits is taken for one of the twentieth century
  split
  · rw [show 12 * (1900 + utcFullYear now) + (utcMonth now + extra) =
      monthOf now + 12 * 1900 + extra by omega]
  · rw [show 12 * utcFullYear now + (utcMonth now + extra) = monthOf now + extra by omega]

/-- A bound that is a date is the first day of its month. -/
theorem start_eq {now start : Int} (h : (periodBounds now).start = some start) :
    start = msPerDay * Calendar.firstDay (boundsMonth now) := by
  have h : dateUTC (utcFullYear now) (utcMonth now) = some start := h
  rw [← add_zero (utcMonth now), dateUTC_eq, add_zero] at h
  dsimp only at h
  split at h
  · exact (Option.some.inj h).symm
  · cases h

theorem stop_eq {now stop : Int} (h : (periodBounds now).stop = some stop) :
    stop = msPerDay * Calendar.firstDay (boundsMonth now + 1) := by
  have h : dateUTC (utcFullYear now) (utcMonth now + 1) = some stop := h
  rw [dateUTC_eq] at h
  dsimp only at h
  split at h
  · exact (Option.some.inj h).symm
  · cases h

/-! ## The key -/

theorem padStart2_spec : ∀ m : Fin 12, (padStart2 ((m : Int) + 1)).toList.length = 2 := by decide

theorem padStart2_injective :
    ∀ m n : Fin 12, padStart2 ((m : Int) + 1) = padStart2 ((n : Int) + 1) → m = n := by decide

/-- A month's number is within the table of two-digit texts. -/
theorem utcMonth_cast (now : Int) : ∃ m : Fin 12, (m : Int) = utcMonth now := by
  -- a remainder of twelve
  have hrange : 0 ≤ utcMonth now ∧ utcMonth now < 12 := by
    unfold utcMonth
    omega
  exact ⟨⟨(utcMonth now).toNat, by omega⟩, by simp; omega⟩

/-- The key is the number of the month. -/
theorem periodKey_eq_iff (now now' : Int) :
    periodKey now = periodKey now' ↔ monthOf now = monthOf now' := by
  constructor
  · intro h
    obtain ⟨m, hm⟩ := utcMonth_cast now
    obtain ⟨n, hn⟩ := utcMonth_cast now'
    have hlist := congrArg String.toList h
    simp only [periodKey, ← hm, ← hn, String.toList_append] at hlist
    -- the last two characters are the month, so the rest is the year
    obtain ⟨hyear, hmonth⟩ := List.append_inj' hlist
      ((padStart2_spec m).trans (padStart2_spec n).symm)
    have hyear : utcFullYear now = utcFullYear now' :=
      Int.repr_injective (String.toList_inj.mp (List.append_cancel_right hyear))
    have hmonth : m = n := padStart2_injective m n (String.toList_inj.mp hmonth)
    rw [← twelve_mul_year_add_month, ← twelve_mul_year_add_month, hyear, ← hm, ← hn, hmonth]
  -- one month has one year and one number in it
  · intro h
    have hmonth : utcMonth now = utcMonth now' := congrArg (· % 12) h
    rw [periodKey, periodKey, utcFullYear_eq, utcFullYear_eq, h, hmonth]

/-- The instants between the bounds are those of the month that was computed. -/
theorem mem_bounds_iff {now start stop : Int} (hstart : (periodBounds now).start = some start)
    (hstop : (periodBounds now).stop = some stop) (now' : Int) :
    start ≤ now' ∧ now' < stop ↔ monthOf now' = boundsMonth now := by
  rw [monthOf_eq_iff, ← start_eq hstart, ← stop_eq hstop]

theorem boundsMonth_of_not {now : Int} (h : ¬TwoDigitYear now) : boundsMonth now = monthOf now :=
  if_neg h

/-- Where the bounds are dates: an instant lies between its own unless its year is below 100.
    Otherwise its period holds exactly the instants with its key, which have its bounds, and
    the period that begins where it ends has another key: the periods tile time. -/
theorem periods_tile {now start stop : Int} (hstart : (periodBounds now).start = some start)
    (hstop : (periodBounds now).stop = some stop) :
    (start ≤ now ∧ now < stop ↔ ¬TwoDigitYear now) ∧
    (¬TwoDigitYear now →
      (∀ now', (periodBounds now').key = (periodBounds now).key ↔ start ≤ now' ∧ now' < stop) ∧
      (∀ now', (periodBounds now').key = (periodBounds now).key →
        periodBounds now' = periodBounds now) ∧
      (¬TwoDigitYear stop → (periodBounds stop).start = some stop) ∧
      (periodBounds stop).key ≠ (periodBounds now).key) := by
  refine ⟨?_, fun hyear => ?_⟩
  · rw [mem_bounds_iff hstart hstop]
    -- of a year below 100 the bounds lie 1900 years later
    by_cases hyear : TwoDigitYear now
    · have hmonth : boundsMonth now = monthOf now + 12 * 1900 := if_pos hyear
      rw [hmonth]
      exact iff_of_false (by omega) (not_not.mpr hyear)
    · exact iff_of_true (boundsMonth_of_not hyear).symm hyear
  · have hmonth := boundsMonth_of_not hyear
    -- the end is the first day of the next month
    have hnext : monthOf stop = monthOf now + 1 := by
      rw [stop_eq hstop, hmonth, monthOf_firstDay]
    refine ⟨fun now' => ?_, fun now' hkey => ?_, fun hyear' => ?_, fun hkey => ?_⟩
    · rw [mem_bounds_iff hstart hstop, hmonth]
      exact periodKey_eq_iff now' now
    · have hsame := (periodKey_eq_iff now' now).mp hkey
      have hyears : utcFullYear now' = utcFullYear now := by
        rw [utcFullYear_eq, utcFullYear_eq, hsame]
      have hmonths : utcMonth now' = utcMonth now := congrArg (· % 12) hsame
      have hkey : periodKey now' = periodKey now := hkey
      rw [periodBounds, periodBounds, hkey, hyears, hmonths]
    · -- the end is a date, so it is one as a beginning
      have hvalid : dateUTC (utcFullYear now) (utcMonth now + 1) = some stop := hstop
      show dateUTC (utcFullYear stop) (utcMonth stop) = some stop
      rw [← add_zero (utcMonth stop), dateUTC_eq, add_zero, boundsMonth_of_not hyear', hnext,
        ← hmonth, ← dateUTC_eq]
      exact hvalid
    · have hmonth' := (periodKey_eq_iff _ _).mp hkey
      omega

/-- August 2026 holds its first instant and ends where September begins. -/
theorem periods_tile_august :
    (1785542400000 ≤ (1785542400000 : Int) ∧ (1785542400000 : Int) < 1788220800000) ∧
    (periodBounds 1788220800000).start = some 1788220800000 ∧
    (periodBounds 1788220800000).key ≠ (periodBounds 1785542400000).key := by
  have hyear (now : Int) (h : utcFullYear now = 2026) : ¬TwoDigitYear now := by
    unfold TwoDigitYear
    omega
  have hstart : (periodBounds 1785542400000).start = some 1785542400000 := by decide
  have hstop : (periodBounds 1785542400000).stop = some 1788220800000 := by decide
  have htile := periods_tile hstart hstop
  have hnext := (htile.2 (hyear _ (by decide))).2.2
  exact ⟨htile.1.mpr (hyear _ (by decide)), hnext.1 (hyear _ (by decide)), hnext.2⟩

/-- An instant of the year 50 has the bounds of a month of 1950. -/
example : periodBounds (-60574867200000) = ⟨"50-06", some (-618105600000), some (-615513600000)⟩ :=
  by decide

/-- The last month of a `Date` has no end. -/
example : (periodBounds maxTime).stop = none := by decide

example : periodBounds 1785542400000 = ⟨"2026-08", some 1785542400000, some 1788220800000⟩ := by
  decide

end ControlPlane
