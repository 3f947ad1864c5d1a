import Mathlib.Data.Int.Notation

/-!
# Machinery/Calendar — Unix instants and the proleptic Gregorian calendar

Go's `time.Date`, `Time.Date`, `Time.AddDate` and `Time.Weekday` on whole seconds.  A location is
the offset in force at each Unix instant; `wall` is what its clocks show, in seconds, and `unix` is
the lookup `time.Date` makes to get back to an instant (a second look when the first offset is not
the one in force there).
-/

namespace Calendar

/-- Seconds east of UTC in force at each Unix instant. -/
structure Location where
  offset : ℤ → ℤ

/-- Greenwich. -/
def utc : Location := ⟨fun _ => 0⟩

variable (loc : Location)

/-- The wall clock of an instant, in seconds since local 1970-01-01 00:00. -/
def Location.wall (t : ℤ) : ℤ := t + loc.offset t

/-- The instant `time.Date` picks for a wall clock. -/
def Location.unix (w : ℤ) : ℤ := w - loc.offset (w - loc.offset w)

/-- A day without clock changes. -/
def secondsPerDay : ℤ := 86400

/-- Local days since 1970-01-01. -/
def Location.day (t : ℤ) : ℤ := loc.wall t / secondsPerDay

/-- Sunday is `0`; 1970-01-01 was a Thursday. -/
def Location.weekday (t : ℤ) : ℤ := (loc.day t + 4) % 7

/-! ## Civil dates -/

/-- A date. -/
structure Civil where
  year : ℤ
  month : ℤ
  day : ℤ
  deriving DecidableEq

/-- The date of a day count.  Years are taken to start in March, so that the leap day ends one;
`146097` days make a 400-year era. -/
def civilOfDays (z : ℤ) : Civil :=
  let s := z + 719468
  let era := s / 146097
  let doe := s - era * 146097
  let yoe := (doe - doe / 1460 + doe / 36524 - doe / 146096) / 365
  let doy := doe - (365 * yoe + yoe / 4 - yoe / 100)
  let mp := (5 * doy + 2) / 153
  let month := if mp < 10 then mp + 3 else mp - 9
  ⟨yoe + era * 400 + (if month ≤ 2 then 1 else 0), month, doy - (153 * mp + 2) / 5 + 1⟩

/-- The day count of a month's first day, the month normalised into `1 … 12` first. -/
def daysOfMonth (year month : ℤ) : ℤ :=
  let year := year + (month - 1) / 12
  let month := (month - 1) % 12 + 1
  let y := if month ≤ 2 then year - 1 else year
  let era := y / 400
  let yoe := y - era * 400
  let doy := (153 * (if month > 2 then month - 3 else month + 9) + 2) / 5
  era * 146097 + yoe * 365 + yoe / 4 - yoe / 100 + doy - 719468

example : civilOfDays 19782 = ⟨2024, 2, 29⟩ := by decide

example : daysOfMonth 2024 14 = 20120 ∧ civilOfDays 20120 = ⟨2025, 2, 1⟩ := by decide

/-! ## Instants from dates -/

/-- `time.Date(y, m, d, 0, 0, 0, 0, loc)` on the date of `t`. -/
def Location.startOfDay (t : ℤ) : ℤ := loc.unix (loc.day t * secondsPerDay)

/-- `time.Date(y, m, 1, 0, 0, 0, 0, loc)` on the date of `t`. -/
def Location.startOfMonth (t : ℤ) : ℤ :=
  let c := civilOfDays (loc.day t)
  loc.unix (daysOfMonth c.year c.month * secondsPerDay)

/-- `t.AddDate(0, months, days)`: the date moves, the wall clock within the day stays. -/
def Location.addDate (t months days : ℤ) : ℤ :=
  let c := civilOfDays (loc.day t)
  loc.unix ((daysOfMonth c.year (c.month + months) + (c.day + days - 1)) * secondsPerDay +
    loc.wall t % secondsPerDay)

end Calendar
