import NewApi.Machinery.Civil

/-!
# Machinery/Midnights — days that begin at midnight

`time.Date` has to pick an instant for every wall clock, also for one that the location's clocks
leave out.  A day `Begins` if the clocks show its midnight.  Counting on from there ends at the
instant `time.Date` picks for another midnight.

* `Location.Begins.addDate_midnight` — where counting days and months ends.
* `begins_of_offset` — days begin while the offset stays as it is.
* `isLeast_day`, `isLeast_monday`, `isLeast_firstOfMonth` — the first day of a kind.
-/

namespace Calendar

open Location

variable {loc : Location} {d : ℤ}

/-- The instant `time.Date` picks for the beginning of a day. -/
def Location.midnight (loc : Location) (d : ℤ) : ℤ := loc.unix (d * secondsPerDay)

/-- The clocks show the midnight of a day. -/
def Location.Begins (loc : Location) (d : ℤ) : Prop :=
  loc.wall (loc.midnight d) = d * secondsPerDay

/-- **Days begin while the offset stays as it is.** -/
theorem begins_of_offset {start offset : ℤ} (h : ∀ t, start ≤ t → loc.offset t = offset)
    (hd : start ≤ d * secondsPerDay) (hd' : start ≤ d * secondsPerDay - offset) :
    loc.midnight d = d * secondsPerDay - offset ∧ loc.Begins d := by
  have hmid : loc.midnight d = d * secondsPerDay - offset := by
    rw [midnight, unix, h _ hd, h _ hd']
  refine ⟨hmid, ?_⟩
  rw [Begins, hmid, wall, h _ hd']
  omega

theorem Location.Begins.day_midnight (h : loc.Begins d) : loc.day (loc.midnight d) = d := by
  rw [day, h]
  exact Int.mul_ediv_cancel _ (by decide)

/-- **Counting on from a day that begins at midnight.** -/
theorem Location.Begins.addDate_midnight (h : loc.Begins d) (months days : ℤ) :
    loc.addDate (loc.midnight d) months days =
      loc.midnight (firstOfMonth ((civilOfDays d).monthCount + months) +
        ((civilOfDays d).day + days - 1)) := by
  unfold addDate
  rw [h.day_midnight, h, Int.mul_emod_left]
  dsimp only
  rw [Int.add_zero, daysOfMonth_eq, Civil.monthCount, midnight]
  congr 5
  omega

theorem Location.Begins.addDate_days (h : loc.Begins d) (days : ℤ) :
    loc.addDate (loc.midnight d) 0 days = loc.midnight (d + days) := by
  rw [h.addDate_midnight, Int.add_zero]
  have hday := (civilOfDays_month d).1
  congr 1
  omega

/-- A month on from the beginning of a month. -/
theorem Location.Begins.addDate_month {n : ℤ} (h : loc.Begins (firstOfMonth n)) :
    loc.addDate (loc.midnight (firstOfMonth n)) 1 0 = loc.midnight (firstOfMonth (n + 1)) := by
  obtain ⟨hcount, hday⟩ := civilOfDays_firstOfMonth n
  rw [h.addDate_midnight, hcount, hday]
  congr 1
  omega

/-! ## The first day of a kind -/

theorem isLeast_day (d : ℤ) : IsLeast {x | x ∈ Set.univ ∧ d < x} (d + 1) :=
  ⟨⟨trivial, by omega⟩, fun _ hx => hx.2⟩

/-- 1970-01-05 was a Monday. -/
def mondays : Set ℤ := {d | (d + 4) % 7 = 1}

/-- The Monday after a day, counted with Sunday as `7`. -/
theorem isLeast_monday (d : ℤ) :
    IsLeast {x | x ∈ mondays ∧ d < x} (d + (8 - if (d + 4) % 7 = 0 then 7 else (d + 4) % 7)) := by
  constructor
  · constructor
    · rw [mondays, Set.mem_ofPred_eq]
      split <;> omega
    · split <;> omega
  · rintro x ⟨hx, hlt⟩
    rw [mondays, Set.mem_ofPred_eq] at hx
    split <;> omega

theorem isLeast_firstOfMonth (d : ℤ) :
    IsLeast {x | x ∈ Set.range firstOfMonth ∧ d < x}
      (firstOfMonth ((civilOfDays d).monthCount + 1)) := by
  obtain ⟨hd, hday, hlt⟩ := civilOfDays_month d
  refine ⟨⟨⟨_, rfl⟩, hlt⟩, ?_⟩
  rintro x ⟨⟨n, rfl⟩, hx⟩
  refine firstOfMonth_strictMono.monotone ?_
  have : (civilOfDays d).monthCount < n := firstOfMonth_strictMono.lt_iff_lt.mp (by omega)
  omega

end Calendar
