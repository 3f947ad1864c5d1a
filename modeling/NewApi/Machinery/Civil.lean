import Mathlib.Data.Int.ConditionallyCompleteOrder
import Mathlib.Tactic.IntervalCases
import NewApi.Machinery.Calendar

/-!
# Machinery/Civil — the civil calendar is in order

`civilOfDays` and `daysOfMonth` of `Machinery/Calendar` are the usual closed formulas.  Months are
counted through, January of the year 0 being month `0`, and `firstOfMonth` is the day count of a
month's first day.

* `firstOfMonth_strictMono` — months follow each other.
* `civilOfDays_month` — a day lies in the month of its date, and its date counts from there.
* `civilOfDays_firstOfMonth` — the date of a first of the month.
-/

namespace Calendar

/-! ## Years of an era -/

/-- The days of an era before its year `y`; years start in March. -/
def daysBeforeYear (y : ℤ) : ℤ := 365 * y + y / 4 - y / 100 + y / 400

/-- The year of an era in which a day lies. -/
def yearOfEra (doe : ℤ) : ℤ := (doe - doe / 1460 + doe / 36524 - doe / 146096) / 365

theorem yearOfEra_le_succ {doe : ℤ} (h₀ : 0 ≤ doe) (h₁ : doe < 146096) :
    yearOfEra doe ≤ yearOfEra (doe + 1) := by
  unfold yearOfEra
  have hq : doe - doe / 1460 + doe / 36524 - doe / 146096 ≤
      doe + 1 - (doe + 1) / 1460 + (doe + 1) / 36524 - (doe + 1) / 146096 := by omega
  exact Int.ediv_le_ediv (by decide) hq

theorem yearOfEra_mono {a b : ℤ} (ha : 0 ≤ a) (hab : a ≤ b) (hb : b < 146097) :
    yearOfEra a ≤ yearOfEra b := by
  induction b, hab using Int.leInduction with
  | base => exact le_rfl
  | succ b hab ih => exact (ih (by omega)).trans (yearOfEra_le_succ (by omega) (by omega))

/-- The formula at the first and the last day of each year. -/
theorem yearOfEra_table : ∀ y < 400, yearOfEra (daysBeforeYear (y : ℕ)) = (y : ℕ) ∧
    yearOfEra (daysBeforeYear ((y : ℕ) + 1) - 1) = (y : ℕ) := by
  decide +kernel

theorem yearOfEra_bounds {doe : ℤ} (h₀ : 0 ≤ doe) (h₁ : doe < 146097) :
    0 ≤ yearOfEra doe ∧ yearOfEra doe < 400 := by
  have hlow : yearOfEra 0 ≤ yearOfEra doe := yearOfEra_mono le_rfl h₀ h₁
  have hhigh : yearOfEra doe ≤ yearOfEra 146096 := yearOfEra_mono h₀ (by omega) (by decide)
  have hzero : yearOfEra 0 = 0 := by decide
  have hlast : yearOfEra 146096 = 399 := by decide
  omega

/-- **The year of a day is the one whose days it is among.** -/
theorem daysBeforeYear_le_lt {doe : ℤ} (h₀ : 0 ≤ doe) (h₁ : doe < 146097) :
    daysBeforeYear (yearOfEra doe) ≤ doe ∧ doe < daysBeforeYear (yearOfEra doe + 1) := by
  obtain ⟨hlow, hhigh⟩ := yearOfEra_bounds h₀ h₁
  have htable : ∀ y : ℤ, 0 ≤ y → y < 400 → yearOfEra (daysBeforeYear y) = y ∧
      yearOfEra (daysBeforeYear (y + 1) - 1) = y := by
    intro y hy hy'
    obtain ⟨n, rfl⟩ := Int.eq_ofNat_of_zero_le hy
    exact yearOfEra_table n (by omega)
  constructor
  · by_contra! hlt
    have hpos : 1 ≤ yearOfEra doe := by
      by_contra hneg
      have hzero : yearOfEra doe = 0 := by omega
      rw [hzero] at hlt
      exact absurd hlt (not_lt.mpr h₀)
    have hbefore := (htable (yearOfEra doe - 1) (by omega) (by omega)).2
    rw [Int.sub_add_cancel] at hbefore
    have hle : yearOfEra doe ≤ yearOfEra (daysBeforeYear (yearOfEra doe) - 1) :=
      yearOfEra_mono h₀ (by omega) (by unfold daysBeforeYear; omega)
    omega
  · by_contra! hle
    have hsmall : yearOfEra doe + 1 < 400 := by
      by_contra hbig
      have heq : yearOfEra doe = 399 := by omega
      rw [heq] at hle
      exact absurd (lt_of_le_of_lt hle h₁) (by decide)
    have hafter := (htable (yearOfEra doe + 1) (by omega) hsmall).1
    have hge : yearOfEra (daysBeforeYear (yearOfEra doe + 1)) ≤ yearOfEra doe :=
      yearOfEra_mono (by unfold daysBeforeYear; omega) hle h₁
    omega

/-! ## Months -/

/-- The day count of the first day of month `n`. -/
def firstOfMonth (n : ℤ) : ℤ := daysOfMonth 0 (n + 1)

/-- Months are counted through the years. -/
theorem daysOfMonth_eq (year month : ℤ) :
    daysOfMonth year month = firstOfMonth (12 * year + month - 1) := by
  unfold firstOfMonth daysOfMonth
  have hyear : year + (month - 1) / 12 = 0 + (12 * year + month - 1 + 1 - 1) / 12 := by omega
  have hmonth : (month - 1) % 12 = (12 * year + month - 1 + 1 - 1) % 12 := by omega
  rw [hyear, hmonth]

/-- The days before the year `y` that starts in March. -/
def daysBeforeMarch (y : ℤ) : ℤ :=
  y / 400 * 146097 + (y - y / 400 * 400) * 365 + (y - y / 400 * 400) / 4 -
    (y - y / 400 * 400) / 100 - 719468

/-- Month `mp` of the year `y` that starts in March. -/
theorem firstOfMonth_march {y mp : ℤ} (h₀ : 0 ≤ mp) (h₁ : mp ≤ 11) :
    firstOfMonth (12 * y + mp + 2) = daysBeforeMarch y + (153 * mp + 2) / 5 := by
  unfold firstOfMonth daysOfMonth daysBeforeMarch
  by_cases hmp : mp < 10
  · have hyear : 0 + (12 * y + mp + 2 + 1 - 1) / 12 = y := by omega
    have hmonth : (12 * y + mp + 2 + 1 - 1) % 12 + 1 = mp + 3 := by omega
    simp only [hyear, hmonth]
    rw [if_neg (by omega), if_pos (by omega)]
    omega
  · have hyear : 0 + (12 * y + mp + 2 + 1 - 1) / 12 = y + 1 := by omega
    have hmonth : (12 * y + mp + 2 + 1 - 1) % 12 + 1 = mp - 9 := by omega
    simp only [hyear, hmonth]
    rw [if_pos (by omega), if_neg (by omega), Int.add_sub_cancel]
    omega

theorem daysBeforeMarch_succ (y : ℤ) :
    daysBeforeMarch y + 365 ≤ daysBeforeMarch (y + 1) := by
  unfold daysBeforeMarch
  omega

/-- The year after year `yoe` of an era. -/
theorem daysBeforeMarch_next (era : ℤ) {yoe : ℤ} (h₀ : 0 ≤ yoe) (h₁ : yoe < 400) :
    daysBeforeMarch (yoe + era * 400 + 1) =
      era * 146097 + daysBeforeYear (yoe + 1) - 719468 := by
  unfold daysBeforeMarch daysBeforeYear
  by_cases hlast : yoe = 399
  · subst hlast
    have hera : (399 + era * 400 + 1) / 400 = era + 1 := by omega
    rw [hera]
    omega
  · have hera : (yoe + era * 400 + 1) / 400 = era := by omega
    have hyear : yoe + era * 400 + 1 - era * 400 = yoe + 1 := by omega
    rw [hera, hyear]
    omega

/-- **Months follow each other.** -/
theorem firstOfMonth_strictMono : StrictMono firstOfMonth := by
  refine strictMono_int_of_lt_succ fun n => ?_
  obtain ⟨y, mp, h₀, h₁, rfl⟩ : ∃ y mp : ℤ, 0 ≤ mp ∧ mp ≤ 11 ∧ n = 12 * y + mp + 2 :=
    ⟨(n - 2) / 12, (n - 2) % 12, by omega, by omega, by omega⟩
  rw [firstOfMonth_march h₀ h₁]
  by_cases hmp : mp = 11
  · have hnext : 12 * y + mp + 2 + 1 = 12 * (y + 1) + 0 + 2 := by omega
    have := daysBeforeMarch_succ y
    rw [hnext, firstOfMonth_march le_rfl (by decide)]
    omega
  · have hnext : 12 * y + mp + 2 + 1 = 12 * y + (mp + 1) + 2 := by omega
    rw [hnext, firstOfMonth_march (by omega) (by omega)]
    omega

/-- The month of a date, counted through. -/
def Civil.monthCount (c : Civil) : ℤ := 12 * c.year + c.month - 1

/-- The date of a day `doe` of an era. -/
def civilOfEra (era doe : ℤ) : Civil :=
  let yoe := yearOfEra doe
  let doy := doe - (365 * yoe + yoe / 4 - yoe / 100)
  let mp := (5 * doy + 2) / 153
  let month := if mp < 10 then mp + 3 else mp - 9
  ⟨yoe + era * 400 + (if month ≤ 2 then 1 else 0), month, doy - (153 * mp + 2) / 5 + 1⟩

/-- The parts that `civilOfDays` computes: the era, its year, the month from March and the day of
the year. -/
theorem civilOfDays_parts (z : ℤ) :
    ∃ era yoe mp doy : ℤ, 0 ≤ yoe ∧ yoe < 400 ∧ 0 ≤ mp ∧ mp ≤ 11 ∧
      (153 * mp + 2) / 5 ≤ doy ∧ doy < (153 * (mp + 1) + 2) / 5 ∧
      z = era * 146097 + yoe * 365 + yoe / 4 - yoe / 100 + doy - 719468 ∧
      z < era * 146097 + daysBeforeYear (yoe + 1) - 719468 ∧
      civilOfDays z =
        ⟨yoe + era * 400 + (if (if mp < 10 then mp + 3 else mp - 9) ≤ 2 then 1 else 0),
          if mp < 10 then mp + 3 else mp - 9, doy - (153 * mp + 2) / 5 + 1⟩ := by
  have hdoe₀ : 0 ≤ z + 719468 - (z + 719468) / 146097 * 146097 := by omega
  have hdoe₁ : z + 719468 - (z + 719468) / 146097 * 146097 < 146097 := by omega
  have hz : z = (z + 719468) / 146097 * 146097 +
      (z + 719468 - (z + 719468) / 146097 * 146097) - 719468 := by omega
  have hcivil : civilOfDays z = civilOfEra ((z + 719468) / 146097)
      (z + 719468 - (z + 719468) / 146097 * 146097) := rfl
  rw [hcivil]
  generalize z + 719468 - (z + 719468) / 146097 * 146097 = doe at *
  generalize (z + 719468) / 146097 = era at *
  obtain ⟨hyoe₀, hyoe₁⟩ := yearOfEra_bounds hdoe₀ hdoe₁
  obtain ⟨hlow, hhigh⟩ := daysBeforeYear_le_lt hdoe₀ hdoe₁
  have hyear : doe < daysBeforeYear (yearOfEra doe + 1) := hhigh
  unfold daysBeforeYear at hlow hhigh
  refine ⟨era, yearOfEra doe, _, _, hyoe₀, hyoe₁, ?_, ?_, ?_, ?_, ?_, by omega, rfl⟩
  all_goals
    generalize yearOfEra doe = yoe at *
    omega

/-- **A day lies in the month of its date**, and its date counts from there. -/
theorem civilOfDays_month (z : ℤ) :
    firstOfMonth (civilOfDays z).monthCount + (civilOfDays z).day - 1 = z ∧
      1 ≤ (civilOfDays z).day ∧ z < firstOfMonth ((civilOfDays z).monthCount + 1) := by
  obtain ⟨era, yoe, mp, doy, hyoe₀, hyoe₁, hmp₀, hmp₁, hdoy₀, hdoy₁, hz, hyear, hcivil⟩ :=
    civilOfDays_parts z
  have hcount : (civilOfDays z).monthCount = 12 * (yoe + era * 400) + mp + 2 := by
    rw [hcivil, Civil.monthCount]
    dsimp only
    by_cases hmp : mp < 10
    · rw [if_pos hmp, if_neg (by omega)]
      omega
    · rw [if_neg hmp, if_pos (by omega)]
      omega
  have hday : (civilOfDays z).day = doy - (153 * mp + 2) / 5 + 1 := by rw [hcivil]
  have hmarch : daysBeforeMarch (yoe + era * 400) =
      era * 146097 + yoe * 365 + yoe / 4 - yoe / 100 - 719468 := by
    unfold daysBeforeMarch
    have hera : (yoe + era * 400) / 400 = era := by omega
    rw [hera, Int.add_sub_cancel]
  rw [hcount, hday, firstOfMonth_march hmp₀ hmp₁, hmarch]
  refine ⟨by omega, by omega, ?_⟩
  by_cases hmp : mp = 11
  · have hnext : 12 * (yoe + era * 400) + mp + 2 + 1 = 12 * (yoe + era * 400 + 1)
        + 0 + 2 := by omega
    rw [hnext, firstOfMonth_march le_rfl (by decide)]
    have := daysBeforeMarch_next era hyoe₀ hyoe₁
    omega
  · have hnext : 12 * (yoe + era * 400) + mp + 2 + 1 = 12 * (yoe + era * 400) + (mp + 1) + 2 := by
      omega
    rw [hnext, firstOfMonth_march (by omega) (by omega), hmarch]
    omega

/-- The month of a day is the only one it lies in. -/
theorem monthCount_eq {z n : ℤ} (hlow : firstOfMonth n ≤ z) (hhigh : z < firstOfMonth (n + 1)) :
    (civilOfDays z).monthCount = n := by
  obtain ⟨hz, hday, hlt⟩ := civilOfDays_month z
  have hle : (civilOfDays z).monthCount < n + 1 :=
    firstOfMonth_strictMono.lt_iff_lt.mp (by omega)
  have hge : n < (civilOfDays z).monthCount + 1 :=
    firstOfMonth_strictMono.lt_iff_lt.mp (by omega)
  omega

/-- **The date of a first of the month.** -/
theorem civilOfDays_firstOfMonth (n : ℤ) :
    (civilOfDays (firstOfMonth n)).monthCount = n ∧ (civilOfDays (firstOfMonth n)).day = 1 := by
  have hcount : (civilOfDays (firstOfMonth n)).monthCount = n :=
    monthCount_eq le_rfl (firstOfMonth_strictMono (by omega))
  have hz := (civilOfDays_month (firstOfMonth n)).1
  rw [hcount] at hz
  exact ⟨hcount, by omega⟩

end Calendar
