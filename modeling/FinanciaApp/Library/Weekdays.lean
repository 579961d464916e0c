import FinanciaApp.Library.Gregorian

/-!
# Day numbers and weekdays

The days of the Gregorian calendar numbered from the first of January of the year 0, a
Saturday. Sunday is weekday 1 and Saturday weekday 7.

* `dayNumber_next`: one day on is one number on, also over the end of a month or a year.
* `iterate_next_firstOf`: days added within a month.
* `weekday_in_month`: the weekday of a day, from that of the first of its month.
-/

set_option autoImplicit false

namespace FinanciaApp.Library

/-- The days before the first of January of a year: 365 for each year, and the leap days. -/
def daysBeforeYear (year : ℤ) : ℤ :=
  365 * year + (year + 3) / 4 - (year + 99) / 100 + (year + 399) / 400

def daysBeforeMonthOf (year : ℤ) (count : ℕ) : ℤ :=
  daysBeforeYear year + ((List.range count).map fun i : ℕ => (monthLength (12 * year + i) : ℤ)).sum

/-- The days before the first of a month. -/
def daysBeforeMonth (month : ℤ) : ℤ :=
  daysBeforeMonthOf (month / 12) (month % 12).toNat

theorem daysBeforeYear_succ (year : ℤ) :
    daysBeforeYear (year + 1) = daysBeforeYear year + if IsLeapYear year then 366 else 365 := by
  simp only [daysBeforeYear, IsLeapYear]
  split_ifs <;> omega

theorem daysBeforeMonthOf_succ (year : ℤ) (count : ℕ) :
    daysBeforeMonthOf year (count + 1) =
      daysBeforeMonthOf year count + monthLength (12 * year + count) := by
  simp [daysBeforeMonthOf, List.range_succ, add_assoc]

/-- The months of a year, from January. -/
theorem monthLength_of_year (year : ℤ) (i : ℕ) (small : i < 12) :
    monthLength (12 * year + i) =
      if i = 1 then (if IsLeapYear year then 29 else 28)
      else if i = 3 ∨ i = 5 ∨ i = 8 ∨ i = 10 then 30 else 31 := by
  have month : (12 * year + i) % 12 = i := by omega
  have sameYear : (12 * year + i) / 12 = year := by omega
  rw [monthLength, month, sameYear]
  norm_cast

/-- December is followed by the next January. -/
theorem daysBeforeMonthOf_twelve (year : ℤ) :
    daysBeforeMonthOf year 12 = daysBeforeMonthOf (year + 1) 0 := by
  have lengths : ∀ i ∈ List.range 12, (monthLength (12 * year + (i : ℕ)) : ℤ) =
      if i = 1 then (if IsLeapYear year then 29 else 28)
      else if i = 3 ∨ i = 5 ∨ i = 8 ∨ i = 10 then 30 else 31 := by
    intro i small
    rw [monthLength_of_year year i (List.mem_range.mp small)]
    push_cast
    rfl
  rw [daysBeforeMonthOf, daysBeforeMonthOf, List.map_congr_left lengths, daysBeforeYear_succ]
  split_ifs <;> simp [List.range_succ]

theorem daysBeforeMonth_succ (month : ℤ) :
    daysBeforeMonth (month + 1) = daysBeforeMonth month + monthLength month := by
  obtain ⟨count, year, small, rfl⟩ : ∃ (count : ℕ) (year : ℤ), count < 12 ∧
      month = 12 * year + count := ⟨(month % 12).toNat, month / 12, by omega, by omega⟩
  have before : daysBeforeMonth (12 * year + count) = daysBeforeMonthOf year count := by
    rw [daysBeforeMonth]
    congr 1 <;> omega
  have after : daysBeforeMonth (12 * year + count + 1) = daysBeforeMonthOf year (count + 1) := by
    rw [daysBeforeMonth]
    by_cases last : count = 11
    · subst last
      rw [daysBeforeMonthOf_twelve]
      congr 1 <;> omega
    · congr 1 <;> omega
  rw [before, after, daysBeforeMonthOf_succ]

theorem one_le_monthLength (month : ℤ) : 1 ≤ monthLength month :=
  le_trans (by omega) (monthLength_ge month)

namespace CivilDate

def firstOf (month : ℤ) : CivilDate := ⟨month, 1, Nat.le_refl 1, one_le_monthLength month⟩

def dayNumber (date : CivilDate) : ℤ :=
  daysBeforeMonth date.month + (date.day - 1)

/-- 1 for a Sunday, 7 for a Saturday. -/
def weekday (date : CivilDate) : ℕ :=
  ((date.dayNumber + 6) % 7).toNat + 1

theorem dayNumber_next (date : CivilDate) : date.next.dayNumber = date.dayNumber + 1 := by
  have last := date.le_last
  unfold next
  split_ifs with inside
  · simp only [dayNumber]
    omega
  · simp only [dayNumber, daysBeforeMonth_succ]
    omega

theorem dayNumber_iterate_next (date : CivilDate) (count : ℕ) :
    (next^[count] date).dayNumber = date.dayNumber + count := by
  induction count with
  | zero => simp
  | succ count ih =>
    rw [Function.iterate_succ_apply', dayNumber_next, ih]
    push_cast
    ring

/-- Days added within the month. -/
theorem iterate_next_firstOf (month : ℤ) (count : ℕ) (inside : count < monthLength month) :
    (next^[count] (firstOf month)).month = month ∧
      (next^[count] (firstOf month)).day = count + 1 := by
  induction count with
  | zero => exact ⟨rfl, rfl⟩
  | succ count ih =>
    obtain ⟨sameMonth, day⟩ := ih (by omega)
    rw [Function.iterate_succ_apply', next, dif_pos (by rw [sameMonth, day]; omega)]
    exact ⟨sameMonth, by simp only [day]⟩

/-- Every day is reached from the first of its month. -/
theorem iterate_next_firstOf_day (date : CivilDate) :
    next^[date.day - 1] (firstOf date.month) = date := by
  have first := date.first_le
  have last := date.le_last
  obtain ⟨month, day⟩ := iterate_next_firstOf date.month (date.day - 1) (by omega)
  exact CivilDate.ext month (by omega)

/-- The weekday of a day of a month, from that of the first. -/
theorem weekday_in_month (date : CivilDate) :
    date.weekday = ((firstOf date.month).weekday - 1 + (date.day - 1)) % 7 + 1 := by
  have counted : date.dayNumber = (firstOf date.month).dayNumber + (date.day - 1 : ℕ) := by
    rw [← dayNumber_iterate_next, iterate_next_firstOf_day]
  simp only [weekday, counted]
  omega

end CivilDate

end FinanciaApp.Library
