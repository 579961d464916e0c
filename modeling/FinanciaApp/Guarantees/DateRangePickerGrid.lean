import FinanciaApp.Source.CalendarDateRangePickerViewController

/-!
# The grid of the date range picker

`CalendarDateRangePickerViewController.swift:78-131,200-241`: a section for each whole month
between the two bounds and one more, with a row of weekdays, blank items and the days. Every
day has at most one item, in the column of its weekday. The days with an item are those of the
months from the minimum on; the month of the maximum is there exactly when the maximum is not
before the minimum moved into that month.
-/

set_option autoImplicit false

namespace FinanciaApp.Guarantees

open Library Source Source.CalendarDateRangePicker

theorem adding_month (date : Date) (count : ℤ) :
    (date.adding .month count).day.month = date.day.month + count := rfl

/-- The whole months between two dates: the most that can be added to the first one. -/
theorem months_isGreatest {start finish : Date} (ordered : start ≤ finish) :
    IsGreatest {count : ℤ | start.adding .month count ≤ finish} (start.months finish) := by
  have later : ∀ count : ℤ, finish.day.month < start.day.month + count →
      ¬start.adding .month count ≤ finish := by
    intro count beyond
    rw [not_le, Date.lt_iff, CivilDate.lt_iff, adding_month]
    exact Or.inl (Or.inl beyond)
  have earlier : ∀ count : ℤ, start.day.month + count < finish.day.month →
      start.adding .month count ≤ finish := by
    intro count before
    apply le_of_lt
    rw [Date.lt_iff, CivilDate.lt_iff, adding_month]
    exact Or.inl (Or.inl before)
  simp only [Date.months, if_pos ordered]
  constructor
  · rw [Set.mem_ofPred_eq]
    split_ifs with fits
    · exact fits
    · exact earlier _ (by omega)
  · intro count fits
    rw [Set.mem_ofPred_eq] at fits
    have notLater : ¬finish.day.month < start.day.month + count := fun beyond =>
      later count beyond fits
    split_ifs with whole
    · omega
    · by_contra above
      have equal : count = finish.day.month - start.day.month := by omega
      exact whole (equal ▸ fits)

section Grid

variable (picker : CalendarDateRangePicker)

/-- The item at the path is there and stands for the day. -/
def Shows (path : IndexPath) (day : CivilDate) : Prop :=
  picker.has path = true ∧ ∃ dayOfMonth, picker.dayOfMonth path = some dayOfMonth ∧
    (picker.getDate dayOfMonth path.section_).day = day

theorem getFirstDateForSection_day (section_ : ℕ) :
    (picker.getFirstDateForSection section_).day =
      .firstOf (picker.minimumDate.day.month + section_) := by
  apply CivilDate.ext
  · rfl
  · have long := monthLength_ge (picker.minimumDate.day.month + section_)
    change min 1 (monthLength (picker.minimumDate.day.month + section_)) = 1
    omega

theorem blankItems_eq (section_ : ℕ) :
    picker.blankItems section_ =
      (CivilDate.firstOf (picker.minimumDate.day.month + section_)).weekday - 1 := by
  rw [blankItems, getWeekday, getFirstDateForSection_day]

theorem numberOfItems_eq (section_ : ℕ) :
    picker.numberOfItemsInSection section_ = 7 + picker.blankItems section_ +
      monthLength (picker.minimumDate.day.month + section_) := by
  rw [numberOfItemsInSection, getNumberOfDaysInMonth, getFirstDateForSection_day]
  rfl

/-- A day of the month of the section, as `getDate` finds it. -/
theorem getDate_day (section_ dayOfMonth : ℕ) (first : 1 ≤ dayOfMonth)
    (last : dayOfMonth ≤ monthLength (picker.minimumDate.day.month + section_)) :
    (picker.getDate dayOfMonth section_).day.month = picker.minimumDate.day.month + section_ ∧
      (picker.getDate dayOfMonth section_).day.day = dayOfMonth := by
  have added : (picker.getDate dayOfMonth section_).day =
      CivilDate.next^[dayOfMonth - 1] (.firstOf (picker.minimumDate.day.month + section_)) := by
    simp only [getDate, firstOfMonth, getFirstDateForSection_day]
    rfl
  obtain ⟨month, day⟩ := CivilDate.iterate_next_firstOf
    (picker.minimumDate.day.month + section_) (dayOfMonth - 1) (by omega)
  rw [added]
  exact ⟨month, by omega⟩

theorem dayOfMonth_eq_some (path : IndexPath) (dayOfMonth : ℕ) :
    picker.dayOfMonth path = some dayOfMonth ↔
      1 ≤ dayOfMonth ∧ path.item = 7 + picker.blankItems path.section_ + (dayOfMonth - 1) := by
  unfold CalendarDateRangePicker.dayOfMonth
  split_ifs with weekday blank
  · simp only [false_iff]
    omega
  · simp only [false_iff]
    omega
  · simp only [Option.some.injEq]
    omega

/-- The item of a day, in its section and after the blank items. -/
theorem shows_iff (path : IndexPath) (day : CivilDate) :
    Shows picker path day ↔
      (path.section_ : ℤ) < picker.numberOfSections ∧
        day.month = picker.minimumDate.day.month + path.section_ ∧
        path.item = 7 + picker.blankItems path.section_ + (day.day - 1) := by
  have first := day.first_le
  have last := day.le_last
  unfold Shows has
  rw [Bool.and_eq_true, decide_eq_true_eq, decide_eq_true_eq, numberOfItems_eq]
  constructor
  · intro ⟨⟨inSections, inItems⟩, dayOfMonth, isDay, isDate⟩
    rw [dayOfMonth_eq_some] at isDay
    obtain ⟨month, sameDay⟩ := getDate_day picker path.section_ dayOfMonth isDay.1 (by omega)
    rw [isDate] at month sameDay
    exact ⟨inSections, month, by omega⟩
  · intro ⟨inSections, month, item⟩
    rw [month] at last
    refine ⟨⟨inSections, by omega⟩, day.day, ?_, ?_⟩
    · rw [dayOfMonth_eq_some]
      exact ⟨first, item⟩
    · obtain ⟨sameMonth, sameDay⟩ := getDate_day picker path.section_ day.day first last
      exact CivilDate.ext (by rw [sameMonth, month]) sameDay

/-- Every day has at most one item, which stands in the column of its weekday; the days that
have one are those of the months from that of the minimum to that of the maximum, which is left
out where the maximum is before the minimum moved into its month. -/
theorem grid_shows_days (ordered : picker.minimumDate ≤ picker.maximumDate) (day : CivilDate) :
    (∀ path other, Shows picker path day → Shows picker other day → path = other) ∧
    (∀ path, Shows picker path day → path.item % 7 + 1 = day.weekday) ∧
    ((∃ path, Shows picker path day) ↔
      picker.minimumDate.day.month ≤ day.month ∧
        (day.month < picker.maximumDate.day.month ∨
          (day.month = picker.maximumDate.day.month ∧
            picker.minimumDate.adding .month
              (picker.maximumDate.day.month - picker.minimumDate.day.month) ≤
                picker.maximumDate))) := by
  refine ⟨fun path other shown shown' => ?_, fun path shown => ?_, ?_⟩
  · obtain ⟨-, month, item⟩ := (shows_iff picker path day).mp shown
    obtain ⟨-, month', item'⟩ := (shows_iff picker other day).mp shown'
    obtain ⟨section_, i⟩ := path
    obtain ⟨section_', i'⟩ := other
    have same : section_ = section_' := by
      dsimp only at month month'
      omega
    subst same
    dsimp only at item item'
    rw [item, item']
  · obtain ⟨-, month, item⟩ := (shows_iff picker path day).mp shown
    rw [blankItems_eq, ← month] at item
    rw [day.weekday_in_month, item]
    omega
  · have sections : picker.numberOfSections =
        (if picker.minimumDate.adding .month
            (picker.maximumDate.day.month - picker.minimumDate.day.month) ≤ picker.maximumDate
          then picker.maximumDate.day.month - picker.minimumDate.day.month
          else picker.maximumDate.day.month - picker.minimumDate.day.month - 1) + 1 := by
      simp only [numberOfSections, Date.months, if_pos ordered]
    constructor
    · intro ⟨path, shown⟩
      obtain ⟨inSections, month, -⟩ := (shows_iff picker path day).mp shown
      rw [sections] at inSections
      split_ifs at inSections with whole
      · exact ⟨by omega, by simp only [whole, and_true]; omega⟩
      · exact ⟨by omega, Or.inl (by omega)⟩
    · intro ⟨fromMinimum, toMaximum⟩
      refine ⟨⟨(day.month - picker.minimumDate.day.month).toNat,
        7 + picker.blankItems (day.month - picker.minimumDate.day.month).toNat + (day.day - 1)⟩,
        (shows_iff picker _ day).mpr ⟨?_, ?_, rfl⟩⟩
      · rw [sections]
        split_ifs with whole
        · dsimp only
          omega
        · simp only [whole, and_false, or_false] at toMaximum
          dsimp only
          omega
      · dsimp only
        omega

end Grid

theorem ten_le_april : 10 ≤ monthLength (12 * 2024 + (4 - 1 : ℕ)) := by
  decide

/-- The tenth of April of 2024. -/
def tenthOfApril : CivilDate := .ofYear 2024 4 10 (by decide) ten_le_april

theorem twenty_le_january : 20 ≤ monthLength (12 * 2024 + (1 - 1 : ℕ)) := by
  decide

/-- The twentieth of January of 2024. -/
def twentiethOfJanuary : CivilDate := .ofYear 2024 1 20 (by decide) twenty_le_january

/-- A picker from the twentieth of January to the tenth of April of 2024. -/
def winterPicker : CalendarDateRangePicker :=
  viewDidLoad (midnight twentiethOfJanuary) (some (midnight twentiethOfJanuary))
    (some (midnight tenthOfApril)) none none

/-- It has no item for its last day. -/
theorem grid_shows_days_until_march : ¬∃ path, Shows winterPicker path tenthOfApril := by
  rw [(grid_shows_days winterPicker (by decide) tenthOfApril).2.2]
  decide

end FinanciaApp.Guarantees
