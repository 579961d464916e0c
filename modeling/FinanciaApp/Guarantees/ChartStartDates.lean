import FinanciaApp.Source.DateExtensions

/-!
# Longer ranges start earlier

They do from a day to a year. Two, three and four days ago are the same date, and the range
of all data starts a hundred years ahead.
-/

set_option autoImplicit false

namespace FinanciaApp.Guarantees

open Source Library

/-- The start dates of the ranges, from the longest to the shortest, in their order. -/
def NestedStarts (date : Date) : Prop :=
  date.infiniteAgo < date.oneYearAgo ∧ date.oneYearAgo < date.threeMonthsAgo ∧
    date.threeMonthsAgo < date.oneMonthAgo ∧ date.oneMonthAgo < date.oneWeekAgo ∧
    date.oneWeekAgo < date.fourDaysAgo ∧ date.fourDaysAgo < date.threeDaysAgo ∧
    date.threeDaysAgo < date.twoDaysAgo ∧ date.twoDaysAgo < date.yesterday ∧
    date.yesterday < date.noon

/-- The order in which the start dates are instead. -/
def ActualStarts (date : Date) : Prop :=
  date.oneYearAgo < date.threeMonthsAgo ∧ date.threeMonthsAgo < date.oneMonthAgo ∧
    date.oneMonthAgo < date.oneWeekAgo ∧ date.oneWeekAgo < date.fourDaysAgo ∧
    date.fourDaysAgo = date.threeDaysAgo ∧ date.threeDaysAgo = date.twoDaysAgo ∧
    date.twoDaysAgo < date.yesterday ∧ date.yesterday < date.noon ∧
    date.noon < date.infiniteAgo

section Noon

variable (date : Date)

/-- Dates at noon are ordered by their days. -/
theorem lt_of_day_lt {a b : Date} (earlier : a.day < b.day) : a < b :=
  Date.lt_iff.mpr (Or.inl earlier)

theorem days_back_lt {fewer more : ℕ} (lt : fewer < more) :
    Date.adding .day (-(more : ℤ)) date.noon < Date.adding .day (-(fewer : ℤ)) date.noon :=
  lt_of_day_lt (date.day.addDays_neg_lt lt)

theorem months_back_lt {fewer more : ℤ} (lt : fewer < more) :
    Date.adding .month fewer date.noon < Date.adding .month more date.noon :=
  lt_of_day_lt (date.day.addMonths_lt lt)

theorem month_back_lt {count : ℕ} (few : count < 28) :
    date.oneMonthAgo < Date.adding .day (-(count : ℤ)) date.noon :=
  lt_of_day_lt (date.day.addMonths_neg_one_lt few)

theorem actualStarts : ActualStarts date := by
  refine ⟨?_, ?_, ?_, ?_, rfl, rfl, ?_, ?_, ?_⟩
  · exact months_back_lt date (show (-12 : ℤ) < -3 by omega)
  · exact months_back_lt date (show (-3 : ℤ) < -1 by omega)
  · exact month_back_lt date (show 7 < 28 by omega)
  · exact days_back_lt date (show 2 < 7 by omega)
  · exact days_back_lt date (show 1 < 2 by omega)
  · exact days_back_lt date (show 0 < 1 by omega)
  · exact lt_of_day_lt (date.day.lt_addMonths (show (0 : ℤ) < 12 * 100 by omega))

end Noon

/-- On no date are the starts nested; the order in which they are is the same on all. -/
theorem starts_never_nested (date : Date) : ¬NestedStarts date ∧ ActualStarts date := by
  refine ⟨fun nested => ?_, actualStarts date⟩
  obtain ⟨-, -, -, -, -, four_lt_three, -⟩ := nested
  exact absurd four_lt_three (lt_irrefl date.fourDaysAgo)

/-- In the list of the ranges only the last one starts too late, after all the others. -/
theorem dateList_ordered (date : Date) :
    ((dateList date).dropLast.map ATCChartDate.startDate).Pairwise (fun a b => b < a) ∧
      ∀ range ∈ (dateList date).dropLast, range.startDate < date.infiniteAgo := by
  obtain ⟨year, threeMonths, month, -, -, -, -, day, all⟩ := actualStarts date
  have week : date.oneWeekAgo < date.yesterday := days_back_lt date (show 1 < 7 by omega)
  have chain : ((dateList date).dropLast.map ATCChartDate.startDate).IsChain (· > ·) := by
    simp only [dateList, List.dropLast_cons_cons, List.dropLast_singleton, List.map_cons,
      List.map_nil, List.isChain_cons_cons, List.IsChain.singleton, and_true]
    exact ⟨week, month, threeMonths, year⟩
  have ordered := List.isChain_iff_pairwise.mp chain
  refine ⟨ordered, fun range member => ?_⟩
  have shortest : range.startDate ≤ date.yesterday := by
    have starts := List.mem_map_of_mem (f := ATCChartDate.startDate) member
    rcases List.mem_cons.mp starts with first | later
    · exact first.le
    · exact (List.rel_of_pairwise_cons ordered later).le
  exact shortest.trans_lt (day.trans all)

/-! ## The other dates of the extension -/

section Noon

variable (date : Date)

/-- Up to twelve hours back from noon the day stays. -/
theorem hours_back {count : ℕ} (few : count ≤ 12) :
    (Date.adding .hour (-(count : ℤ)) date.noon).day = date.day ∧
      (Date.adding .hour (-(count : ℤ)) date.noon).seconds = 12 * 3600 - 3600 * count := by
  have bound : (count : ℚ) ≤ 12 := by exact_mod_cast few
  have positive : (0 : ℚ) ≤ count := Nat.cast_nonneg count
  have total : (date.noon.seconds + 3600 * (-(count : ℤ) : ℤ)) / 86400 =
      (12 * 3600 - 3600 * count) / 86400 := by
    rw [Int.cast_neg, Int.cast_natCast, Date.noon]
    ring
  have inside : (0 : ℚ) ≤ (12 * 3600 - 3600 * count) / 86400 ∧
      (12 * 3600 - 3600 * count : ℚ) / 86400 < 1 := by
    constructor <;> linarith
  have same_day : ⌊(12 * 3600 - 3600 * count : ℚ) / 86400⌋ = 0 :=
    Int.floor_eq_zero_iff.mpr inside
  simp only [Date.adding, total, same_day, Int.fract_eq_self.mpr inside]
  exact ⟨rfl, by ring⟩

theorem hoursAgo_ordered :
    date.yesterday < date.fiveHoursAgo ∧ date.fiveHoursAgo < date.twoHoursAgo ∧
      date.twoHoursAgo < date.noon ∧ date.noon < date.tomorrow := by
  obtain ⟨five_day, five⟩ := hours_back date (show 5 ≤ 12 by omega)
  obtain ⟨two_day, two⟩ := hours_back date (show 2 ≤ 12 by omega)
  refine ⟨?_, ?_, ?_, ?_⟩
  · apply lt_of_day_lt
    exact lt_of_lt_of_eq (date.day.addDays_neg_lt (show 0 < 1 by omega)) five_day.symm
  · refine Date.lt_iff.mpr (Or.inr ⟨five_day.trans two_day.symm, ?_⟩)
    exact five.trans_lt (lt_of_lt_of_eq (by norm_num) two.symm)
  · refine Date.lt_iff.mpr (Or.inr ⟨two_day, ?_⟩)
    exact two.trans_lt (by norm_num [Date.noon])
  · exact lt_of_day_lt date.day.lt_next

theorem isLastDayOfMonth_iff :
    date.isLastDayOfMonth = true ↔ date.day.day = monthLength date.day.month := by
  have last := date.day.le_last
  rw [Date.isLastDayOfMonth, bne_iff_ne]
  change date.day.next.month % 12 + 1 ≠ date.day.month % 12 + 1 ↔ _
  rw [CivilDate.next]
  split_ifs with inside
  · exact iff_of_false (fun different => different rfl) (by omega)
  · refine iff_of_true ?_ (by omega)
    change (date.day.month + 1) % 12 + 1 ≠ date.day.month % 12 + 1
    omega

end Noon

/-- Noon of the 15th of March 2020. -/
def marchDate : Date :=
  { day := .ofYear 2020 3 15 (by decide) (by decide)
    seconds := 12 * 3600
    nonneg := Date.noon_nonneg
    lt_day := Date.noon_lt_day }

/-- Four days before it are two days, and the range of all data starts in 2120. -/
theorem infiniteAgo_ahead :
    ¬(∀ date, NestedStarts date) ∧ ¬NestedStarts marchDate ∧
      marchDate.fourDaysAgo = marchDate.twoDaysAgo ∧ marchDate.noon < marchDate.infiniteAgo := by
  have same : marchDate.fourDaysAgo = marchDate.threeDaysAgo := rfl
  have not_nested : ¬NestedStarts marchDate := by
    rintro ⟨-, -, -, -, -, four_lt_three, -⟩
    rw [same] at four_lt_three
    exact lt_irrefl _ four_lt_three
  refine ⟨fun claimed => not_nested (claimed marchDate), not_nested, rfl, ?_⟩
  exact lt_of_day_lt (marchDate.day.lt_addMonths (show (0 : ℤ) < 12 * 100 by omega))

end FinanciaApp.Guarantees
