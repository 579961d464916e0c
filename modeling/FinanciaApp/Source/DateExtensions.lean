import Mathlib.Data.Rat.Floor
import Mathlib.Tactic.Linarith
import Mathlib.Tactic.NormNum
import FinanciaApp.Library.Gregorian

/-!
# Start dates of the chart ranges

The extension of `Date` in `Core/UIExtensions/Date.swift` and the `dateList` of
`FinanceApp/FinanceApp/ATCHomeViewController.swift:35-42`, which the asset screen has too. A
date is a day of the Gregorian calendar and the seconds passed of it, without time zones.
-/

set_option autoImplicit false

namespace FinanciaApp.Source

open Library

structure Date where
  day : CivilDate
  seconds : ℚ
  nonneg : 0 ≤ seconds
  lt_day : seconds < 86400

namespace Date

def key (date : Date) : CivilDate ×ₗ ℚ :=
  toLex (date.day, date.seconds)

theorem key_injective : Function.Injective key := by
  intro a b same
  have parts := Prod.mk.inj (toLex.injective same)
  cases a
  cases b
  obtain ⟨rfl, rfl⟩ := parts
  rfl

instance : LinearOrder Date :=
  LinearOrder.lift' key key_injective

theorem lt_iff {a b : Date} :
    a < b ↔ a.day < b.day ∨ (a.day = b.day ∧ a.seconds < b.seconds) :=
  Prod.Lex.lt_iff

/-- The component of `Calendar.date(byAdding:value:to:)`. -/
inductive Component where
  | hour
  | day
  | month
  | year
deriving DecidableEq, Repr

/-- `Calendar.date(byAdding:value:to:)`. -/
def adding (component : Component) (value : ℤ) (date : Date) : Date :=
  match component with
  | .hour =>
    let total := date.seconds + 3600 * value
    { day := date.day.addDays ⌊total / 86400⌋
      seconds := 86400 * Int.fract (total / 86400)
      nonneg := by linarith [Int.fract_nonneg (total / 86400)]
      lt_day := by linarith [Int.fract_lt_one (total / 86400)] }
  | .day => { date with day := date.day.addDays value }
  | .month => { date with day := date.day.addMonths value }
  | .year => { date with day := date.day.addYears value }

theorem noon_nonneg : (0 : ℚ) ≤ 12 * 3600 := by
  norm_num

theorem noon_lt_day : (12 * 3600 : ℚ) < 86400 := by
  norm_num

/-- `Calendar.date(bySettingHour:minute:second:of:)` for 12, 0 and 0. -/
def noon (self : Date) : Date :=
  { day := self.day
    seconds := 12 * 3600
    nonneg := noon_nonneg
    lt_day := noon_lt_day }

def yesterday (self : Date) : Date :=
  adding .day (-1) self.noon

def twoDaysAgo (self : Date) : Date :=
  adding .day (-2) self.noon

def threeDaysAgo (self : Date) : Date :=
  adding .day (-2) self.noon

def fourDaysAgo (self : Date) : Date :=
  adding .day (-2) self.noon

def tomorrow (self : Date) : Date :=
  adding .day 1 self.noon

def twoHoursAgo (self : Date) : Date :=
  adding .hour (-2) self.noon

def fiveHoursAgo (self : Date) : Date :=
  adding .hour (-5) self.noon

/-- From 1 for January. -/
def month (self : Date) : ℤ :=
  self.day.month % 12 + 1

def oneYearAgo (self : Date) : Date :=
  adding .month (-12) self.noon

def oneWeekAgo (self : Date) : Date :=
  adding .day (-7) self.noon

def oneMonthAgo (self : Date) : Date :=
  adding .month (-1) self.noon

def threeMonthsAgo (self : Date) : Date :=
  adding .month (-3) self.noon

def infiniteAgo (self : Date) : Date :=
  adding .year 100 self.noon

def isLastDayOfMonth (self : Date) : Bool :=
  self.tomorrow.month != self.month

end Date

structure ATCChartDate where
  title : String
  startDate : Date

/-- The ranges of the chart for the date of today. -/
def dateList (date : Date) : List ATCChartDate :=
  [⟨"1D", date.yesterday⟩, ⟨"1W", date.oneWeekAgo⟩, ⟨"1M", date.oneMonthAgo⟩,
    ⟨"3M", date.threeMonthsAgo⟩, ⟨"1Y", date.oneYearAgo⟩, ⟨"All", date.infiniteAgo⟩]

end FinanciaApp.Source
