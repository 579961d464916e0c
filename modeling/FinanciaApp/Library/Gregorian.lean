import Mathlib

/-!
# The proleptic Gregorian calendar

A day is a month, counted from January of the year 0, and a day of that month. Days are
added one after the other; months and years are added to the month, and a day that the new
month does not have becomes its last one.

* `addDays_neg_lt`: more days back is earlier.
* `addMonths_lt`: fewer months is earlier.
* `addMonths_neg_one_lt`: a month back is earlier than up to 27 days back.
-/

set_option autoImplicit false

namespace FinanciaApp.Library

def IsLeapYear (year : ℤ) : Prop :=
  year % 4 = 0 ∧ (year % 100 ≠ 0 ∨ year % 400 = 0)

instance (year : ℤ) : Decidable (IsLeapYear year) :=
  inferInstanceAs (Decidable (_ ∧ _))

/-- The days of a month, by the number of months since January of the year 0. -/
def monthLength (month : ℤ) : ℕ :=
  if month % 12 = 1 then (if IsLeapYear (month / 12) then 29 else 28)
  else if month % 12 = 3 ∨ month % 12 = 5 ∨ month % 12 = 8 ∨ month % 12 = 10 then 30
  else 31

theorem monthLength_ge (month : ℤ) : 28 ≤ monthLength month := by
  rw [monthLength]
  split_ifs <;> omega

@[ext]
structure CivilDate where
  month : ℤ
  day : ℕ
  first_le : 1 ≤ day
  le_last : day ≤ monthLength month
deriving DecidableEq

namespace CivilDate

/-- Day `day` of month `month`, from 1, of a year. -/
def ofYear (year : ℤ) (month day : ℕ) (first_le : 1 ≤ day)
    (le_last : day ≤ monthLength (12 * year + (month - 1 : ℕ))) : CivilDate :=
  ⟨12 * year + (month - 1 : ℕ), day, first_le, le_last⟩

def key (date : CivilDate) : ℤ ×ₗ ℕ :=
  toLex (date.month, date.day)

theorem key_injective : Function.Injective key := by
  intro a b same
  have parts := Prod.mk.inj (toLex.injective same)
  exact CivilDate.ext parts.1 parts.2

instance : LinearOrder CivilDate :=
  LinearOrder.lift' key key_injective

theorem lt_iff {a b : CivilDate} :
    a < b ↔ a.month < b.month ∨ (a.month = b.month ∧ a.day < b.day) :=
  Prod.Lex.lt_iff

/-! ## Days -/

def next (date : CivilDate) : CivilDate :=
  if h : date.day < monthLength date.month then ⟨date.month, date.day + 1, by omega, h⟩
  else ⟨date.month + 1, 1, le_rfl, le_trans (by omega) (monthLength_ge _)⟩

def previous (date : CivilDate) : CivilDate :=
  if h : 1 < date.day then
    ⟨date.month, date.day - 1, by omega, le_trans (Nat.sub_le _ _) date.le_last⟩
  else
    ⟨date.month - 1, monthLength (date.month - 1), le_trans (by omega) (monthLength_ge _), le_rfl⟩

def addDays (date : CivilDate) : ℤ → CivilDate
  | .ofNat count => next^[count] date
  | .negSucc count => previous^[count + 1] date

/-! ## Months and years -/

def addMonths (date : CivilDate) (count : ℤ) : CivilDate :=
  ⟨date.month + count, min date.day (monthLength (date.month + count)),
    le_min date.first_le (le_trans (by omega) (monthLength_ge _)), min_le_right _ _⟩

def addYears (date : CivilDate) (count : ℤ) : CivilDate :=
  date.addMonths (12 * count)

/-! ## The order of dates -/

theorem previous_lt (date : CivilDate) : date.previous < date := by
  rw [lt_iff, previous]
  split_ifs with later
  · right
    exact ⟨rfl, by change date.day - 1 < date.day; omega⟩
  · left
    change date.month - 1 < date.month
    omega

theorem lt_next (date : CivilDate) : date < date.next := by
  rw [lt_iff, next]
  split_ifs with inside
  · right
    exact ⟨rfl, Nat.lt_succ_self date.day⟩
  · left
    exact Int.lt_succ date.month

theorem addDays_neg (date : CivilDate) (count : ℕ) :
    date.addDays (-(count : ℤ)) = previous^[count] date := by
  cases count with
  | zero => rfl
  | succ count => rfl

theorem addDays_neg_lt (date : CivilDate) {fewer more : ℕ} (lt : fewer < more) :
    date.addDays (-(more : ℤ)) < date.addDays (-(fewer : ℤ)) := by
  have decreasing : StrictAnti fun count : ℕ => previous^[count] date := by
    apply strictAnti_nat_of_succ_lt
    intro count
    rw [Function.iterate_succ_apply']
    exact previous_lt _
  rw [addDays_neg, addDays_neg]
  exact decreasing lt

theorem addMonths_lt (date : CivilDate) {fewer more : ℤ} (lt : fewer < more) :
    date.addMonths fewer < date.addMonths more := by
  rw [lt_iff]
  left
  change date.month + fewer < date.month + more
  omega

theorem lt_addMonths (date : CivilDate) {count : ℤ} (positive : 0 < count) :
    date < date.addMonths count := by
  rw [lt_iff]
  left
  change date.month < date.month + count
  omega

/-- Going back stays in the month, or ends in the one before it. -/
theorem iterate_previous (date : CivilDate) (count : ℕ) (few : count < 28) :
    (count < date.day ∧ (previous^[count] date).month = date.month ∧
      (previous^[count] date).day = date.day - count) ∨
    (date.day ≤ count ∧ (previous^[count] date).month = date.month - 1 ∧
      (previous^[count] date).day = monthLength (date.month - 1) + date.day - count) := by
  have long := monthLength_ge (date.month - 1)
  have first := date.first_le
  induction count with
  | zero => exact Or.inl ⟨first, rfl, rfl⟩
  | succ count ih =>
    rw [Function.iterate_succ_apply', previous]
    rcases ih (by omega) with ⟨inside, month, day⟩ | ⟨before, month, day⟩
    · split_ifs with later
      · left
        refine ⟨by omega, month, ?_⟩
        change (previous^[count] date).day - 1 = _
        omega
      · right
        refine ⟨by omega, ?_, ?_⟩
        · change (previous^[count] date).month - 1 = _
          rw [month]
        · change monthLength ((previous^[count] date).month - 1) = _
          rw [month]
          omega
    · rw [dif_pos (by omega)]
      right
      refine ⟨by omega, month, ?_⟩
      change (previous^[count] date).day - 1 = _
      omega

/-- A month back is earlier than fewer days back than any month has. -/
theorem addMonths_neg_one_lt (date : CivilDate) {count : ℕ} (few : count < 28) :
    date.addMonths (-1) < date.addDays (-(count : ℤ)) := by
  have long := monthLength_ge (date.month - 1)
  rw [lt_iff, addDays_neg]
  rcases date.iterate_previous count few with ⟨-, month, -⟩ | ⟨before, month, day⟩
  · left
    rw [month]
    change date.month + -1 < date.month
    omega
  · right
    rw [month, day]
    refine ⟨rfl, ?_⟩
    change min date.day _ < _
    exact lt_of_le_of_lt (min_le_left _ _) (by omega)

end CivilDate

end FinanciaApp.Library
