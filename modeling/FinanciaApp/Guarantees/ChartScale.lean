import Mathlib.Algebra.Order.Field.Basic
import Mathlib.Tactic.Linarith
import FinanciaApp.Source.ATCLineChart

/-!
# The scales of the chart views

Both views divide their height less a padding by the same number: the tests `min <= 0` and
`min < 0` differ only where the sum and the difference of the bounds are equal.
-/

set_option autoImplicit false

namespace FinanciaApp.Guarantees

open Source

universe u

variable {K : Type u} [Field K] [LinearOrder K]

/-- What the views divide by. -/
def divisor (least greatest : K) : K :=
  if least ≤ 0 then greatest - least else greatest + least

/-- The room over the divisor; 0 for constant data. -/
def scaleOver (room least greatest : K) : K :=
  if least ≠ greatest then room / divisor least greatest else 0

section Bounds

variable {points : List K} {value least greatest : K}

omit [Field K] in
theorem exists_bounds (member : value ∈ points) :
    ∃ least greatest, points.min? = some least ∧ points.max? = some greatest := by
  have nonempty : points ≠ [] := List.ne_nil_of_mem member
  obtain ⟨least, hleast⟩ := Option.isSome_iff_exists.mp (List.isSome_min?_of_ne_nil nonempty)
  obtain ⟨greatest, hgreatest⟩ :=
    Option.isSome_iff_exists.mp (List.isSome_max?_of_ne_nil nonempty)
  exact ⟨least, greatest, hleast, hgreatest⟩

omit [Field K] in
theorem min?_le (hleast : points.min? = some least) (member : value ∈ points) :
    least ≤ value :=
  (List.min?_eq_some_iff.mp hleast).2 value member

omit [Field K] in
theorem le_max? (hgreatest : points.max? = some greatest) (member : value ∈ points) :
    value ≤ greatest :=
  (List.max?_eq_some_iff.mp hgreatest).2 value member

end Bounds

section Steps

variable {least greatest : K}

theorem progress_stepHeight {view : ATCLineChartLineProgress K}
    (noMin : view.minDataValue = none) (hleast : view.data.onlyPoints.min? = some least)
    (hgreatest : view.data.onlyPoints.max? = some greatest) :
    view.stepHeight = scaleOver (view.size.height - 30) least greatest := by
  simp only [ATCLineChartLineProgress.stepHeight, ATCLineChartLineProgress.dataBounds, noMin,
    hleast, hgreatest]
  by_cases spread : least = greatest
  · simp [scaleOver, spread]
  · simp [scaleOver, divisor, spread, ATCLineChartLineProgress.padding]

theorem board_stepHeight {view : ATCChartBoardView K}
    (hleast : view.data.onlyPoints.min? = some least)
    (hgreatest : view.data.onlyPoints.max? = some greatest) :
    view.stepHeight = scaleOver (view.size.height - 3) least greatest := by
  simp only [ATCChartBoardView.stepHeight, hleast, hgreatest, scaleOver, divisor,
    ATCChartBoardView.padding]
  rcases lt_trichotomy least 0 with negative | rfl | positive
  · rw [if_pos negative, if_pos negative.le]
  · rw [if_neg (lt_irrefl 0), if_pos le_rfl, add_zero, sub_zero]
  · rw [if_neg positive.not_gt, if_neg positive.not_ge]

end Steps

section Ordered

variable [IsStrictOrderedRing K] {room least greatest value : K}

theorem spread_le_divisor (least greatest : K) :
    greatest - least ≤ divisor least greatest := by
  rw [divisor]
  split_ifs with sign
  · exact le_rfl
  · have positive : 0 < least := lt_of_not_ge sign
    linarith

theorem divisor_pos (spread : least < greatest) : 0 < divisor least greatest :=
  lt_of_lt_of_le (sub_pos.mpr spread) (spread_le_divisor least greatest)

/-- The divisor is at least the spread of the data, so a value scales into the room. -/
theorem scaled_mem_Icc (hroom : 0 ≤ room) (lower : least ≤ value) (upper : value ≤ greatest) :
    scaleOver room least greatest * (value - least) ∈ Set.Icc 0 room := by
  have above : 0 ≤ value - least := sub_nonneg.mpr lower
  rw [scaleOver]
  split_ifs with spread
  · have positive : 0 < divisor least greatest :=
      divisor_pos (lt_of_le_of_ne (lower.trans upper) spread)
    have part : value - least ≤ divisor least greatest :=
      (sub_le_sub_right upper least).trans (spread_le_divisor least greatest)
    rw [div_mul_eq_mul_div, mul_div_assoc]
    constructor
    · exact mul_nonneg hroom (div_nonneg above positive.le)
    · exact mul_le_of_le_one_right hroom ((div_le_one positive).mpr part)
  · rw [zero_mul]
    exact ⟨le_rfl, hroom⟩

end Ordered

end FinanciaApp.Guarantees
