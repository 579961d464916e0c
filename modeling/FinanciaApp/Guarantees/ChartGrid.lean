import FinanciaApp.Guarantees.CurveInFrame

/-!
# The grid and the curve

The board leaves a padding of 3 of its height, the curve one of 30, and both divide by the
same number. So for the same height their scales differ by 27 over that number, and a grid
line meets the drawn point of its value at the least value only, which both draw at 0.
-/

set_option autoImplicit false

namespace FinanciaApp.Guarantees

open Library Source

universe u

variable {K : Type u} [Field K] [LinearOrder K]

def elementTarget : PathElement K → Option (CGPoint K)
  | .move target => some target
  | .line target => some target
  | .quadCurve target _ => some target
  | .curve target _ _ => some target
  | .closeSubpath => none

omit [Field K] [LinearOrder K] in
theorem getElem?_bind_elementTarget {elements : List (PathElement K)}
    {targets : List (CGPoint K)} (same : elements.map elementTarget = targets.map some) (k : ℕ) :
    elements[k]?.bind elementTarget = targets[k]? := by
  have atIndex := congrArg (·[k]?) same
  simp only [List.getElem?_map] at atIndex
  cases found : elements[k]? with
  | none =>
    rw [found, Option.map_none, eq_comm, Option.map_eq_none_iff] at atIndex
    rw [atIndex, Option.bind_none]
  | some element =>
    rw [found, Option.map_some, eq_comm, Option.map_eq_some_iff] at atIndex
    obtain ⟨target, there, same⟩ := atIndex
    rw [there, Option.bind_some, same]

/-- The point that the view draws for the data value at the index: the curve has two pieces
for each value after the first, the straight line one. -/
def drawnPoint (view : ATCLineChartLineProgress K) (i : ℕ) : Option (CGPoint K) :=
  view.path.elements[if view.curvedLines then 2 * i else i]?.bind elementTarget

theorem drawnPoint_eq {view : ATCLineChartLineProgress K} (noMin : view.minDataValue = none)
    (enough : 2 ≤ view.data.onlyPoints.length) (i : ℕ) :
    drawnPoint view i =
      (scaledPoints ⟨view.stepWidth, view.stepHeight⟩ (baseline none view.data.onlyPoints)
        view.data.onlyPoints)[i]? := by
  obtain ⟨p, q, qs, scaled⟩ := exists_scaledPoints ⟨view.stepWidth, view.stepHeight⟩
    (baseline none view.data.onlyPoints) enough
  rw [drawnPoint, ATCLineChartLineProgress.path, noMin, scaled]
  by_cases curved : view.curvedLines = true
  · rw [if_pos curved, if_pos curved, quadCurvedPath_elements enough scaled,
      ← targets_getElem? p (q :: qs) i]
    apply getElem?_bind_elementTarget
    simp [elementTarget, QuadPiece.element, Function.comp_def]
  · rw [if_neg curved, if_neg curved, linePath_elements enough scaled]
    apply getElem?_bind_elementTarget
    simp [elementTarget, Function.comp_def]

variable [IsStrictOrderedRing K]

/-- The five values of the grid are between the bounds of the data. -/
theorem getYchartBoardSafe_mem {view : ATCChartBoardView K} {least greatest : K}
    (hleast : view.data.onlyPoints.min? = some least)
    (hgreatest : view.data.onlyPoints.max? = some greatest) (le : least ≤ greatest)
    (height : Fin 5) : view.getYchartBoardSafe height ∈ Set.Icc least greatest := by
  have board : view.getYchartBoardSafe height = least + (greatest - least) / 4 * (height : ℕ) := by
    simp only [ATCChartBoardView.getYchartBoardSafe, ATCChartBoardView.getYchartBoard, hleast,
      hgreatest, Option.bind_eq_bind, Option.bind_some]
    fin_cases height <;> simp
  have level : ((height : ℕ) : K) ≤ 4 := by exact_mod_cast Nat.le_of_lt_succ height.isLt
  have quarter : 0 ≤ (greatest - least) / 4 := by linarith
  rw [board]
  constructor
  · exact le_add_of_nonneg_right (mul_nonneg quarter (Nat.cast_nonneg _))
  · have top := mul_le_mul_of_nonneg_left level quarter
    linarith

/-- Every grid line is drawn inside the frame less the padding of the board. -/
theorem grid_line_mem_frame {view : ATCChartBoardView K} (nonempty : view.data.onlyPoints ≠ [])
    (high : 3 ≤ view.size.height) (height : Fin 5) :
    (view.getYchartBoardSafe height - view.min) * view.stepHeight ∈
      Set.Icc 0 (view.size.height - 3) := by
  obtain ⟨value, member⟩ := List.exists_mem_of_ne_nil _ nonempty
  obtain ⟨least, greatest, hleast, hgreatest⟩ := exists_bounds member
  have label := getYchartBoardSafe_mem hleast hgreatest
    ((min?_le hleast member).trans (le_max? hgreatest member)) height
  rw [board_stepHeight hleast hgreatest, ATCChartBoardView.min, hleast, Option.getD_some, mul_comm]
  exact scaled_mem_Icc (sub_nonneg.mpr high) label.1 label.2

/-- The two scales agree at the least value only. -/
theorem scales_agree_iff {least greatest value height : K} (lower : least ≤ value)
    (upper : value ≤ greatest) :
    (value - least) * scaleOver (height - 3) least greatest =
        scaleOver (height - 30) least greatest * (value - least) ↔ least = value := by
  constructor
  · intro same
    by_contra above
    have positive : 0 < value - least := sub_pos.mpr (lt_of_le_of_ne lower above)
    have spread : least < greatest := (sub_pos.mp positive).trans_le upper
    have scales :
        (height - 3) / divisor least greatest = (height - 30) / divisor least greatest := by
      rw [scaleOver, scaleOver, if_pos spread.ne, if_pos spread.ne, mul_comm] at same
      exact mul_right_cancel₀ positive.ne' same
    have heights := (div_left_inj' (divisor_pos spread).ne').mp scales
    linarith
  · rintro rfl
    rw [sub_self, zero_mul, mul_zero]

/-- The grid line of a data value runs through the drawn point exactly for the least
value. -/
theorem grid_line_meets_point_iff (progress : ATCLineChartLineProgress K)
    (board : ATCChartBoardView K) (sameData : board.data = progress.data)
    (sameHeight : board.size.height = progress.size.height)
    (noMin : progress.minDataValue = none) (enough : 2 ≤ progress.data.onlyPoints.length)
    (i : ℕ) (value width : K) (drawn : progress.data.onlyPoints[i]? = some value) :
    ∃ point y, drawnPoint progress i = some point ∧
      (board.line value width).elements = [.move ⟨5, y⟩, .line ⟨width, y⟩] ∧
      (y = point.y ↔ progress.data.onlyPoints.min? = some value) := by
  have member : value ∈ progress.data.onlyPoints := List.mem_of_getElem? drawn
  obtain ⟨least, greatest, hleast, hgreatest⟩ := exists_bounds member
  have point := drawnPoint_eq noMin enough i
  rw [scaledPoints_getElem?, drawn, Option.map_some] at point
  refine ⟨_, (value - board.min) * board.stepHeight, point, rfl, ?_⟩
  simp only [scaledPoint, baseline, hleast, Option.getD_none, Option.getD_some,
    ATCChartBoardView.min, sameData]
  rw [progress_stepHeight noMin hleast hgreatest, board_stepHeight (sameData ▸ hleast)
    (sameData ▸ hgreatest), sameHeight, Option.some_inj]
  exact scales_agree_iff (min?_le hleast member) (le_max? hgreatest member)

/-- The board behind the source's preview of the curve. -/
def previewBoard : ATCChartBoardView ℚ where
  data := previewView.data
  size := ⟨350, 160⟩

theorem grid_line_meets_point_iff_preview :
    ∃ point y, drawnPoint previewView 1 = some point ∧
      (previewBoard.line (-230) 350).elements = [.move ⟨5, y⟩, .line ⟨350, y⟩] ∧
      (y = point.y ↔ previewView.data.onlyPoints.min? = some (-230)) :=
  grid_line_meets_point_iff previewView previewBoard rfl rfl rfl (by decide) 1 (-230) 350 rfl

/-- In the preview the value 12 is drawn below its grid line. -/
theorem grid_line_misses_point :
    previewBoard.data = previewView.data ∧
    previewBoard.size.height = previewView.size.height ∧
    previewView.minDataValue = none ∧ previewView.maxDataValue = none ∧
    2 ≤ previewView.data.onlyPoints.length ∧ previewView.data.onlyPoints[0]? = some 12 ∧
    ∃ point y, drawnPoint previewView 0 = some point ∧
      (previewBoard.line 12 350).elements = [.move ⟨5, y⟩, .line ⟨350, y⟩] ∧
      point.y < y := by
  refine ⟨rfl, rfl, rfl, rfl, by decide, rfl, ⟨0, 242 * (130 / 284)⟩, 242 * (157 / 284),
    ?_, ?_, ?_⟩
  · decide +kernel
  · decide +kernel
  · decide +kernel

end FinanciaApp.Guarantees
