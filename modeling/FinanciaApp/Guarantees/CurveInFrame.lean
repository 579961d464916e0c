import FinanciaApp.Guarantees.ChartScale
import FinanciaApp.Guarantees.CurvedPath

/-!
# The curve in the frame of its view

With the steps of `ATCLineChartLineProgress` every data point is scaled into the frame less
the padding, also where the least value is positive and the height is divided by the sum of
the bounds. The curve stays between its data points, so it stays there too.
-/

set_option autoImplicit false

namespace FinanciaApp.Guarantees

open Library Source

universe u

variable {K : Type u} [Field K] [LinearOrder K] [IsStrictOrderedRing K]

section Piece

variable {p q : CGPoint K} {piece : QuadPiece K} {t : K}

theorem half_mem_uIcc (half : piece = firstHalf p q ∨ piece = secondHalf p q)
    (ht : t ∈ Set.Icc 0 1) :
    (piece.point t).x ∈ Set.uIcc p.x q.x ∧ (piece.point t).y ∈ Set.uIcc p.y q.y := by
  have middle := midpoint_mem_uIcc p.x q.x
  rcases half with rfl | rfl
  · refine ⟨?_, firstHalf_y_mem p q ht⟩
    rw [QuadPiece.point_x, firstHalf, controlPointForPoints_eq]
    exact quadratic_mem_uIcc Set.left_mem_uIcc
      (Set.uIcc_subset_uIcc middle Set.left_mem_uIcc (midpoint_mem_uIcc _ _)) middle ht
  · refine ⟨?_, secondHalf_y_mem p q ht⟩
    rw [QuadPiece.point_x, secondHalf, controlPointForPoints_eq]
    exact quadratic_mem_uIcc middle
      (Set.uIcc_subset_uIcc middle Set.right_mem_uIcc (midpoint_mem_uIcc _ _))
      Set.right_mem_uIcc ht

end Piece

/-- A box that holds the data points holds the curve. -/
theorem curve_mem_box {scaled : List (CGPoint K)} {left right low high : K}
    (inBox : ∀ p ∈ scaled, p.x ∈ Set.Icc left right ∧ p.y ∈ Set.Icc low high) :
    ∀ piece ∈ curvePieces scaled, ∀ t ∈ Set.Icc (0 : K) 1,
      (piece.point t).x ∈ Set.Icc left right ∧ (piece.point t).y ∈ Set.Icc low high := by
  intro piece member t ht
  obtain ⟨k, found⟩ := List.mem_iff_getElem?.mp member
  obtain ⟨i, p, q, hp, hq, half⟩ := curvePieces_getElem? found
  obtain ⟨px, py⟩ := inBox p (List.mem_of_getElem? hp)
  obtain ⟨qx, qy⟩ := inBox q (List.mem_of_getElem? hq)
  have between := half_mem_uIcc (half.imp And.right And.right) ht
  exact ⟨Set.uIcc_subset_Icc px qx between.1, Set.uIcc_subset_Icc py qy between.2⟩

section View

variable {view : ATCLineChartLineProgress K}

theorem stepWidth_pos (enough : 2 ≤ view.data.onlyPoints.length) (wide : 0 < view.size.width) :
    0 < view.stepWidth := by
  have count : 2 ≤ view.data.points.length := by
    simpa [ATCLineChartDataSource.onlyPoints] using enough
  rw [ATCLineChartLineProgress.stepWidth, stepWidth, if_neg (by omega)]
  apply div_pos wide
  exact_mod_cast (by omega : 0 < view.data.points.length - 1)

/-- The last data point is at the right edge. -/
theorem stepWidth_mul (enough : 2 ≤ view.data.onlyPoints.length) :
    view.stepWidth * ((view.data.onlyPoints.length - 1 : ℕ) : K) = view.size.width := by
  have count : view.data.onlyPoints.length = view.data.points.length := by
    simp [ATCLineChartDataSource.onlyPoints]
  have positive : ((view.data.points.length - 1 : ℕ) : K) ≠ 0 := by
    exact_mod_cast (by omega : view.data.points.length - 1 ≠ 0)
  rw [ATCLineChartLineProgress.stepWidth, stepWidth, if_neg (by omega), count,
    div_mul_cancel₀ _ positive]

/-- Every data point is scaled into the frame less the padding. -/
theorem scaledPoints_mem_frame (enough : 2 ≤ view.data.onlyPoints.length)
    (noMin : view.minDataValue = none) (wide : 0 < view.size.width)
    (high : 30 ≤ view.size.height) :
    ∀ p ∈ scaledPoints ⟨view.stepWidth, view.stepHeight⟩ (baseline none view.data.onlyPoints)
        view.data.onlyPoints,
      p.x ∈ Set.Icc 0 view.size.width ∧ p.y ∈ Set.Icc 0 (view.size.height - 30) := by
  intro p member
  obtain ⟨i, found⟩ := List.mem_iff_getElem?.mp member
  rw [scaledPoints_getElem?, Option.map_eq_some_iff] at found
  obtain ⟨value, drawn, rfl⟩ := found
  have hvalue : value ∈ view.data.onlyPoints := List.mem_of_getElem? drawn
  obtain ⟨least, greatest, hleast, hgreatest⟩ := exists_bounds hvalue
  constructor
  · have inside : i < view.data.onlyPoints.length := (List.getElem?_eq_some_iff.mp drawn).1
    have index : (i : K) ≤ ((view.data.onlyPoints.length - 1 : ℕ) : K) := by
      exact_mod_cast (by omega : i ≤ view.data.onlyPoints.length - 1)
    have positive := stepWidth_pos enough wide
    constructor
    · exact mul_nonneg positive.le (Nat.cast_nonneg i)
    · rw [← stepWidth_mul enough]
      exact mul_le_mul_of_nonneg_left index positive.le
  · simp only [scaledPoint, baseline, Option.getD_none, hleast, Option.getD_some]
    rw [progress_stepHeight noMin hleast hgreatest]
    exact scaled_mem_Icc (sub_nonneg.mpr high) (min?_le hleast hvalue)
      (le_max? hgreatest hvalue)

end View

/-- The curve follows the data, and in the view without bindings it stays in the frame. -/
theorem curve_follows_data (points : List K) (step : CGPoint K) (globalOffset : Option K)
    (enough : 2 ≤ points.length) (forward : 0 < step.x) :
    (∃ pieces : List (QuadPiece K),
      pathEdges (Source.Path.quadCurvedPathWithPoints points step globalOffset) =
        some (pieces.map Edge.quad) ∧
      FollowsData (scaledPoints step (baseline globalOffset points) points) pieces) ∧
    ∀ view : ATCLineChartLineProgress K, view.data.onlyPoints = points →
      view.minDataValue = none → view.maxDataValue = none → view.curvedLines = true →
      0 < view.size.width → 30 ≤ view.size.height →
      ∃ pieces : List (QuadPiece K), pathEdges view.path = some (pieces.map Edge.quad) ∧
        ∀ piece ∈ pieces, ∀ t ∈ Set.Icc (0 : K) 1,
          (piece.point t).x ∈ Set.Icc 0 view.size.width ∧
          (piece.point t).y ∈ Set.Icc 0 (view.size.height - 30) := by
  constructor
  · refine ⟨curvePieces (scaledPoints step (baseline globalOffset points) points), ?_,
      followsData enough forward⟩
    obtain ⟨p, q, ps, scaled⟩ :=
      exists_scaledPoints step (baseline globalOffset points) enough
    rw [edges_quadCurvedPath enough scaled, scaled]
  · rintro view rfl noMin - curved wide high
    refine ⟨_, ?_, curve_mem_box (scaledPoints_mem_frame enough noMin wide high)⟩
    obtain ⟨p, q, ps, scaled⟩ :=
      exists_scaledPoints ⟨view.stepWidth, view.stepHeight⟩
        (baseline none view.data.onlyPoints) enough
    rw [ATCLineChartLineProgress.path, if_pos curved, noMin, edges_quadCurvedPath enough scaled,
      scaled]

/-- The view of the source's preview, whose data fall and rise across zero. -/
def previewView : ATCLineChartLineProgress ℚ where
  data := ⟨[("", 12), ("", -230), ("", 10), ("", 54)]⟩
  size := ⟨320, 160⟩
  minDataValue := none
  maxDataValue := none
  curvedLines := true

theorem curve_follows_data_preview :
    (∃ pieces : List (QuadPiece ℚ),
      pathEdges (Source.Path.quadCurvedPathWithPoints [12, -230, 10, 54] ⟨100, 1 / 2⟩ none) =
        some (pieces.map Edge.quad) ∧
      FollowsData
        (scaledPoints ⟨100, 1 / 2⟩ (baseline none [12, -230, 10, (54 : ℚ)]) [12, -230, 10, 54])
        pieces) ∧
    ∃ pieces : List (QuadPiece ℚ), pathEdges previewView.path = some (pieces.map Edge.quad) ∧
      ∀ piece ∈ pieces, ∀ t ∈ Set.Icc (0 : ℚ) 1,
        (piece.point t).x ∈ Set.Icc 0 320 ∧ (piece.point t).y ∈ Set.Icc 0 (160 - 30) := by
  have curve := curve_follows_data [12, -230, 10, (54 : ℚ)] ⟨100, 1 / 2⟩ none (by decide)
    (by norm_num)
  exact ⟨curve.1, curve.2 previewView rfl rfl rfl rfl (by decide +kernel) (by decide +kernel)⟩

end FinanciaApp.Guarantees
