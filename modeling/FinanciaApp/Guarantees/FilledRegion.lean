import FinanciaApp.Guarantees.ClosedPath

/-!
# The region under a line

The curved closed path fills the region under its curve for all data. The straight one does
where its first data point is on the baseline, and only there.
-/

set_option autoImplicit false

namespace FinanciaApp.Guarantees

open Library Source

universe u

variable {K : Type u} [Field K] [LinearOrder K]

section Outlines

omit [LinearOrder K] in
theorem downToBaseline_polyline (p q : CGPoint K) (qs : List (CGPoint K)) :
    downToBaseline (polyline (p :: q :: qs)) =
      polyline (p :: q :: qs) ++ (wayBack ((q :: qs).getLastD p) ⟨p.x, 0⟩ ++
        [.straight ⟨p.x, 0⟩ p]) := by
  have stop : ((polyline (q :: qs)).getLastD (.straight p q)).stop = qs.getLastD q :=
    (chained_polyline q qs).stop_getLastD (.straight p q) rfl
  rw [polyline, downToBaseline, stop, List.getLastD_cons]
  rfl

theorem downToBaseline_curvePieces (p q : CGPoint K) (qs : List (CGPoint K)) :
    downToBaseline ((curvePieces (p :: q :: qs)).map Edge.quad) =
      (curvePieces (p :: q :: qs)).map Edge.quad ++
        (wayBack ((q :: qs).getLastD p) ⟨p.x, 0⟩ ++ [.straight ⟨p.x, 0⟩ p]) := by
  have stop : (((curvePieces (q :: qs)).map Edge.quad).getLastD
      (.quad (secondHalf p q))).stop = qs.getLastD q :=
    (chained_curveEdges q qs).stop_getLastD (.quad (secondHalf p q)) rfl
  rw [curvePieces, List.map_cons, downToBaseline, List.map_cons, List.getLastD_cons, stop,
    List.getLastD_cons]
  rfl

/-- With the first point on the baseline the last edge of the outline is a single point. -/
theorem outline_closedLine {p : CGPoint K} (level : p.y = 0) (q : CGPoint K)
    (qs : List (CGPoint K)) :
    List.IsRotated
      ((polyline (p :: q :: qs) ++ wayBack ((q :: qs).getLastD p) p).filter Edge.isProper)
      ((downToBaseline (polyline (p :: q :: qs))).filter Edge.isProper) := by
  have corner : (⟨p.x, 0⟩ : CGPoint K) = p := by rw [← level]
  have single : [Edge.straight p p].filter Edge.isProper = [] := by simp [Edge.isProper]
  rw [downToBaseline_polyline, corner, ← List.append_assoc, List.filter_append _ [_], single,
    List.append_nil]

/-- The curved path begins with the last edge of the outline. -/
theorem outline_quadClosed {p : CGPoint K} (origin : p.x = 0) (q : CGPoint K)
    (qs : List (CGPoint K)) :
    List.IsRotated
      ((.straight .zero p :: ((curvePieces (p :: q :: qs)).map Edge.quad ++
        wayBack ((q :: qs).getLastD p) .zero)).filter Edge.isProper)
      ((downToBaseline ((curvePieces (p :: q :: qs)).map Edge.quad)).filter Edge.isProper) := by
  have corner : (⟨p.x, 0⟩ : CGPoint K) = .zero := by rw [origin, CGPoint.zero]
  rw [downToBaseline_curvePieces, corner, ← List.append_assoc, List.filter_append _ [_],
    ← List.singleton_append, List.filter_append [_]]
  exact List.isRotated_append

end Outlines

section Builders

variable [IsStrictOrderedRing K] {points : List K} {step : CGPoint K}

/-- The curved closed path fills the region under its curve, wherever the curve begins. -/
theorem fillsUnder_quadClosed (step : CGPoint K) (globalOffset : Option K)
    (enough : 2 ≤ points.length) :
    FillsUnder (Source.Path.quadClosedCurvedPathWithPoints points step globalOffset)
      (Source.Path.quadCurvedPathWithPoints points step globalOffset) := by
  obtain ⟨p, q, qs, scaled⟩ := exists_scaledPoints step (baseline globalOffset points) enough
  have origin : p.x = 0 := first_x scaled
  exact ⟨_, _, edges_quadClosedCurvedPath enough scaled, edges_quadCurvedPath enough scaled,
    signedArea_quadClosed (q :: qs) origin, outline_quadClosed origin q qs⟩

/-- What the view with curved lines fills is the region under the curve that it draws. -/
theorem fillsUnder_closedPath {view : ATCLineChartLineProgress K}
    (enough : 2 ≤ view.data.onlyPoints.length) (curved : view.curvedLines = true) :
    FillsUnder view.closedPath view.path := by
  rw [ATCLineChartLineProgress.closedPath, ATCLineChartLineProgress.path, if_pos curved,
    if_pos curved]
  exact fillsUnder_quadClosed _ view.minDataValue enough

/-- The height of the first scaled point is that of the triangle. -/
theorem first_level_iff {p : CGPoint K} {ps : List (CGPoint K)} (enough : 2 ≤ points.length)
    (scaled : scaledPoints step (baseline none points) points = p :: ps) :
    p.y = 0 ↔ points.head? = points.min? ∨ step.y = 0 := by
  obtain ⟨first, second, rest, least, rfl, minimum, head, -⟩ := exists_data enough scaled
  rw [← head, scaledPoint, Option.getD_none, mul_eq_zero, sub_eq_zero, minimum, List.head?_cons,
    Option.some_inj]
  exact or_comm

theorem fillsUnder_closedLine_iff (enough : 2 ≤ points.length) (forward : 0 < step.x) :
    FillsUnder (Source.Path.closedLinePathWithPoints points step)
        (Source.Path.linePathWithPoints points step) ↔
      points.head? = points.min? ∨ step.y = 0 := by
  obtain ⟨p, q, qs, scaled⟩ := exists_scaledPoints step (baseline none points) enough
  rw [← first_level_iff enough scaled]
  have area := signedArea_closedLine p (q :: qs)
  constructor
  · rintro ⟨outline, edges, houtline, hedges, same, -⟩
    obtain rfl := Option.some.inj ((edges_closedLinePath enough scaled).symm.trans houtline)
    obtain rfl := Option.some.inj ((edges_linePath enough scaled).symm.trans hedges)
    have origin : p.x = 0 := first_x scaled
    have wide : 0 < ((q :: qs).getLastD p).x := by
      rw [getLastD_scaledPoints scaled]
      apply mul_pos forward
      exact_mod_cast (by omega : 0 < points.length - 1)
    have triangle : p.y * (p.x - ((q :: qs).getLastD p).x) / 2 = 0 := by
      rw [wayBack] at area
      exact left_eq_add.mp (same.symm.trans area)
    rw [origin, zero_sub, div_eq_zero_iff, or_iff_left two_ne_zero, mul_eq_zero] at triangle
    exact triangle.resolve_right (neg_ne_zero.mpr wide.ne')
  · intro level
    refine ⟨_, _, edges_closedLinePath enough scaled, edges_linePath enough scaled, ?_,
      outline_closedLine level q qs⟩
    rw [level, zero_mul, zero_div, add_zero] at area
    exact area

/-- Both closed paths fill the region under their lines exactly where the straight one
begins on the baseline. -/
theorem closed_paths_fill_under_iff (points : List K) (step : CGPoint K)
    (globalOffset : Option K) (enough : 2 ≤ points.length) (forward : 0 < step.x) :
    (FillsUnder (Source.Path.closedLinePathWithPoints points step)
        (Source.Path.linePathWithPoints points step) ∧
      FillsUnder (Source.Path.quadClosedCurvedPathWithPoints points step globalOffset)
        (Source.Path.quadCurvedPathWithPoints points step globalOffset)) ↔
      points.head? = points.min? ∨ step.y = 0 := by
  rw [and_iff_left (fillsUnder_quadClosed step globalOffset enough)]
  exact fillsUnder_closedLine_iff enough forward

end Builders

/-- The path for 1, 2, 1 begins at the least value. -/
theorem closed_paths_fill_under_iff_hill :
    (FillsUnder (Source.Path.closedLinePathWithPoints [1, 2, (1 : ℚ)] ⟨1, 1⟩)
        (Source.Path.linePathWithPoints [1, 2, 1] ⟨1, 1⟩) ∧
      FillsUnder (Source.Path.quadClosedCurvedPathWithPoints [1, 2, (1 : ℚ)] ⟨1, 1⟩ none)
        (Source.Path.quadCurvedPathWithPoints [1, 2, 1] ⟨1, 1⟩ none)) :=
  (closed_paths_fill_under_iff [1, 2, 1] ⟨1, 1⟩ none (by decide) (by decide +kernel)).mpr
    (Or.inl (by decide +kernel))

/-- The closed path for 2, 1 encloses nothing; the line has the area 1/2 under it. -/
theorem closed_line_misses_triangle :
    2 ≤ [2, (1 : ℚ)].length ∧ (0 : ℚ) < 1 ∧ (0 : ℚ) ≤ 1 ∧
    (∃ outline edges,
      pathEdges (Source.Path.closedLinePathWithPoints [2, (1 : ℚ)] ⟨1, 1⟩) = some outline ∧
      pathEdges (Source.Path.linePathWithPoints [2, (1 : ℚ)] ⟨1, 1⟩) = some edges ∧
      signedArea outline = 0 ∧ areaUnder edges = 1 / 2) ∧
    ¬FillsUnder (Source.Path.closedLinePathWithPoints [2, (1 : ℚ)] ⟨1, 1⟩)
      (Source.Path.linePathWithPoints [2, 1] ⟨1, 1⟩) := by
  refine ⟨by decide, by decide +kernel, by decide +kernel, ?_, ?_⟩
  · exact ⟨_, _, rfl, rfl, by decide +kernel, by decide +kernel⟩
  · rw [fillsUnder_closedLine_iff (by decide) (by decide +kernel)]
    decide +kernel

end FinanciaApp.Guarantees
