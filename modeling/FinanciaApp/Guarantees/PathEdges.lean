import Mathlib.Algebra.Order.Field.Basic
import FinanciaApp.Library.QuadraticBezier
import FinanciaApp.Source.PathAdditions

/-!
# The edges that the builders draw

A path is read as the list of its edges, each with the point where it starts. The loops of
the builders then become lists over neighbouring scaled data points: two quadratic pieces,
or one line, for each pair.
-/

set_option autoImplicit false

namespace FinanciaApp.Guarantees

open Library Source

universe u

structure QuadPiece (K : Type u) where
  start : CGPoint K
  target : CGPoint K
  control : CGPoint K

inductive Edge (K : Type u) where
  | straight (start target : CGPoint K)
  | quad (piece : QuadPiece K)

variable {K : Type u} [Field K]

namespace QuadPiece

/-- The point that the source evaluates on the piece. -/
def point (piece : QuadPiece K) (t : K) : CGPoint K :=
  piece.start.pointQuad piece.target t piece.control

def velocity (piece : QuadPiece K) (t : K) : CGPoint K :=
  ⟨quadraticVelocity piece.start.x piece.control.x piece.target.x t,
    quadraticVelocity piece.start.y piece.control.y piece.target.y t⟩

def element (piece : QuadPiece K) : PathElement K :=
  .quadCurve piece.target piece.control

theorem point_x (piece : QuadPiece K) (t : K) :
    (piece.point t).x = quadratic piece.start.x piece.control.x piece.target.x t :=
  rfl

theorem point_y (piece : QuadPiece K) (t : K) :
    (piece.point t).y = quadratic piece.start.y piece.control.y piece.target.y t :=
  rfl

theorem point_zero (piece : QuadPiece K) : piece.point 0 = piece.start :=
  congrArg₂ CGPoint.mk (quadratic_zero _ _ _) (quadratic_zero _ _ _)

theorem point_one (piece : QuadPiece K) : piece.point 1 = piece.target :=
  congrArg₂ CGPoint.mk (quadratic_one _ _ _) (quadratic_one _ _ _)

/-- The velocity is the derivative of the evaluated point. -/
theorem hasDerivAt_point (piece : QuadPiece ℝ) (t : ℝ) :
    HasDerivAt (fun s => (piece.point s).x) (piece.velocity t).x t ∧
      HasDerivAt (fun s => (piece.point s).y) (piece.velocity t).y t :=
  ⟨hasDerivAt_quadratic _ _ _ t, hasDerivAt_quadratic _ _ _ t⟩

end QuadPiece

/-- The edges of the elements after a subpath that began at `start` has come to `point`;
none for cubic elements, which no builder adds. -/
def edgesFrom (start point : CGPoint K) : List (PathElement K) → Option (List (Edge K))
  | [] => some []
  | .move target :: rest => edgesFrom target target rest
  | .line target :: rest => (edgesFrom start target rest).map (.straight point target :: ·)
  | .quadCurve target control :: rest =>
    (edgesFrom start target rest).map (.quad ⟨point, target, control⟩ :: ·)
  | .curve _ _ _ :: _ => none
  | .closeSubpath :: rest => (edgesFrom start start rest).map (.straight point start :: ·)

def pathEdges (path : Source.Path K) : Option (List (Edge K)) :=
  edgesFrom .zero .zero path.elements

/-- The place of the data value with its index. -/
def scaledPoint (step : CGPoint K) (offset : K) (indexed : K × ℕ) : CGPoint K :=
  ⟨step.x * indexed.2, step.y * (indexed.1 - offset)⟩

def scaledPoints (step : CGPoint K) (offset : K) (points : List K) : List (CGPoint K) :=
  points.zipIdx.map (scaledPoint step offset)

variable [LinearOrder K]

/-- The offset that the builders subtract. -/
def baseline (globalOffset : Option K) (points : List K) : K :=
  globalOffset.getD (points.min?.getD 0)

def firstHalf (p q : CGPoint K) : QuadPiece K :=
  let midPoint := CGPoint.midPointForPoints p q
  ⟨p, midPoint, CGPoint.controlPointForPoints midPoint p⟩

def secondHalf (p q : CGPoint K) : QuadPiece K :=
  let midPoint := CGPoint.midPointForPoints p q
  ⟨midPoint, q, CGPoint.controlPointForPoints midPoint q⟩

def curvePieces : List (CGPoint K) → List (QuadPiece K)
  | p :: q :: rest => firstHalf p q :: secondHalf p q :: curvePieces (q :: rest)
  | _ => []

def polyline : List (CGPoint K) → List (Edge K)
  | p :: q :: rest => .straight p q :: polyline (q :: rest)
  | _ => []

section Loops

variable (step : CGPoint K) (offset : K)

theorem foldl_addQuadCurves (indexed : List (K × ℕ)) (path : Source.Path K) (p1 : CGPoint K) :
    indexed.foldl (Source.Path.addQuadCurves step offset) (path, p1) =
      (⟨path.elements ++
          (curvePieces (p1 :: indexed.map (scaledPoint step offset))).map QuadPiece.element⟩,
        (indexed.map (scaledPoint step offset)).getLastD p1) := by
  induction indexed generalizing path p1 with
  | nil => simp [curvePieces]
  | cons head tail ih =>
    rw [List.foldl_cons, Source.Path.addQuadCurves, ih, List.map_cons, List.getLastD_cons]
    simp [curvePieces, firstHalf, secondHalf, QuadPiece.element, scaledPoint, Source.Path.add]

omit [LinearOrder K] in
theorem foldl_addLines (indexed : List (K × ℕ)) (path : Source.Path K) (p1 : CGPoint K) :
    indexed.foldl (Source.Path.addLines step offset) (path, p1) =
      (⟨path.elements ++ (indexed.map (scaledPoint step offset)).map .line⟩,
        (indexed.map (scaledPoint step offset)).getLastD p1) := by
  induction indexed generalizing path p1 with
  | nil => simp
  | cons head tail ih =>
    rw [List.foldl_cons, Source.Path.addLines, ih, List.map_cons, List.getLastD_cons]
    simp [scaledPoint, Source.Path.add]

end Loops

section Reading

variable (start : CGPoint K)

theorem edgesFrom_curvePieces (p : CGPoint K) (ps : List (CGPoint K))
    (rest : List (PathElement K)) :
    edgesFrom start p ((curvePieces (p :: ps)).map QuadPiece.element ++ rest) =
      (edgesFrom start (ps.getLastD p) rest).map
        ((curvePieces (p :: ps)).map Edge.quad ++ ·) := by
  induction ps generalizing p with
  | nil => simp [curvePieces]
  | cons q qs ih =>
    rw [curvePieces, List.map_cons, List.map_cons, List.cons_append, List.cons_append,
      QuadPiece.element, edgesFrom, QuadPiece.element, edgesFrom]
    simp only [secondHalf, ih q, List.getLastD_cons]
    simp [firstHalf, Function.comp_def]

omit [Field K] [LinearOrder K] in
theorem edgesFrom_lines (p : CGPoint K) (ps : List (CGPoint K)) (rest : List (PathElement K)) :
    edgesFrom start p (ps.map PathElement.line ++ rest) =
      (edgesFrom start (ps.getLastD p) rest).map (polyline (p :: ps) ++ ·) := by
  induction ps generalizing p with
  | nil => simp [polyline]
  | cons q qs ih =>
    simp only [polyline, List.map_cons, List.cons_append, edgesFrom, List.getLastD_cons, ih q]
    simp [Function.comp_def]

end Reading

section Builders

variable {points : List K} {step : CGPoint K} {globalOffset : Option K} {p : CGPoint K}
  {ps : List (CGPoint K)}

/-- The data behind the guard of the builders: the first value, which the builders scale
first, and those that their loops scale. -/
theorem exists_data (enough : 2 ≤ points.length)
    (scaled : scaledPoints step (baseline globalOffset points) points = p :: ps) :
    ∃ first second rest least,
      points = first :: second :: rest ∧ points.min? = some least ∧
      scaledPoint step (globalOffset.getD least) (first, 0) = p ∧
      ((second :: rest).zipIdx 1).map (scaledPoint step (globalOffset.getD least)) = ps := by
  match points, enough with
  | first :: second :: rest, _ =>
    obtain ⟨least, minimum⟩ : ∃ least, (first :: second :: rest).min? = some least :=
      ⟨_, List.min?_cons⟩
    rw [baseline, minimum, scaledPoints, List.zipIdx_cons, List.map_cons,
      Option.getD_some] at scaled
    injection scaled with head tail
    exact ⟨first, second, rest, least, rfl, minimum, head, tail⟩

omit [LinearOrder K] in
theorem firstPoint_eq (step : CGPoint K) (offset first : K) :
    Source.Path.firstPoint step offset first = scaledPoint step offset (first, 0) := by
  simp [Source.Path.firstPoint, scaledPoint, mul_comm]

theorem quadCurvedPath_elements (enough : 2 ≤ points.length)
    (scaled : scaledPoints step (baseline globalOffset points) points = p :: ps) :
    (Source.Path.quadCurvedPathWithPoints points step globalOffset).elements =
      .move p :: (curvePieces (p :: ps)).map QuadPiece.element := by
  obtain ⟨first, second, rest, least, rfl, minimum, head, tail⟩ := exists_data enough scaled
  simp only [Source.Path.quadCurvedPathWithPoints, minimum, foldl_addQuadCurves, firstPoint_eq,
    head]
  rw [← tail]
  rfl

theorem quadClosedCurvedPath_elements (enough : 2 ≤ points.length)
    (scaled : scaledPoints step (baseline globalOffset points) points = p :: ps) :
    (Source.Path.quadClosedCurvedPathWithPoints points step globalOffset).elements =
      .move .zero :: .line p :: ((curvePieces (p :: ps)).map QuadPiece.element ++
        [.line ⟨(ps.getLastD p).x, 0⟩, .closeSubpath]) := by
  obtain ⟨first, second, rest, least, rfl, minimum, head, tail⟩ := exists_data enough scaled
  simp only [Source.Path.quadClosedCurvedPathWithPoints, minimum, foldl_addQuadCurves,
    firstPoint_eq, head]
  rw [← tail]
  simp [Source.Path.add]

theorem linePath_elements (enough : 2 ≤ points.length)
    (scaled : scaledPoints step (baseline none points) points = p :: ps) :
    (Source.Path.linePathWithPoints points step).elements =
      .move p :: ps.map PathElement.line := by
  obtain ⟨first, second, rest, least, rfl, minimum, head, tail⟩ := exists_data enough scaled
  rw [Option.getD_none] at head tail
  simp only [Source.Path.linePathWithPoints, minimum, foldl_addLines, firstPoint_eq, head]
  rw [← tail]
  rfl

theorem closedLinePath_elements (enough : 2 ≤ points.length)
    (scaled : scaledPoints step (baseline none points) points = p :: ps) :
    (Source.Path.closedLinePathWithPoints points step).elements =
      .move p :: (ps.map PathElement.line ++
        [.line ⟨(ps.getLastD p).x, 0⟩, .closeSubpath]) := by
  obtain ⟨first, second, rest, least, rfl, minimum, head, tail⟩ := exists_data enough scaled
  rw [Option.getD_none] at head tail
  simp only [Source.Path.closedLinePathWithPoints, minimum, foldl_addLines, firstPoint_eq, head]
  rw [← tail]
  simp [Source.Path.add]

theorem edges_quadCurvedPath (enough : 2 ≤ points.length)
    (scaled : scaledPoints step (baseline globalOffset points) points = p :: ps) :
    pathEdges (Source.Path.quadCurvedPathWithPoints points step globalOffset) =
      some ((curvePieces (p :: ps)).map Edge.quad) := by
  have reading := edgesFrom_curvePieces p p ps []
  rw [List.append_nil] at reading
  rw [pathEdges, quadCurvedPath_elements enough scaled, edgesFrom, reading]
  simp [edgesFrom]

theorem edges_quadClosedCurvedPath (enough : 2 ≤ points.length)
    (scaled : scaledPoints step (baseline globalOffset points) points = p :: ps) :
    pathEdges (Source.Path.quadClosedCurvedPathWithPoints points step globalOffset) =
      some (.straight .zero p :: ((curvePieces (p :: ps)).map Edge.quad ++
        [.straight (ps.getLastD p) ⟨(ps.getLastD p).x, 0⟩,
          .straight ⟨(ps.getLastD p).x, 0⟩ .zero])) := by
  rw [pathEdges, quadClosedCurvedPath_elements enough scaled, edgesFrom, edgesFrom,
    edgesFrom_curvePieces]
  simp [edgesFrom]

theorem edges_linePath (enough : 2 ≤ points.length)
    (scaled : scaledPoints step (baseline none points) points = p :: ps) :
    pathEdges (Source.Path.linePathWithPoints points step) = some (polyline (p :: ps)) := by
  have reading := edgesFrom_lines p p ps []
  rw [List.append_nil] at reading
  rw [pathEdges, linePath_elements enough scaled, edgesFrom, reading]
  simp [edgesFrom]

theorem edges_closedLinePath (enough : 2 ≤ points.length)
    (scaled : scaledPoints step (baseline none points) points = p :: ps) :
    pathEdges (Source.Path.closedLinePathWithPoints points step) =
      some (polyline (p :: ps) ++
        [.straight (ps.getLastD p) ⟨(ps.getLastD p).x, 0⟩,
          .straight ⟨(ps.getLastD p).x, 0⟩ p]) := by
  rw [pathEdges, closedLinePath_elements enough scaled, edgesFrom, edgesFrom_lines]
  simp [edgesFrom]

end Builders

section ScaledPoints

variable {points : List K} {step : CGPoint K} {offset : K}

omit [LinearOrder K] in
@[simp] theorem scaledPoints_length : (scaledPoints step offset points).length = points.length := by
  simp [scaledPoints]

omit [LinearOrder K] in
theorem scaledPoints_getElem? (i : ℕ) :
    (scaledPoints step offset points)[i]? =
      points[i]?.map fun value => scaledPoint step offset (value, i) := by
  simp [scaledPoints]
  rfl

omit [LinearOrder K] in
theorem exists_scaledPoints (step : CGPoint K) (offset : K) (enough : 2 ≤ points.length) :
    ∃ p q ps, scaledPoints step offset points = p :: q :: ps := by
  match points, enough with
  | first :: second :: rest, _ => exact ⟨_, _, _, rfl⟩

end ScaledPoints

end FinanciaApp.Guarantees
