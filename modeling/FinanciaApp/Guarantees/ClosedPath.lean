import Mathlib.Data.List.Rotate
import FinanciaApp.Guarantees.PathLength
import FinanciaApp.Library.ArcArea

/-!
# The closed paths

A closed path fills the region under a line when its outline is that line and the way back
down to the baseline and along it. The curved builder begins at the origin and comes back
to it. The straight one begins at the first data point, so its last edge leads from the
baseline back up to that point and cuts a triangle off.
-/

set_option autoImplicit false

namespace FinanciaApp.Guarantees

open Library Source

universe u

section Region

variable {K : Type u} [Field K]

def coordinates (p : CGPoint K) : K × K :=
  (p.x, p.y)

namespace Edge

def start : Edge K → CGPoint K
  | straight start _ => start
  | quad piece => piece.start

def stop : Edge K → CGPoint K
  | straight _ target => target
  | quad piece => piece.target

def arc : Edge K → Arc K
  | straight start target => .line (coordinates start) (coordinates target)
  | quad piece =>
    .quadratic (coordinates piece.start) (coordinates piece.control) (coordinates piece.target)

omit [Field K] in
theorem arc_start (edge : Edge K) : edge.arc.start = coordinates edge.start := by
  cases edge <;> rfl

omit [Field K] in
theorem arc_stop (edge : Edge K) : edge.arc.stop = coordinates edge.stop := by
  cases edge <;> rfl

/-- The edge is more than one point. -/
def isProper [DecidableEq K] : Edge K → Bool
  | straight start target => start ≠ target
  | quad _ => true

end Edge

/-- The area inside the edges of a closed path, clockwise. -/
def signedArea (outline : List (Edge K)) : K :=
  (outline.map fun edge => edge.arc.sector).sum

/-- The area between the edges of an open path and the baseline. -/
def areaUnder (edges : List (Edge K)) : K :=
  (edges.map fun edge => edge.arc.under).sum

/-- The outline of the region between the edges of an open path and the baseline. -/
def downToBaseline : List (Edge K) → List (Edge K)
  | [] => []
  | first :: rest =>
    let start := first.start
    let stop := (rest.getLastD first).stop
    first :: rest ++
      [.straight stop ⟨stop.x, 0⟩, .straight ⟨stop.x, 0⟩ ⟨start.x, 0⟩,
        .straight ⟨start.x, 0⟩ start]

/-- The closed path has the area under the open one, and the outline of its region but for
edges of a single point. -/
def FillsUnder [DecidableEq K] (closed path : Source.Path K) : Prop :=
  ∃ outline edges, pathEdges closed = some outline ∧ pathEdges path = some edges ∧
    signedArea outline = areaUnder edges ∧
    List.IsRotated (outline.filter Edge.isProper) ((downToBaseline edges).filter Edge.isProper)

theorem areaUnder_append (edges more : List (Edge K)) :
    areaUnder (edges ++ more) = areaUnder edges + areaUnder more := by
  rw [areaUnder, List.map_append, List.sum_append]
  rfl

/-- Edges that lead back to where they began enclose the area under them. -/
theorem signedArea_of_chained [CharZero K] {place : CGPoint K} {outline : List (Edge K)}
    (closed : Chained Edge.start Edge.stop place place outline) :
    signedArea outline = areaUnder outline := by
  have arcs := closed.map coordinates Edge.arc Edge.arc_start Edge.arc_stop
  have same := sum_sector arcs
  rwa [List.map_map, List.map_map] at same

/-- The last two edges of a closed path: down from `last` and along the baseline. -/
def wayBack (last target : CGPoint K) : List (Edge K) :=
  [.straight last ⟨last.x, 0⟩, .straight ⟨last.x, 0⟩ target]

section Chains

omit [Field K] in
theorem chained_polyline (p : CGPoint K) (ps : List (CGPoint K)) :
    Chained Edge.start Edge.stop p (ps.getLastD p) (polyline (p :: ps)) := by
  induction ps generalizing p with
  | nil => exact Chained.nil p
  | cons q qs ih =>
    rw [List.getLastD_cons]
    exact Chained.cons (Edge.straight p q) (ih q)

variable [LinearOrder K]

theorem chained_curveEdges (p : CGPoint K) (ps : List (CGPoint K)) :
    Chained Edge.start Edge.stop p (ps.getLastD p) ((curvePieces (p :: ps)).map Edge.quad) :=
  (chained_curvePieces p ps).map id Edge.quad (fun _ => rfl) fun _ => rfl

end Chains

section Closing

theorem chained_wayBack (last target : CGPoint K) :
    Chained Edge.start Edge.stop last target (wayBack last target) :=
  Chained.cons (Edge.straight last ⟨last.x, 0⟩)
    (Chained.cons (Edge.straight ⟨last.x, 0⟩ target) (Chained.nil target))

theorem areaUnder_wayBack (last target : CGPoint K) :
    areaUnder (wayBack last target) = target.y * (target.x - last.x) / 2 := by
  simp only [areaUnder, wayBack, List.map_cons, List.map_nil, List.sum_cons, List.sum_nil,
    Edge.arc, coordinates, Arc.under]
  ring

variable [CharZero K]

/-- The straight closed path lacks the triangle of the first point and the last two corners
on the baseline. -/
theorem signedArea_closedLine (p : CGPoint K) (ps : List (CGPoint K)) :
    signedArea (polyline (p :: ps) ++ wayBack (ps.getLastD p) p) =
      areaUnder (polyline (p :: ps)) + p.y * (p.x - (ps.getLastD p).x) / 2 := by
  rw [← areaUnder_wayBack, ← areaUnder_append]
  exact signedArea_of_chained ((chained_polyline p ps).append (chained_wayBack _ p))

/-- The curved closed path closes along the baseline. -/
theorem signedArea_quadClosed [LinearOrder K] {p : CGPoint K} (ps : List (CGPoint K))
    (origin : p.x = 0) :
    signedArea (.straight .zero p ::
        ((curvePieces (p :: ps)).map Edge.quad ++ wayBack (ps.getLastD p) .zero)) =
      areaUnder ((curvePieces (p :: ps)).map Edge.quad) := by
  have rise : areaUnder [.straight .zero p] = 0 := by
    simp [areaUnder, Edge.arc, coordinates, Arc.under, CGPoint.zero, origin]
  have back : areaUnder (wayBack (ps.getLastD p) .zero) = 0 := by
    simp [areaUnder_wayBack, CGPoint.zero]
  have closed := Chained.cons (Edge.straight .zero p)
    ((chained_curveEdges p ps).append (chained_wayBack (ps.getLastD p) .zero))
  rw [signedArea_of_chained closed, ← List.singleton_append, areaUnder_append, areaUnder_append,
    rise, back, zero_add, add_zero]

end Closing

end Region

/-- What the areas take of a piece are the integrals along its evaluated points. -/
theorem integral_piece (piece : QuadPiece ℝ) :
    (∫ t in (0 : ℝ)..1, (piece.point t).y * (piece.velocity t).x) =
        (Edge.quad piece).arc.under ∧
      (∫ t in (0 : ℝ)..1, ((piece.point t).y * (piece.velocity t).x -
          (piece.point t).x * (piece.velocity t).y) / 2) = (Edge.quad piece).arc.sector := by
  constructor
  · exact integral_under (coordinates piece.start) (coordinates piece.control)
      (coordinates piece.target)
  · exact integral_sector (coordinates piece.start) (coordinates piece.control)
      (coordinates piece.target)

end FinanciaApp.Guarantees
