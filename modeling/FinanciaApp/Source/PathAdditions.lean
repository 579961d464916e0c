import Mathlib
import FinanciaApp.Library.Numerals

/-!
# Paths of the line chart

The extensions of `Path` and `CGPoint` in
`Core/UIExtensions/SwiftUIExtensions/Path+ATCAdditions.swift`, over any field in the place of
the floating-point numbers. The square root of the distance is a parameter. A division by
zero and the `fatalError` give no value. `point(to:)` is modelled up to the range of the
path of which SwiftUI's `trimmedPath(from:to:)` and `boundingRect` give the point.
-/

set_option autoImplicit false

namespace FinanciaApp.Source

universe u

structure CGPoint (K : Type u) where
  x : K
  y : K
deriving DecidableEq, Repr

inductive PathElement (K : Type u) where
  | move (target : CGPoint K)
  | line (target : CGPoint K)
  | quadCurve (target control : CGPoint K)
  | curve (target control1 control2 : CGPoint K)
  | closeSubpath
deriving DecidableEq, Repr

structure Path (K : Type u) where
  elements : List (PathElement K)
deriving DecidableEq, Repr

variable {K : Type u} [Field K] [LinearOrder K]

namespace CGPoint

def zero : CGPoint K := ⟨0, 0⟩

/-- `value(x:y:t:c:)`. -/
def value (x y t c : K) : K :=
  (1 - t) ^ 2 * x + 2 * (1 - t) * t * c + t ^ 2 * y

/-- `value(x:y:t:c1:c2:)`. -/
def valueCubic (x y t c1 c2 : K) : K :=
  (1 - t) ^ 3 * x + 3 * (1 - t) ^ 2 * t * c1 + 3 * (1 - t) * t ^ 2 * c2 + t ^ 3 * y

/-- `point(to:x:)`. -/
def pointX (self target : CGPoint K) (x : K) : Option (CGPoint K) :=
  if target.x - self.x = 0 then none
  else
    let a := (target.y - self.y) / (target.x - self.x)
    some ⟨x, self.y + (x - self.x) * a⟩

/-- `point(to:t:control:)`. -/
def pointQuad (self target : CGPoint K) (t : K) (control : CGPoint K) : CGPoint K :=
  ⟨value self.x target.x t control.x, value self.y target.y t control.y⟩

/-- `point(to:t:control1:control2:)`; the second control of `y` is `control2.x` there. -/
def pointCubic (self target : CGPoint K) (t : K) (control1 control2 : CGPoint K) : CGPoint K :=
  ⟨valueCubic self.x target.x t control1.x control2.x,
    valueCubic self.y target.y t control1.y control2.x⟩

def midPointForPoints (p1 p2 : CGPoint K) : CGPoint K :=
  ⟨(p1.x + p2.x) / 2, (p1.y + p2.y) / 2⟩

def controlPointForPoints (p1 p2 : CGPoint K) : CGPoint K :=
  let controlPoint := midPointForPoints p1 p2
  let diffY := |p2.y - controlPoint.y|
  if p1.y < p2.y then { controlPoint with y := controlPoint.y + diffY }
  else if p2.y < p1.y then { controlPoint with y := controlPoint.y - diffY }
  else controlPoint

section Lengths

variable (sqrt : K → K)

def dist (self target : CGPoint K) : K :=
  sqrt ((self.x - target.x) ^ 2 + (self.y - target.y) ^ 2)

/-- `line(to:)`. -/
def line (self target : CGPoint K) : K :=
  dist sqrt self target

/-- `line(to:x:)`. -/
def lineX (self target : CGPoint K) (x : K) : Option K :=
  (pointX self target x).map (dist sqrt self)

/-- The loop of `quadCurve(to:control:)` and `curve(to:control1:control2:)` over the hundred
chords of the curve that `point` evaluates. -/
def chords (point : K → CGPoint K) : K :=
  (List.range 100).foldl
    (fun dist (i : ℕ) =>
      dist + line sqrt (point ((i : K) / 100)) (point (((i + 1 : ℕ) : K) / 100))) 0

/-- The loop of `quadCurve(to:control:x:)` and `curve(to:control1:control2:x:)` from the
chords `is` on, with its three returns. -/
def chordsX (point : K → CGPoint K) (x : K) (dist : K) : List ℕ → Option K
  | [] => some dist
  | i :: is =>
    let a := point ((i : K) / 100)
    let b := point (((i + 1 : ℕ) : K) / 100)
    if x ≤ a.x then some dist
    else if x < b.x then (lineX sqrt a b x).map (dist + ·)
    else if b.x = x then some (dist + line sqrt a b)
    else chordsX point x (dist + line sqrt a b) is

/-- `quadCurve(to:control:)`. -/
def quadCurve (self target control : CGPoint K) : K :=
  chords sqrt fun t => pointQuad self target t control

/-- `quadCurve(to:control:x:)`. -/
def quadCurveX (self target control : CGPoint K) (x : K) : Option K :=
  chordsX sqrt (fun t => pointQuad self target t control) x 0 (List.range 100)

/-- `curve(to:control1:control2:)`. -/
def curve (self target control1 control2 : CGPoint K) : K :=
  chords sqrt fun t => pointCubic self target t control1 control2

/-- `curve(to:control1:control2:x:)`. -/
def curveX (self target control1 control2 : CGPoint K) (x : K) : Option K :=
  chordsX sqrt (fun t => pointCubic self target t control1 control2) x 0 (List.range 100)

end Lengths

end CGPoint

namespace Path

section Lengths

variable (sqrt : K → K)

/-- The variables of `length`. -/
structure LengthState (K : Type u) where
  ret : K
  start : Option (CGPoint K)
  point : CGPoint K

/-- The closure of `length`. -/
def lengthStep (state : LengthState K) : PathElement K → LengthState K
  | .move target => { state with start := some (state.start.getD target), point := target }
  | .line target => { state with ret := state.ret + state.point.line sqrt target, point := target }
  | .quadCurve target control =>
    { state with
      ret := state.ret + state.point.quadCurve sqrt target control
      point := target }
  | .curve target control1 control2 =>
    { state with
      ret := state.ret + state.point.curve sqrt target control1 control2
      point := target }
  | .closeSubpath =>
    match state.start with
    | some target =>
      { ret := state.ret + state.point.line sqrt target
        start := none
        point := target }
    | none => state

def length (path : Path K) : K :=
  (path.elements.foldl (lengthStep sqrt) ⟨0, none, .zero⟩).ret

/-- The variables of `length(to:)`. -/
structure LengthToState (K : Type u) where
  ret : K
  start : Option (CGPoint K)
  point : CGPoint K
  finished : Bool

/-- The closure of `length(to:)`. -/
def lengthToStep (maxX : K) (state : LengthToState K) (ele : PathElement K) :
    Option (LengthToState K) :=
  if state.finished then some state
  else
    match ele with
    | .move target =>
      if maxX < target.x then some { state with finished := true }
      else some { state with start := some (state.start.getD target), point := target }
    | .line target =>
      if maxX < target.x then do
        let ret ← state.point.lineX sqrt target maxX
        some { state with ret := state.ret + ret, finished := true }
      else some { state with ret := state.ret + state.point.line sqrt target, point := target }
    | .quadCurve target control =>
      if maxX < target.x then do
        let ret ← state.point.quadCurveX sqrt target control maxX
        some { state with ret := state.ret + ret, finished := true }
      else
        some { state with
          ret := state.ret + state.point.quadCurve sqrt target control
          point := target }
    | .curve target control1 control2 =>
      if maxX < target.x then do
        let ret ← state.point.curveX sqrt target control1 control2 maxX
        some { state with ret := state.ret + ret, finished := true }
      else
        some { state with
          ret := state.ret + state.point.curve sqrt target control1 control2
          point := target }
    | .closeSubpath => none

/-- `length(to:)`. -/
def lengthTo (path : Path K) (maxX : K) : Option K :=
  (path.elements.foldlM (lengthToStep sqrt maxX) ⟨0, none, .zero, false⟩).map LengthToState.ret

/-- The `percent` of `point(to:)`. -/
def percentTo (path : Path K) (maxX : K) : Option K := do
  let total := path.length sqrt
  let sub ← path.lengthTo sqrt maxX
  if total = 0 then none else some (sub / total)

/-- The `start` and the `end` that `trimmedPath(for:)` trims the path to. -/
def trimRange (percent : K) : K × K :=
  let boundsDistance : K := 1 / 1000
  let completion := 1 - boundsDistance
  let pct := if 1 < percent then 0 else if percent < 0 then 1 else percent
  (if completion < pct then completion else pct - boundsDistance,
    if completion < pct then 1 else pct + boundsDistance)

end Lengths

section Builders

def add (path : Path K) (element : PathElement K) : Path K :=
  ⟨path.elements ++ [element]⟩

/-- One turn of the loop over `pointIndex` in the two curved builders: the path and `p1`
after it, for the value at this index. -/
def addQuadCurves (step : CGPoint K) (offset : K) (state : Path K × CGPoint K)
    (indexed : K × ℕ) : Path K × CGPoint K :=
  let (path, p1) := state
  let (value, pointIndex) := indexed
  let p2 : CGPoint K := ⟨step.x * pointIndex, step.y * (value - offset)⟩
  let midPoint := CGPoint.midPointForPoints p1 p2
  let path := path.add (.quadCurve midPoint (CGPoint.controlPointForPoints midPoint p1))
  let path := path.add (.quadCurve p2 (CGPoint.controlPointForPoints midPoint p2))
  (path, p2)

/-- One turn of the loop over `pointIndex` in the two straight builders. -/
def addLines (step : CGPoint K) (offset : K) (state : Path K × CGPoint K)
    (indexed : K × ℕ) : Path K × CGPoint K :=
  let (path, _) := state
  let (value, pointIndex) := indexed
  let p1 : CGPoint K := ⟨step.x * pointIndex, step.y * (value - offset)⟩
  (path.add (.line p1), p1)

/-- The first point of the four builders. -/
def firstPoint (step : CGPoint K) (offset : K) (first : K) : CGPoint K :=
  ⟨0, (first - offset) * step.y⟩

def quadCurvedPathWithPoints (points : List K) (step : CGPoint K) (globalOffset : Option K) :
    Path K :=
  match points, points.min? with
  | first :: second :: rest, some least =>
    let offset := globalOffset.getD least
    let p1 := firstPoint step offset first
    let path : Path K := ⟨[.move p1]⟩
    (((second :: rest).zipIdx 1).foldl (addQuadCurves step offset) (path, p1)).1
  | _, _ => ⟨[]⟩

def quadClosedCurvedPathWithPoints (points : List K) (step : CGPoint K)
    (globalOffset : Option K) : Path K :=
  match points, points.min? with
  | first :: second :: rest, some least =>
    let offset := globalOffset.getD least
    let p1 := firstPoint step offset first
    let path : Path K := ⟨[.move .zero, .line p1]⟩
    let (path, p1) := ((second :: rest).zipIdx 1).foldl (addQuadCurves step offset) (path, p1)
    (path.add (.line ⟨p1.x, 0⟩)).add .closeSubpath
  | _, _ => ⟨[]⟩

def linePathWithPoints (points : List K) (step : CGPoint K) : Path K :=
  match points, points.min? with
  | first :: second :: rest, some offset =>
    let p1 := firstPoint step offset first
    let path : Path K := ⟨[.move p1]⟩
    (((second :: rest).zipIdx 1).foldl (addLines step offset) (path, p1)).1
  | _, _ => ⟨[]⟩

def closedLinePathWithPoints (points : List K) (step : CGPoint K) : Path K :=
  match points, points.min? with
  | first :: second :: rest, some offset =>
    let p1 := firstPoint step offset first
    let path : Path K := ⟨[.move p1]⟩
    let (path, p1) := ((second :: rest).zipIdx 1).foldl (addLines step offset) (path, p1)
    (path.add (.line ⟨p1.x, 0⟩)).add .closeSubpath
  | _, _ => ⟨[]⟩

end Builders

end Path

end FinanciaApp.Source
