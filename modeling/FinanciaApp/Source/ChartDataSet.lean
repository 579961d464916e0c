import FinanciaApp.Library.Bisection
import Mathlib.Algebra.Order.Field.Basic
import Mathlib.Algebra.Order.Floor.Defs

/-!
# Chart data sets and the lines that are drawn through them

`Pods/Charts`: the searches of `ChartDataSet`, the entries that `ChartHighlighter` picks for a
touch, `XBounds` of the renderers, and the path of `drawCubicBezier`; and the data set that
`Core/Adapters/ATCLineChartAdapter.swift` makes of a line chart. A `Double` is a number of an
ordered field, `none` is NaN; an index `-1` is `none` as well. The transformation to pixels is the
same for all points of a path and left out, as are colors, fills and circles.
-/

set_option autoImplicit false

namespace FinanciaApp.Source

universe u

/-- Equal entries have equal values, as in `isEqual`. -/
structure ChartDataEntry (K : Type u) where
  x : K
  y : K
deriving DecidableEq, Repr

inductive ChartDataSetRounding where
  | up
  | down
  | closest
deriving DecidableEq, Repr

open Library

namespace Charts

variable {K : Type u} [Field K]

/-- `self[index].x`, for an index in range. -/
def xAt (entries : List (ChartDataEntry K)) (index : Nat) : K :=
  (entries.map ChartDataEntry.x).getD index 0

theorem xAt_eq (entries : List (ChartDataEntry K)) {index : Nat} (bound : index < entries.length) :
    xAt entries index = entries[index].x := by
  simp [xAt, bound]

variable [LinearOrder K]

/-- The first loop of `entryIndex`; after each turn `closest` is `high`. -/
def closestLoop (entries : List (ChartDataEntry K)) (xValue : K) (low high : Nat) : Nat :=
  if low < high then
    let m := (low + high) / 2
    let d1 := xAt entries m - xValue
    let d2 := xAt entries (m + 1) - xValue
    let ad1 := |d1|
    let ad2 := |d2|
    if ad2 < ad1 then closestLoop entries xValue (m + 1) high
    else if ad1 < ad2 then closestLoop entries xValue low m
    -- several entries in a row at the same distance
    else if 0 ≤ d1 then closestLoop entries xValue low m
    else closestLoop entries xValue (m + 1) high
  else high
termination_by high - low
decreasing_by all_goals omega

/-- `while closest > 0 && self[closest - 1].x == x { closest -= 1 }`. -/
def backToFirst (entries : List (ChartDataEntry K)) (x : K) : Nat → Nat
  | 0 => 0
  | closest + 1 =>
    if xAt entries closest = x then backToFirst entries x closest else closest + 1

/-- The last loop of `entryIndex`, over the entries after the first one at `closestXValue`. The
source keeps `yValue`, and not the value of the entry, as `closestYValue`. -/
def closestYLoop (closestXValue yValue : K) :
    List (ChartDataEntry K × Nat) → K → Nat → Nat
  | [], _, closestYIndex => closestYIndex
  | (value, index) :: rest, closestYValue, closestYIndex =>
    if value.x ≠ closestXValue then closestYIndex
    else if |value.y - yValue| ≤ |closestYValue - yValue| then
      closestYLoop closestXValue yValue rest yValue index
    else closestYLoop closestXValue yValue rest closestYValue closestYIndex

/-- The part of `entryIndex` that searches for the closest y-value. -/
def closestToY (entries : List (ChartDataEntry K)) (closestXValue yValue : K) (closest : Nat) :
    Nat :=
  let first := backToFirst entries closestXValue closest
  match entries.zipIdx.drop first with
  | [] => first
  | (value, index) :: rest => closestYLoop closestXValue yValue rest value.y index

def entryIndex (entries : List (ChartDataEntry K)) (xValue : K) (yValue : Option K)
    (rounding : ChartDataSetRounding) : Option Nat :=
  if entries = [] then none
  else
    let closest := closestLoop entries xValue 0 (entries.length - 1)
    let closestXValue := xAt entries closest
    let rounded :=
      match rounding with
      | .up =>
        if closestXValue < xValue ∧ closest < entries.length - 1 then closest + 1 else closest
      | .down => if xValue < closestXValue ∧ 0 < closest then closest - 1 else closest
      | .closest => closest
    match yValue with
    | none => some rounded
    | some yValue => some (closestToY entries closestXValue yValue rounded)

def entryForXValue (entries : List (ChartDataEntry K)) (xValue : K) (yValue : Option K)
    (rounding : ChartDataSetRounding) : Option (ChartDataEntry K) :=
  (entryIndex entries xValue yValue rounding).bind fun index => entries[index]?

/-- The loop of `entriesForXValue`; `high` is one more than in the source. -/
def entriesLoop (entries : List (ChartDataEntry K)) (xValue : K) (low high : Nat) :
    List (ChartDataEntry K) :=
  if low < high then
    let m := (high - 1 + low) / 2
    if xValue = xAt entries m then
      (entries.drop (backToFirst entries xValue m)).takeWhile fun entry => entry.x = xValue
    else if xAt entries m < xValue then entriesLoop entries xValue (m + 1) high
    else entriesLoop entries xValue low m
  else []
termination_by high - low
decreasing_by all_goals omega

def entriesForXValue (entries : List (ChartDataEntry K)) (xValue : K) :
    List (ChartDataEntry K) :=
  entriesLoop entries xValue 0 entries.length

/-- The entries that `buildHighlights` makes highlights of. -/
def highlightedEntries (entries : List (ChartDataEntry K)) (xValue : K)
    (rounding : ChartDataSetRounding) : List (ChartDataEntry K) :=
  match entriesForXValue entries xValue with
  | [] =>
    match entryForXValue entries xValue none rounding with
    | some closest => entriesForXValue entries closest.x
    | none => []
  | here => here

section Bounds

structure XBounds where
  min : Int
  max : Int
  range : Int
deriving DecidableEq, Repr

variable [FloorRing K]

/-- `set` of `XBounds`; `phaseX` is that of the animator. -/
def xBounds (lowestVisibleX highestVisibleX phaseX : K) (entries : List (ChartDataEntry K)) :
    XBounds :=
  let phaseX := Max.max 0 (Min.min 1 phaseX)
  let entryIndexOf (entry : Option (ChartDataEntry K)) : Int :=
    match entry with
    | none => 0
    | some entry => match entries.findIdx? fun other => other = entry with
      | some index => index
      | none => -1
  let min := entryIndexOf (entryForXValue entries lowestVisibleX none .down)
  let max := entryIndexOf (entryForXValue entries highestVisibleX none .up)
  let scaled := ((max - min : Int) : K) * phaseX
  { min := min, max := max, range := if 0 ≤ scaled then ⌊scaled⌋ else ⌈scaled⌉ }

end Bounds

/-! ## What the loops compute -/

section Loops

/-- The loop goes to a lower place from `m`. -/
def goesLower (entries : List (ChartDataEntry K)) (xValue : K) (m : Nat) : Bool :=
  let d1 := xAt entries m - xValue
  let d2 := xAt entries (m + 1) - xValue
  decide (|d1| < |d2| ∨ (|d1| = |d2| ∧ 0 ≤ d1))

theorem closestLoop_eq_bisect (entries : List (ChartDataEntry K)) (xValue : K)
    (low high : Nat) :
    closestLoop entries xValue low high = bisect (goesLower entries xValue) low high := by
  induction low, high using closestLoop.induct entries xValue with
  | case1 low high range m d1 d2 ad1 ad2 higher ih =>
    have goes : goesLower entries xValue ((low + high) / 2) = false := by
      refine decide_eq_false (fun lower => ?_)
      rcases lower with less | equal
      · exact lt_asymm less higher
      · exact absurd equal.1 (ne_of_gt higher)
    rw [closestLoop, if_pos range, bisect_higher range goes]
    exact (if_pos higher).trans ih
  | case2 low high range m d1 d2 ad1 ad2 notHigher lower ih =>
    have goes : goesLower entries xValue ((low + high) / 2) = true :=
      decide_eq_true (.inl lower)
    rw [closestLoop, if_pos range, bisect_lower range goes]
    exact (if_neg notHigher).trans ((if_pos lower).trans ih)
  | case3 low high range m d1 d2 ad1 ad2 notHigher notLower above ih =>
    have equal := le_antisymm (not_lt.mp notHigher) (not_lt.mp notLower)
    have goes : goesLower entries xValue ((low + high) / 2) = true :=
      decide_eq_true (.inr ⟨equal, above⟩)
    rw [closestLoop, if_pos range, bisect_lower range goes]
    exact (if_neg notHigher).trans ((if_neg notLower).trans ((if_pos above).trans ih))
  | case4 low high range m d1 d2 ad1 ad2 notHigher notLower below ih =>
    have goes : goesLower entries xValue ((low + high) / 2) = false := by
      refine decide_eq_false (fun lower => ?_)
      rcases lower with less | equal
      · exact notLower less
      · exact below equal.2
    rw [closestLoop, if_pos range, bisect_higher range goes]
    exact (if_neg notHigher).trans ((if_neg notLower).trans ((if_neg below).trans ih))
  | case5 low high done =>
    rw [closestLoop, if_neg done, bisect_of_le (Nat.not_lt.mp done)]

end Loops

end Charts

end FinanciaApp.Source
