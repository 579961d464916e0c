import FinanciaApp.Source.ChartDataSet
import FinanciaApp.Source.PathAdditions

/-!
# The line of a line chart

`drawCubicBezier` of `Pods/Charts`' `LineChartRenderer`, and `lineChartData` of
`Core/Adapters/ATCLineChartAdapter.swift`. The path is in the values of the chart, before the
matrix that takes them to pixels.
-/

set_option autoImplicit false

namespace FinanciaApp.Source

universe u

namespace Charts

variable {K : Type u} [Field K]

def entryForIndex (entries : List (ChartDataEntry K)) (i : Int) : Option (ChartDataEntry K) :=
  if 0 ≤ i then entries[i.toNat]? else none

/-- The curve that a turn of the loop adds. -/
def splineCurve (cubicIntensity phaseY : K) (prevPrev prev cur next : ChartDataEntry K) :
    PathElement K :=
  let prevDx := (cur.x - prevPrev.x) * cubicIntensity
  let prevDy := (cur.y - prevPrev.y) * cubicIntensity
  let curDx := (next.x - prev.x) * cubicIntensity
  let curDy := (next.y - prev.y) * cubicIntensity
  .curve ⟨cur.x, cur.y * phaseY⟩ ⟨prev.x + prevDx, (prev.y + prevDy) * phaseY⟩
    ⟨cur.x - curDx, (cur.y - curDy) * phaseY⟩

/-- The loop of `drawCubicBezier` over the next `count` indexes from `j` on, with the entries
`prev`, `cur` and `next` and the index of the last one; without a `next` it ends. -/
def splineLoop (entries : List (ChartDataEntry K)) (cubicIntensity phaseY : K) :
    Nat → Int → ChartDataEntry K → ChartDataEntry K → ChartDataEntry K → Int →
      List (PathElement K)
  | 0, _, _, _, _, _ => []
  | count + 1, j, prevPrev, prev, oldNext, oldNextIndex =>
    let nextIndex := if j + 1 < entries.length then j + 1 else j
    match if oldNextIndex = j then some oldNext else entryForIndex entries j,
      entryForIndex entries nextIndex with
    | some cur, some next =>
      splineCurve cubicIntensity phaseY prevPrev prev cur next ::
        splineLoop entries cubicIntensity phaseY count (j + 1) prev cur next nextIndex
    | _, _ => []

def drawCubicBezier (entries : List (ChartDataEntry K)) (xBounds : XBounds)
    (cubicIntensity phaseY : K) : Path K :=
  if 1 ≤ xBounds.range then
    let firstIndex := xBounds.min + 1
    match entryForIndex entries (max (firstIndex - 2) 0),
      entryForIndex entries (max (firstIndex - 1) 0) with
    | some prev, some cur =>
      ⟨.move ⟨cur.x, cur.y * phaseY⟩ ::
        splineLoop entries cubicIntensity phaseY xBounds.range.toNat firstIndex prev cur cur (-1)⟩
    | _, _ => ⟨[]⟩
  else ⟨[]⟩

end Charts

namespace ATCLineChartAdapter

variable {K : Type u} [Field K]

/-- The entries of the data set that `lineChartData` makes. -/
def lineChartEntries (numbers : List K) : List (ChartDataEntry K) :=
  numbers.zipIdx.map fun (number, index) => ⟨index, number⟩

end ATCLineChartAdapter

end FinanciaApp.Source
