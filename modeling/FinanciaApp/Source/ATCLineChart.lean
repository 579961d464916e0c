import FinanciaApp.Source.PathAdditions

/-!
# The line chart and its board

`ATCLineChartLineProgress` and `ATCChartBoardView` with the `ATCLineChartDataSource` that
both observe, of `Core/ReusableSwiftUI/ATCLineChartView`. The bindings and the frame are
fields; of the frame the size is read.
-/

set_option autoImplicit false

namespace FinanciaApp.Source

universe u

structure ATCLineChartDataSource (K : Type u) where
  points : List (String × K)

def ATCLineChartDataSource.onlyPoints {K : Type u} (data : ATCLineChartDataSource K) : List K :=
  data.points.map Prod.snd

structure CGSize (K : Type u) where
  width : K
  height : K

structure ATCLineChartLineProgress (K : Type u) where
  data : ATCLineChartDataSource K
  size : CGSize K
  minDataValue : Option K
  maxDataValue : Option K
  curvedLines : Bool

structure ATCChartBoardView (K : Type u) where
  data : ATCLineChartDataSource K
  size : CGSize K

variable {K : Type u} [Field K] [LinearOrder K]

/-- `stepWidth` of both views. -/
def stepWidth (data : ATCLineChartDataSource K) (size : CGSize K) : K :=
  if data.points.length < 2 then 0 else size.width / ((data.points.length - 1 : ℕ) : K)

namespace ATCLineChartLineProgress

def padding : K := 30

def stepWidth (view : ATCLineChartLineProgress K) : K :=
  Source.stepWidth view.data view.size

/-- The bounds that `stepHeight` scales by: the bindings if both are given. -/
def dataBounds (view : ATCLineChartLineProgress K) : Option (K × K) :=
  match view.minDataValue, view.maxDataValue with
  | some min, some max => some (min, max)
  | _, _ =>
    match view.data.onlyPoints.min?, view.data.onlyPoints.max? with
    | some minPoint, some maxPoint =>
      if minPoint ≠ maxPoint then some (minPoint, maxPoint) else none
    | _, _ => none

def stepHeight (view : ATCLineChartLineProgress K) : K :=
  match view.dataBounds with
  | none => 0
  | some (min, max) =>
    if min ≠ max then
      (view.size.height - padding) / (if min ≤ 0 then max - min else max + min)
    else 0

def path (view : ATCLineChartLineProgress K) : Path K :=
  let points := view.data.onlyPoints
  let step : CGPoint K := ⟨view.stepWidth, view.stepHeight⟩
  if view.curvedLines then Path.quadCurvedPathWithPoints points step view.minDataValue
  else Path.linePathWithPoints points step

def closedPath (view : ATCLineChartLineProgress K) : Path K :=
  let points := view.data.onlyPoints
  let step : CGPoint K := ⟨view.stepWidth, view.stepHeight⟩
  if view.curvedLines then Path.quadClosedCurvedPathWithPoints points step view.minDataValue
  else Path.closedLinePathWithPoints points step

end ATCLineChartLineProgress

namespace ATCChartBoardView

def padding : K := 3

def stepHeight (view : ATCChartBoardView K) : K :=
  match view.data.onlyPoints.min?, view.data.onlyPoints.max? with
  | some min, some max =>
    if min ≠ max then
      if min < 0 then (view.size.height - padding) / (max - min)
      else (view.size.height - padding) / (max + min)
    else 0
  | _, _ => 0

def min (view : ATCChartBoardView K) : K :=
  view.data.onlyPoints.min?.getD 0

/-- `line(atHeight:width:)`. -/
def line (view : ATCChartBoardView K) (atHeight width : K) : Path K :=
  let hLine : Path K := ⟨[.move ⟨5, (atHeight - view.min) * view.stepHeight⟩]⟩
  hLine.add (.line ⟨width, (atHeight - view.min) * view.stepHeight⟩)

def getYchartBoard (view : ATCChartBoardView K) : Option (List K) := do
  let max ← view.data.onlyPoints.max?
  let min ← view.data.onlyPoints.min?
  let step := (max - min) / 4
  some [min + step * 0, min + step * 1, min + step * 2, min + step * 3, min + step * 4]

def getYchartBoardSafe (view : ATCChartBoardView K) (height : Fin 5) : K :=
  match view.getYchartBoard with
  | some chartBoard => chartBoard.getD height 0
  | none => 0

end ATCChartBoardView

end FinanciaApp.Source
