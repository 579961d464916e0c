import FinanciaApp.Source.ChartDataSet

/-!
# Touches of a chart

`getHighlight` of `Pods/Charts`' `ChartHighlighter`, `entryForHighlight` of `ChartData`, and the
state of `ChartViewBase` and `BarLineChartViewBase` that a tap or a drag of a highlight changes.
The transformations between values and pixels, `hypot` and the greatest finite number are
parameters. Highlights are those of line charts: without a data index and a stack index. A chart
without data ignores the touches.
-/

set_option autoImplicit false

namespace FinanciaApp.Source

universe u

inductive AxisDependency where
  | left
  | right
deriving DecidableEq, Repr

structure LineChartDataSet (K : Type u) where
  entries : List (ChartDataEntry K)
  axisDependency : AxisDependency
  isHighlightEnabled : Bool

structure Highlight (K : Type u) where
  x : K
  y : K
  xPx : K
  yPx : K
  dataSetIndex : Nat
  axis : AxisDependency
deriving DecidableEq, Repr

/-- What the chart view knows of its pixels when it is touched. -/
structure ChartViewport (K : Type u) where
  valueForTouchPoint : K → K → K
  pixelForValues : AxisDependency → K → K → K × K
  hypot : K → K → K
  greatestFiniteMagnitude : K
  maxHighlightDistance : K

namespace Charts

variable {K : Type u} [Field K] [LinearOrder K]

def buildHighlights (viewport : ChartViewport K) (set : LineChartDataSet K) (dataSetIndex : Nat)
    (xValue : K) (rounding : ChartDataSetRounding) : List (Highlight K) :=
  (highlightedEntries set.entries xValue rounding).map fun e =>
    let px := viewport.pixelForValues set.axisDependency e.x e.y
    { x := e.x, y := e.y, xPx := px.1, yPx := px.2, dataSetIndex := dataSetIndex,
      axis := set.axisDependency }

def getHighlights (viewport : ChartViewport K) (dataSets : List (LineChartDataSet K))
    (xValue : K) : List (Highlight K) :=
  dataSets.zipIdx.flatMap fun (set, i) =>
    if set.isHighlightEnabled then buildHighlights viewport set i xValue .closest else []

def getMinimumDistance (viewport : ChartViewport K) (closestValues : List (Highlight K)) (y : K)
    (axis : AxisDependency) : K :=
  (closestValues.filter fun high => high.axis = axis).foldl
    (fun distance high =>
      let tempDistance := |high.yPx - y|
      if tempDistance < distance then tempDistance else distance)
    viewport.greatestFiniteMagnitude

def getDistance (viewport : ChartViewport K) (x y : K) (high : Highlight K) : K :=
  viewport.hypot (x - high.xPx) (y - high.yPx)

def closestSelectionDetailByPixel (viewport : ChartViewport K)
    (closestValues : List (Highlight K)) (x y : K) (axis : AxisDependency)
    (minSelectionDistance : K) : Option (Highlight K) :=
  (closestValues.foldl
    (fun (distance, closest) high =>
      if high.axis = axis then
        let cDistance := getDistance viewport x y high
        if cDistance < distance then (cDistance, some high) else (distance, closest)
      else (distance, closest))
    (minSelectionDistance, none)).2

/-- The axis of `getHighlight`. -/
def closestAxis (viewport : ChartViewport K) (closestValues : List (Highlight K)) (y : K) :
    AxisDependency :=
  let leftAxisMinDist := getMinimumDistance viewport closestValues y .left
  let rightAxisMinDist := getMinimumDistance viewport closestValues y .right
  if leftAxisMinDist < rightAxisMinDist then .left else .right

def getHighlight (viewport : ChartViewport K) (dataSets : List (LineChartDataSet K)) (x y : K) :
    Option (Highlight K) :=
  let xVal := viewport.valueForTouchPoint x y
  let closestValues := getHighlights viewport dataSets xVal
  if closestValues.isEmpty then none
  else
    closestSelectionDetailByPixel viewport closestValues x y
      (closestAxis viewport closestValues y) viewport.maxHighlightDistance

def entryForHighlight (dataSets : List (LineChartDataSet K)) (highlight : Highlight K) :
    Option (ChartDataEntry K) :=
  dataSets[highlight.dataSetIndex]?.bind fun set =>
    entryForXValue set.entries highlight.x (some highlight.y) .closest

end Charts

/-! ## The chart view -/

/-- `isEqual` of highlights. -/
def Highlight.isEqual {K : Type u} [DecidableEq K] (self object : Highlight K) : Bool :=
  self.x = object.x ∧ self.y = object.y ∧ self.dataSetIndex = object.dataSetIndex

/-- Equality of highlights that may be `nil`. -/
def Highlight.same {K : Type u} [DecidableEq K] : Option (Highlight K) → Option (Highlight K) → Bool
  | none, none => true
  | some self, some object => self.isEqual object
  | _, _ => false

/-- The calls of the delegate. -/
inductive ChartViewMessage (K : Type u) where
  | chartValueSelected (entry : ChartDataEntry K) (highlight : Highlight K)
  | chartValueNothingSelected

/-- `delegateCalls` holds what the delegate was called with, the last one at the end. -/
structure ChartView (K : Type u) where
  data : Option (List (LineChartDataSet K)) := none
  lastHighlighted : Option (Highlight K) := none
  indicesToHighlight : List (Highlight K) := []
  isHighLightPerTapEnabled : Bool := true
  isHighlightPerDragEnabled : Bool := true
  delegateCalls : List (ChartViewMessage K) := []

/-- A new value of `data`, a tap, and a turn of a pan that does not move the chart. -/
inductive ChartViewEvent (K : Type u) where
  | setData (data : Option (List (LineChartDataSet K)))
  | tapGestureRecognized (viewport : ChartViewport K) (x y : K)
  | panGestureChanged (viewport : ChartViewport K) (x y : K)

namespace ChartView

variable {K : Type u} [Field K] [LinearOrder K]

/-- `highlightValue(_:callDelegate: true)`. -/
def highlightValue (self : ChartView K) : Option (Highlight K) → ChartView K
  | none =>
    { self with
      lastHighlighted := none
      indicesToHighlight := []
      delegateCalls := self.delegateCalls ++ [.chartValueNothingSelected] }
  | some h =>
    match self.data.bind fun data => Charts.entryForHighlight data h with
    | none =>
      { self with
        indicesToHighlight := []
        delegateCalls := self.delegateCalls ++ [.chartValueNothingSelected] }
    | some entry =>
      { self with
        indicesToHighlight := [h]
        delegateCalls := self.delegateCalls ++ [.chartValueSelected entry h] }

def tapGestureRecognized (self : ChartView K) (viewport : ChartViewport K) (x y : K) :
    ChartView K :=
  match self.data with
  | none => self
  | some data =>
    if self.isHighLightPerTapEnabled then
      let h := Charts.getHighlight viewport data x y
      if h = none ∨ Highlight.same h self.lastHighlighted then
        { self with lastHighlighted := none }.highlightValue none
      else { self with lastHighlighted := h }.highlightValue h
    else self

def panGestureChanged (self : ChartView K) (viewport : ChartViewport K) (x y : K) :
    ChartView K :=
  if self.isHighlightPerDragEnabled then
    let h := self.data.bind fun data => Charts.getHighlight viewport data x y
    if Highlight.same h self.lastHighlighted then self
    else { self with lastHighlighted := h }.highlightValue h
  else self

def step (self : ChartView K) : ChartViewEvent K → ChartView K
  | .setData data => { self with data := data }
  | .tapGestureRecognized viewport x y => self.tapGestureRecognized viewport x y
  | .panGestureChanged viewport x y => self.panGestureChanged viewport x y

end ChartView

end FinanciaApp.Source
