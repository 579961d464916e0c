import Mathlib.Algebra.Order.Floor.Ring
import FinanciaApp.Source.ATCLineChart

/-!
# The line chart under a finger

`ATCLineChartView` of `Core/ReusableSwiftUI/ATCLineChartView/ATCLineChartView.swift`: where
its body places the chart, its drag gesture, and `getClosestDataPoint`. Numbers are exact;
a division by zero gives the infinity or the NaN that `CGFloat` gives. `none` is a trap.
-/

set_option autoImplicit false

namespace FinanciaApp.Source

/-- Of an infinity the sign is left out: nothing here reads it. -/
inductive CGFloat (K : Type) where
  | number (value : K)
  | infinity
  | notANumber
deriving DecidableEq, Repr

namespace CGFloat

variable {K : Type} [Field K] [LinearOrder K]

def div : CGFloat K → CGFloat K → CGFloat K
  | .number a, .number b =>
    if b ≠ 0 then .number (a / b) else if a ≠ 0 then .infinity else .notANumber
  | .number _, .infinity => .number 0
  | .infinity, .number _ => .infinity
  | _, _ => .notANumber

def mul : CGFloat K → CGFloat K → CGFloat K
  | .number a, .number b => .number (a * b)
  | .number a, .infinity => if a ≠ 0 then .infinity else .notANumber
  | .infinity, .number b => if b ≠ 0 then .infinity else .notANumber
  | .infinity, .infinity => .infinity
  | _, _ => .notANumber

/-- `Int(floor(value))`, that traps on what a 64-bit `Int` does not hold. -/
def floorInt [FloorRing K] : CGFloat K → Option ℤ
  | .number value => if -2 ^ 63 ≤ ⌊value⌋ ∧ ⌊value⌋ < 2 ^ 63 then some ⌊value⌋ else none
  | _ => none

end CGFloat

structure ATCLineChartView (K : Type) where
  data : ATCLineChartDataSource K
  dragLocation : CGPoint K
  indicatorLocation : CGPoint K
  closestPoint : CGPoint (CGFloat K)
  opacity : K
  currentDataNumber : K
  hideHorizontalLines : Bool

namespace ATCLineChartView

variable {K : Type} [Field K] [LinearOrder K]

/-- The chart in `body`, for a geometry of this width. -/
def lineProgress (view : ATCLineChartView K) (width : K) : ATCLineChartLineProgress K :=
  { data := view.data
    size := ⟨width - 30, 240⟩
    minDataValue := none
    maxDataValue := none
    curvedLines := true }

/-- The `offset(x: 30, y: 0)` of the chart in `body`. -/
def chartOffset : K := 30

/-- Where `body` draws data point `i`. -/
def drawnX (view : ATCLineChartView K) (width : K) (i : ℕ) : K :=
  chartOffset + i * (view.lineProgress width).stepWidth

variable [FloorRing K]

def getClosestDataPoint (view : ATCLineChartView K) (toPoint : CGPoint K) (width height : K) :
    Option (ATCLineChartView K × CGPoint (CGFloat K)) := do
  let points := view.data.onlyPoints
  let stepWidth := (CGFloat.number width).div (.number ((points.length - 1 : ℤ) : K))
  let max ← points.max?
  let min ← points.min?
  let stepHeight := (CGFloat.number height).div (.number (max + min))
  let index ← ((CGFloat.number (toPoint.x - 15)).div stepWidth).floorInt
  if h : 0 ≤ index ∧ index < points.length then
    let value := points.get ⟨index.toNat, by omega⟩
    let reported := { view with currentDataNumber := value }
    some (reported,
      ⟨(CGFloat.number (index : K)).mul stepWidth, (CGFloat.number value).mul stepHeight⟩)
  else
    some (view, ⟨.number 0, .number 0⟩)

/-- `onChanged` of the drag gesture, in a geometry of this width. -/
def onChanged (view : ATCLineChartView K) (location : CGPoint K) (width : K) :
    Option (ATCLineChartView K) := do
  let dragged := { view with
    dragLocation := location
    indicatorLocation := ⟨max (location.x - 30) 0, 32⟩
    opacity := 1 }
  let (found, closest) ← dragged.getClosestDataPoint location (width - 30) 240
  some { found with closestPoint := closest, hideHorizontalLines := true }

def onEnded (view : ATCLineChartView K) : ATCLineChartView K :=
  { view with opacity := 0, hideHorizontalLines := false }

inductive DragGesture (K : Type) where
  | changed (location : CGPoint K)
  | ended

/-- One event of the gesture, in a geometry of this width. -/
def drag (width : K) (view : ATCLineChartView K) : DragGesture K → Option (ATCLineChartView K)
  | .changed location => view.onChanged location width
  | .ended => some view.onEnded

end ATCLineChartView

end FinanciaApp.Source
