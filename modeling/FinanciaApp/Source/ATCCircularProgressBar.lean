import FinanciaApp.Library.Runs
import FinanciaApp.Source.DoubleExtensions

/-!
# The circular progress bar

`setProgress` of `Core/Views/Controls/ATCCircularProgressBar.swift:46-83`, over the rational
numbers. The label is given by the number in its text, and the timer by what its closure
captures. `none` is a trap, or a firing of a timer that was invalidated.
-/

set_option autoImplicit false

namespace FinanciaApp.Source

open Library

structure CABasicAnimation where
  fromValue : ℚ
  toValue : ℚ
  duration : ℚ
  deriving DecidableEq, Repr

inductive StrokeColor where
  | lineColor
  | lineFinishColor
  deriving DecidableEq, Repr

structure ATCCircularProgressBar where
  wholeCircleAnimationDuration : ℚ
  safePercent : ℤ
  label : Option ℤ
  strokeEnd : ℚ
  strokeColor : StrokeColor
  foregroundAnimation : Option CABasicAnimation
  deriving DecidableEq, Repr

namespace ATCCircularProgressBar

/-- The computed variable `progress`. -/
def progress (progressConstant : ℚ) : ℚ :=
  if progressConstant > 1 then 1
  else if progressConstant < 0 then 0
  else progressConstant

/-- The repeating timer; `completed` says that it has called the completion, if there is one. -/
structure Timer where
  progressConstant : ℚ
  animationDuration : ℚ
  currentTime : ℚ
  isValid : Bool
  completed : Bool
  deriving DecidableEq, Repr

structure Animating where
  bar : ATCCircularProgressBar
  timer : Timer
  deriving DecidableEq, Repr

def setForegroundLayerColorForSafePercent (bar : ATCCircularProgressBar) :
    Option ATCCircularProgressBar :=
  bar.label.map fun number =>
    { bar with
      strokeColor := if number ≥ bar.safePercent then .lineFinishColor else .lineColor }

/-- The closure of the timer. -/
def fire (animating : Animating) : Option Animating :=
  let timer := animating.timer
  if timer.currentTime ≥ timer.animationDuration then
    some { animating with timer := { timer with isValid := false, completed := true } }
  else do
    let currentTime := timer.currentTime + 1 / 20
    let percent := currentTime / 2 * 100
    let number ← Double.toInt (progress timer.progressConstant * percent)
    let bar ← setForegroundLayerColorForSafePercent { animating.bar with label := some number }
    return ⟨bar, { timer with currentTime := currentTime }⟩

/-- The bar and its timer before the timer has fired. -/
def scheduledTimer (bar : ATCCircularProgressBar) (progressConstant : ℚ) (withAnimation : Bool) :
    Animating :=
  let animationDuration := bar.wholeCircleAnimationDuration * progress progressConstant
  let animation : CABasicAnimation := ⟨0, progress progressConstant, animationDuration⟩
  ⟨{ bar with
      strokeEnd := progress progressConstant
      foregroundAnimation := if withAnimation then some animation else bar.foregroundAnimation },
    ⟨progressConstant, animationDuration, 0, true, false⟩⟩

def setProgress (bar : ATCCircularProgressBar) (progressConstant : ℚ) (withAnimation : Bool) :
    Option Animating :=
  fire (scheduledTimer bar progressConstant withAnimation)

/-- The timer fires once more. -/
def step (animating : Animating) (_ : Unit) : Option Animating :=
  if animating.timer.isValid then fire animating else none

end ATCCircularProgressBar

end FinanciaApp.Source
