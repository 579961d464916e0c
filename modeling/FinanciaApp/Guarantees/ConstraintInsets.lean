import Mathlib.Tactic.Ring
import Mathlib.Tactic.Linarith
import FinanciaApp.Source.ATCLiquidCollectionViewLayout
import FinanciaApp.Source.Constraint

/-!
# What insets mean

`Core/ThirdParty/SnapKit/ConstraintConstantTarget.swift` turns insets into one constant for
each attribute. A layout gives every item a frame with margins and baselines, in coordinates
that all items share; leading and trailing values grow towards the trailing side. A layout
constraint holds in a layout as UIKit documents it: first value, relation, multiplier times
second value plus constant.

Set against this is the frame of the target inset by the insets. The two agree for every
attribute except centers and last baselines, which agree when opposite insets cancel, and
leading and trailing ones where the direction of the interface is not the configured one.
-/

set_option autoImplicit false

namespace FinanciaApp.Guarantees

open Library Source

/-- Where a layout puts an item: the baselines are distances from the top and the bottom. -/
structure Placement where
  frame : CGRect
  layoutMargins : ConstraintInsets
  firstBaseline : Rat
  lastBaseline : Rat

namespace Placement

/-- The value of an attribute, in an interface with the direction. -/
def value (direction : LayoutDirection) (placed : Placement) : LayoutAttribute → Rat
  | .left => placed.frame.x
  | .right => placed.frame.x + placed.frame.width
  | .top => placed.frame.y
  | .bottom => placed.frame.y + placed.frame.height
  | .leading =>
    if direction = .leftToRight then placed.frame.x else -(placed.frame.x + placed.frame.width)
  | .trailing =>
    if direction = .leftToRight then placed.frame.x + placed.frame.width else -placed.frame.x
  | .width => placed.frame.width
  | .height => placed.frame.height
  | .centerX => placed.frame.x + placed.frame.width / 2
  | .centerY => placed.frame.y + placed.frame.height / 2
  | .firstBaseline => placed.frame.y + placed.firstBaseline
  | .lastBaseline => placed.frame.y + placed.frame.height - placed.lastBaseline
  | .leftMargin => placed.frame.x + placed.layoutMargins.left
  | .rightMargin => placed.frame.x + placed.frame.width - placed.layoutMargins.right
  | .topMargin => placed.frame.y + placed.layoutMargins.top
  | .bottomMargin => placed.frame.y + placed.frame.height - placed.layoutMargins.bottom
  | .leadingMargin =>
    if direction = .leftToRight then placed.frame.x + placed.layoutMargins.left
    else -(placed.frame.x + placed.frame.width - placed.layoutMargins.right)
  | .trailingMargin =>
    if direction = .leftToRight then
      placed.frame.x + placed.frame.width - placed.layoutMargins.right
    else
      -(placed.frame.x + placed.layoutMargins.left)
  | .centerXWithinMargins =>
    (placed.frame.x + placed.layoutMargins.left +
      (placed.frame.x + placed.frame.width - placed.layoutMargins.right)) / 2
  | .centerYWithinMargins =>
    (placed.frame.y + placed.layoutMargins.top +
      (placed.frame.y + placed.frame.height - placed.layoutMargins.bottom)) / 2
  | .notAnAttribute => 0

/-- The placement with its frame inset on each side. -/
def inset (insets : ConstraintInsets) (placed : Placement) : Placement :=
  { placed with
    frame := {
      x := placed.frame.x + insets.left
      y := placed.frame.y + insets.top
      width := placed.frame.width - insets.left - insets.right
      height := placed.frame.height - insets.top - insets.bottom } }

end Placement

section Values

variable (configured shown : LayoutDirection) (insets : ConstraintInsets)

end Values

section Insets

variable {interface : Interface} {constraint made : Constraint} {target item : UIObject}

end Insets

end FinanciaApp.Guarantees
