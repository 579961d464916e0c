import Mathlib.Algebra.Order.Ring.Rat
import Mathlib.Algebra.Order.Group.Abs
import FinanciaApp.Source.ATCLineChart
import FinanciaApp.Source.ATCLiquidCollectionViewLayout

/-!
# The list with a centred cell

`targetContentOffset` of
`Core/ReusableSwiftUI/CenteredListView/ATCCenteredCollectionViewFlowLayout.swift:60-77`, over the
rational numbers and whatever the velocity. The layout of the superclass is a parameter, that
gives the centres of the items in a rectangle.
-/

set_option autoImplicit false

namespace FinanciaApp.Source

/-- `CGFloat.greatestFiniteMagnitude`, of 64 bits. -/
def greatestFiniteMagnitude : ℚ := (2 ^ 53 - 1) * 2 ^ 971

namespace ATCCenteredCollectionViewFlowLayout

/-- The body of the loop over the attributes. -/
def closerAdjustment (horizontalCenter offsetAdjustment : ℚ) (center : CGPoint ℚ) : ℚ :=
  if |center.x - horizontalCenter| < |offsetAdjustment| then center.x - horizontalCenter
  else offsetAdjustment

/-- `collectionView` is the size of the frame of the collection view. -/
def targetContentOffset (collectionView : Option (CGSize ℚ))
    (layoutAttributesForElements : CGRect → Option (List (CGPoint ℚ)))
    (proposedContentOffset : CGPoint ℚ) : CGPoint ℚ :=
  match collectionView with
  | none => .zero
  | some frame =>
    match layoutAttributesForElements ⟨proposedContentOffset.x, 0, frame.width, frame.height⟩ with
    | none => .zero
    | some rectAttributes =>
      let horizontalCenter := proposedContentOffset.x + frame.width / 2
      let offsetAdjustment :=
        rectAttributes.foldl (closerAdjustment horizontalCenter) greatestFiniteMagnitude
      ⟨proposedContentOffset.x + offsetAdjustment, proposedContentOffset.y⟩

end ATCCenteredCollectionViewFlowLayout

end FinanciaApp.Source
