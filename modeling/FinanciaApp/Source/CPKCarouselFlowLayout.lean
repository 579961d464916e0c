import Mathlib.Algebra.Order.Group.Abs
import FinanciaApp.Source.ATCLineChart
import FinanciaApp.Source.ATCLiquidCollectionViewLayout
import FinanciaApp.Source.DoubleExtensions

/-!
# The carousel layout

`Core/UIKit/Carousels/CupertinoCarousel/CPKCarouselFlowLayout.swift`, over the rational numbers
and whatever the velocity. The collection view is set. The flow layout of UIKit is a parameter:
the attributes that it gives for a rectangle, and the offset that it targets. `none` is the trap
of `Int(_:)`, also for the NaN of a division by zero.
-/

set_option autoImplicit false

namespace FinanciaApp.Source

/-- The attributes of an item; `scale` is that of `transform3D`. -/
structure CarouselAttributes where
  center : CGPoint ℚ
  alpha : ℚ
  scale : ℚ
  zIndex : ℤ
  deriving DecidableEq, Repr

/-- What the layout reads of its collection view. -/
structure CarouselCollectionView where
  bounds : CGRect
  frameWidth : ℚ
  frameHeight : ℚ
  contentOffset : CGPoint ℚ
  isPagingEnabled : Bool
  deriving DecidableEq, Repr

inductive CPKCarouselFlowLayoutSpacingMode where
  | fixed (spacing : ℚ)
  | overlap (visibleOffset : ℚ)
  deriving DecidableEq, Repr

inductive ScrollDirection where
  | horizontal
  | vertical
  deriving DecidableEq, Repr

/-- `state` is the size and the direction of the last update. -/
structure CPKCarouselFlowLayout where
  scrollDirection : ScrollDirection
  itemWidth : ℚ
  itemHeight : ℚ
  sectionInsetX : ℚ
  sectionInsetY : ℚ
  minimumLineSpacing : ℚ
  sideItemScale : ℚ
  sideItemAlpha : ℚ
  sideItemShift : ℚ
  spacingMode : CPKCarouselFlowLayoutSpacingMode
  state : (ℚ × ℚ) × ScrollDirection
  deriving DecidableEq, Repr

namespace CPKCarouselFlowLayout

/-- A layout for items of a size, with the default values. -/
def new (itemWidth itemHeight : ℚ) : CPKCarouselFlowLayout where
  scrollDirection := .horizontal
  itemWidth := itemWidth
  itemHeight := itemHeight
  sectionInsetX := 0
  sectionInsetY := 0
  minimumLineSpacing := 10
  sideItemScale := 3 / 5
  sideItemAlpha := 3 / 5
  sideItemShift := 0
  spacingMode := .fixed 40
  state := ((0, 0), .horizontal)

def updateLayout (layout : CPKCarouselFlowLayout) (width height : ℚ) : CPKCarouselFlowLayout :=
  let isHorizontal := layout.scrollDirection = .horizontal
  let yInset := (height - layout.itemHeight) / 2
  let xInset := (width - layout.itemWidth) / 2
  let side := if isHorizontal then layout.itemWidth else layout.itemHeight
  let scaledItemOffset := (side - side * layout.sideItemScale) / 2
  { layout with
    sectionInsetX := xInset
    sectionInsetY := yInset
    minimumLineSpacing :=
      match layout.spacingMode with
      | .fixed spacing => spacing - scaledItemOffset
      | .overlap visibleOffset =>
        let fullSizeSideItemOverlap := visibleOffset + scaledItemOffset
        let inset := if isHorizontal then xInset else yInset
        inset - fullSizeSideItemOverlap }

def prepare (layout : CPKCarouselFlowLayout) (view : CarouselCollectionView) :
    CPKCarouselFlowLayout :=
  let currentState := ((view.bounds.width, view.bounds.height), layout.scrollDirection)
  if layout.state ≠ currentState then
    { layout.updateLayout view.bounds.width view.bounds.height with state := currentState }
  else layout

/-- The share of an item in the middle, and `none` for the NaN where the items do not move on. -/
def ratio (layout : CPKCarouselFlowLayout) (view : CarouselCollectionView)
    (center : CGPoint ℚ) : Option ℚ :=
  let isHorizontal := layout.scrollDirection = .horizontal
  let collectionCenter := (if isHorizontal then view.frameWidth else view.frameHeight) / 2
  let offset := if isHorizontal then view.contentOffset.x else view.contentOffset.y
  let normalizedCenter := (if isHorizontal then center.x else center.y) - offset
  let maxDistance :=
    (if isHorizontal then layout.itemWidth else layout.itemHeight) + layout.minimumLineSpacing
  let distance := min |collectionCenter - normalizedCenter| maxDistance
  if maxDistance = 0 then none else some ((maxDistance - distance) / maxDistance)

def transformLayoutAttributes (layout : CPKCarouselFlowLayout) (view : CarouselCollectionView)
    (attributes : CarouselAttributes) : Option CarouselAttributes := do
  let isHorizontal := layout.scrollDirection = .horizontal
  let center := attributes.center
  let ratio ← layout.ratio view center
  let alpha := ratio * (1 - layout.sideItemAlpha) + layout.sideItemAlpha
  let scale := ratio * (1 - layout.sideItemScale) + layout.sideItemScale
  let shift := (1 - ratio) * layout.sideItemShift
  let zIndex ← Double.toInt (alpha * 10)
  return {
    center :=
      if isHorizontal then ⟨center.x, center.y + shift⟩ else ⟨center.x + shift, center.y⟩
    alpha := alpha
    scale := scale
    zIndex := zIndex }

section Elements

variable (layout : CPKCarouselFlowLayout) (view : CarouselCollectionView)
  (superElements : CGRect → Option (List CarouselAttributes))
  (superTarget : CGPoint ℚ → CGPoint ℚ)

/-- The outer `none` is a trap, the inner one `nil`. -/
def layoutAttributesForElements (rect : CGRect) : Option (Option (List CarouselAttributes)) :=
  match superElements rect with
  | none => some none
  | some attributes => (attributes.mapM (layout.transformLayoutAttributes view)).map some

/-- `sorted { abs($0 - origin) < abs($1 - origin) }.first`, by a coordinate of the centre; the
centre of new attributes is the origin of the coordinates. -/
def closest (coordinate : CGPoint ℚ → ℚ) (origin : ℚ) (attributes : List CarouselAttributes) :
    CGPoint ℚ :=
  let sorted := attributes.mergeSort fun x y =>
    |coordinate x.center - origin| ≤ |coordinate y.center - origin|
  match sorted.head? with
  | some first => first.center
  | none => .zero

def targetContentOffset (proposedContentOffset : CGPoint ℚ) : Option (CGPoint ℚ) :=
  if view.isPagingEnabled then some (superTarget proposedContentOffset)
  else do
    match ← layout.layoutAttributesForElements view superElements view.bounds with
    | none => return superTarget proposedContentOffset
    | some layoutAttributes =>
      let isHorizontal := layout.scrollDirection = .horizontal
      let midSide := (if isHorizontal then view.bounds.width else view.bounds.height) / 2
      let proposedContentOffsetCenterOrigin :=
        (if isHorizontal then proposedContentOffset.x else proposedContentOffset.y) + midSide
      if isHorizontal then
        let closest := closest CGPoint.x proposedContentOffsetCenterOrigin layoutAttributes
        return ⟨⌊closest.x - midSide⌋, proposedContentOffset.y⟩
      else
        let closest := closest CGPoint.y proposedContentOffsetCenterOrigin layoutAttributes
        return ⟨proposedContentOffset.x, ⌊closest.y - midSide⌋⟩

end Elements

end CPKCarouselFlowLayout

end FinanciaApp.Source
