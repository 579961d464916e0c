import Mathlib.Data.Rat.Floor
import Mathlib.Tactic.Linarith
import FinanciaApp.Library.DealtInTurn

/-!
# The liquid layout

`Core/ViewControllers/Layouts/ATCLiquidCollectionViewLayout.swift:16-93,117-119`, over exact
rational numbers. The collection view and the delegate are set, and what `prepare` asks them
is a `UICollectionView`; `ATCGenericCollectionViewController.swift:200-211` invalidates the
cache and the layout on a reload, and UIKit then calls `prepare`. A division by zero, which
stops nothing in Swift and gives an infinity, is reported as a failure of `prepare`, like the
two traps. `layoutAttributesForElements` and `layoutAttributesForItem` only read the cache.
-/

set_option autoImplicit false

namespace FinanciaApp.Source

open Library

structure CGRect where
  x : Rat
  y : Rat
  width : Rat
  height : Rat
  deriving DecidableEq, Repr

namespace CGRect

/-- The largest `y` of the rectangle, also where its height is negative. -/
def maxY (rect : CGRect) : Rat := max rect.y (rect.y + rect.height)

def standardized (rect : CGRect) : CGRect where
  x := min rect.x (rect.x + rect.width)
  y := min rect.y (rect.y + rect.height)
  width := max rect.width (-rect.width)
  height := max rect.height (-rect.height)

/-- `insetBy(dx:dy:)`; `none` is `CGRect.null`. -/
def insetBy (rect : CGRect) (dx dy : Rat) : Option CGRect :=
  let rect := rect.standardized
  if rect.width - 2 * dx < 0 ∨ rect.height - 2 * dy < 0 then none
  else some ⟨rect.x + dx, rect.y + dy, rect.width - 2 * dx, rect.height - 2 * dy⟩

end CGRect

/-- The attributes of the cell in a row of the only section. -/
structure UICollectionViewLayoutAttributes where
  row : Nat
  frame : Option CGRect
  deriving DecidableEq, Repr

/-- The collection view with its delegate: the width of its bounds, its insets, the width of
the first item, and the heights of the items. -/
structure UICollectionView where
  boundsWidth : Rat
  insetLeft : Rat
  insetRight : Rat
  collectionViewCellWidth : Rat
  cellHeights : List Rat
  deriving DecidableEq, Repr

structure ATCLiquidCollectionViewLayout where
  cellPadding : Rat
  cachedWidth : Rat
  cache : List UICollectionViewLayoutAttributes
  contentHeight : Rat
  numberOfItems : Nat
  deriving DecidableEq, Repr

/-- Why `prepare` does not return. -/
inductive LayoutError where
  | divisionByZero
  | rangeBounds
  | indexOutOfRange
  deriving DecidableEq, Repr

/-- `Int(_:)` of a number: the fraction is cut off. -/
def truncate (value : Rat) : Int := if 0 ≤ value then ⌊value⌋ else ⌈value⌉

theorem le_truncate_iff {n : Int} (positive : 0 < n) (value : Rat) :
    n ≤ truncate value ↔ (n : Rat) ≤ value := by
  have above : (0 : Rat) < n := by exact_mod_cast positive
  unfold truncate
  split
  · exact Int.le_floor
  · rename_i negative
    have belowZero : ⌈value⌉ ≤ 0 := Int.ceil_le.mpr (by exact_mod_cast (not_le.mp negative).le)
    exact iff_of_false (by omega) fun le => negative (above.le.trans le)

theorem truncate_le_neg_iff {n : Int} (positive : 0 < n) (value : Rat) :
    truncate value ≤ -n ↔ value ≤ -(n : Rat) := by
  have above : (0 : Rat) < n := by exact_mod_cast positive
  unfold truncate
  split
  · rename_i nonneg
    have aboveZero : 0 ≤ ⌊value⌋ := Int.le_floor.mpr (by exact_mod_cast nonneg)
    exact iff_of_false (by omega) fun le => by linarith
  · rw [Int.ceil_le]
    push_cast
    rfl

namespace ATCLiquidCollectionViewLayout

def new (cellPadding : Rat) : ATCLiquidCollectionViewLayout := ⟨cellPadding, 0, [], 0, 0⟩

section View

variable (view : UICollectionView)

def contentWidth : Rat := view.boundsWidth - (view.insetLeft + view.insetRight)

def numberOfColumns : Int :=
  if view.collectionViewCellWidth > 0 then
    truncate (contentWidth view / view.collectionViewCellWidth)
  else 1

def horizontalPadding : Rat :=
  (contentWidth view - numberOfColumns view * view.collectionViewCellWidth) /
    (numberOfColumns view + 1)

/-- `xOffset[column]`. -/
def columnOffset (column : Nat) : Rat :=
  column * view.collectionViewCellWidth + (column + 1) * horizontalPadding view

end View

/-- `array[index]`. -/
def element (array : List Rat) (index : Nat) : Except LayoutError Rat :=
  match array[index]? with
  | some value => .ok value
  | none => .error .indexOutOfRange

/-- The variables of the loop over the rows. -/
structure Placement where
  column : Nat
  yOffset : List Rat
  cache : List UICollectionViewLayoutAttributes
  contentHeight : Rat
  deriving DecidableEq, Repr

/-- The body of the loop over the rows, for the height of a cell and its row. -/
def placeRow (cellPadding cellWidth : Rat) (numberOfColumns : Int) (xOffset : List Rat)
    (placement : Placement) (cell : Rat × Nat) : Except LayoutError Placement := do
  let height := cellPadding + cell.1 + cellPadding
  let x ← element xOffset placement.column
  let y ← element placement.yOffset placement.column
  let frame : CGRect := ⟨x, y, cellWidth, height⟩
  return {
    column := if placement.column ≥ numberOfColumns - 1 then 0 else placement.column + 1
    yOffset := placement.yOffset.set placement.column (y + height)
    cache := placement.cache ++ [⟨cell.2, frame.insetBy 0 cellPadding⟩]
    contentHeight := max placement.contentHeight frame.maxY }

/-- #1: the cache is dropped when the width or the number of items has changed. -/
def resetIfChanged (view : UICollectionView) (layout : ATCLiquidCollectionViewLayout) :
    ATCLiquidCollectionViewLayout :=
  if contentWidth view ≠ layout.cachedWidth ∨ layout.numberOfItems ≠ view.cellHeights.length then
    { layout with cache := [], contentHeight := 0, numberOfItems := view.cellHeights.length }
  else layout

def prepare (view : UICollectionView) (layout : ATCLiquidCollectionViewLayout) :
    Except LayoutError ATCLiquidCollectionViewLayout :=
  if numberOfColumns view + 1 = 0 then .error .divisionByZero
  else
    let layout := resetIfChanged view layout
    if layout.cache.isEmpty then
      if numberOfColumns view < 0 then .error .rangeBounds
      else do
        let columns := (numberOfColumns view).toNat
        let xOffset := (List.range columns).map (columnOffset view)
        let placement ← view.cellHeights.zipIdx.foldlM
          (placeRow layout.cellPadding view.collectionViewCellWidth (numberOfColumns view) xOffset)
          ⟨0, List.replicate columns 0, [], layout.contentHeight⟩
        return { layout with
          cachedWidth := contentWidth view
          cache := placement.cache
          contentHeight := placement.contentHeight }
    else .ok layout

/-- The width and the height. -/
def collectionViewContentSize (view : UICollectionView) (layout : ATCLiquidCollectionViewLayout) :
    Rat × Rat :=
  (contentWidth view, layout.contentHeight)

def invalidateCache (layout : ATCLiquidCollectionViewLayout) : ATCLiquidCollectionViewLayout :=
  { layout with cache := [] }

/-- `reloadCollectionView` of the controller, with the `prepare` that follows. -/
def reloadCollectionView (view : UICollectionView) (layout : ATCLiquidCollectionViewLayout) :
    Except LayoutError ATCLiquidCollectionViewLayout :=
  prepare view layout.invalidateCache

/-- One reload in a history, of a view with at least one column. -/
def reloadStep (layout : ATCLiquidCollectionViewLayout) (view : UICollectionView) :
    Option ATCLiquidCollectionViewLayout :=
  if 1 ≤ numberOfColumns view then (reloadCollectionView view layout).toOption else none

end ATCLiquidCollectionViewLayout

end FinanciaApp.Source
