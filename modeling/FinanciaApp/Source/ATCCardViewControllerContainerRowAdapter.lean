import FinanciaApp.Source.ATCLiquidCollectionViewLayout

/-!
# The cards of the home screen

The height that `Core/Adapters/ATCCardViewControllerContainerRowAdapter.swift:21-34` gives a card,
and what the liquid layout asks the controller in the card:
`ATCGenericCollectionViewController.swift:241-256,338-346` with the row adapters of
`FinanceApp/UI`. The collection view in a card has no content insets. `none` is the fatal error.
-/

set_option autoImplicit false

namespace FinanciaApp.Source

/-- A row of a card, by the class of its object. -/
inductive CardRow where
  | CardHeaderModel
  | ATCFinanceAccount
  | CardFooterModel
  deriving DecidableEq, Repr

namespace CardRow

/-- `String(describing: type(of: object))`. -/
def stringClass : CardRow → String
  | .CardHeaderModel => "CardHeaderModel"
  | .ATCFinanceAccount => "ATCFinanceAccount"
  | .CardFooterModel => "CardFooterModel"

end CardRow

inductive CardRowAdapter where
  | CardHeaderRowAdapter
  | FinanceAccountRowAdapter
  | CardFooterRowAdapter
  deriving DecidableEq, Repr

namespace CardRowAdapter

/-- The width and the height of a row. -/
def size (containerWidth : Rat) : CardRowAdapter → CardRow → Rat × Rat
  | .CardHeaderRowAdapter, .CardHeaderModel => (containerWidth, 70)
  | .FinanceAccountRowAdapter, .ATCFinanceAccount => (containerWidth, 70)
  | .CardFooterRowAdapter, .CardFooterModel => (containerWidth, 70)
  | _, _ => (0, 0)

end CardRowAdapter

/-- `store` of the `ATCAdapterStore`. -/
abbrev ATCAdapterStore := String → Option CardRowAdapter

namespace ATCAdapterStore

def new : ATCAdapterStore := fun _ => none

/-- `use(adapter:for:)`. -/
def use (store : ATCAdapterStore) (adapter : CardRowAdapter) (classString : String) :
    ATCAdapterStore :=
  fun key => if key = classString then some adapter else store key

end ATCAdapterStore

/-- The controller in a card, with the padding of its layout. -/
structure CardViewController where
  genericDataSource : Option (List CardRow)
  adapterStore : ATCAdapterStore
  cellPadding : Rat

namespace CardViewController

/-- The store of the controllers for cash, investments and liabilities. -/
def homeAdapterStore : ATCAdapterStore :=
  (ATCAdapterStore.new.use .CardHeaderRowAdapter "CardHeaderModel").use
    .FinanceAccountRowAdapter "ATCFinanceAccount"

section Controller

variable (controller : CardViewController)

def numberOfObjects : Nat := (controller.genericDataSource.getD []).length

def object (row : Nat) : Option CardRow := (controller.genericDataSource.getD [])[row]?

def adapter (row : Nat) : Option CardRowAdapter :=
  (controller.object row).bind fun object => controller.adapterStore object.stringClass

/-- `size(collectionView:indexPath:)`, for the width of the bounds. -/
def size (boundsWidth : Rat) (row : Nat) : Rat × Rat :=
  match controller.adapter row, controller.object row with
  | some adapter, some object => adapter.size boundsWidth object
  | _, _ => (0, 0)

/-- What the layout asks its collection view and its delegate. -/
def collectionView (boundsWidth : Rat) : UICollectionView where
  boundsWidth := boundsWidth
  insetLeft := 0
  insetRight := 0
  collectionViewCellWidth := (controller.size boundsWidth 0).1
  cellHeights := (List.range controller.numberOfObjects).map fun row =>
    (controller.size boundsWidth row).2

/-- The first `prepare` of the layout in the card. -/
def prepareLayout (boundsWidth : Rat) : Except LayoutError ATCLiquidCollectionViewLayout :=
  ATCLiquidCollectionViewLayout.prepare (controller.collectionView boundsWidth)
    (ATCLiquidCollectionViewLayout.new controller.cellPadding)

end Controller

end CardViewController

/-- `viewController` is `none` if it is no `ATCGenericCollectionViewController`. -/
structure ATCViewControllerContainerViewModel where
  cellHeight : Option Rat
  subcellHeight : Option Rat
  viewController : Option CardViewController

/-- The view model of the home screen for cash, investments or liabilities. -/
def homeCard (controller : CardViewController) : ATCViewControllerContainerViewModel :=
  ⟨none, some 67, some controller⟩

namespace ATCCardViewControllerContainerRowAdapter

def size (containerWidth : Rat) (viewModel : ATCViewControllerContainerViewModel) :
    Option (Rat × Rat) :=
  match viewModel.cellHeight with
  | some cellHeight => some (containerWidth, cellHeight)
  | none =>
    match viewModel.viewController with
    | none => none
    | some collectionVC =>
      match collectionVC.genericDataSource, viewModel.subcellHeight with
      | some _, some subcellHeight =>
        some (containerWidth, (collectionVC.numberOfObjects : Rat) * subcellHeight)
      | _, _ => none

end ATCCardViewControllerContainerRowAdapter

end FinanciaApp.Source
