import FinanciaApp.Source.ATCAPIManager

/-!
# The collection view behind a data source

`Core/ViewControllers/ATCGenericCollectionViewController.swift:23-49,180-211,289-291`.
The collection view is the list of rows it shows. A reload replaces it by what
the data source answers row by row; a batch update inserts, one after the other,
the rows that the data source answers at the given index paths. `batches` keeps
every batch update with the counts that UIKit compares. Activity indicator,
refresh control, empty view and layout are not modelled.
-/

set_option autoImplicit false

namespace FinanciaApp.Source

universe u v

/-- The data-source half of `ATCGenericCollectionViewControllerDataSource`. Swift
indices and counts are `Int`. -/
class ATCGenericCollectionViewControllerDataSource (D : Type v) (T : outParam (Type u)) where
  object : D → Int → Option T
  numberOfObjects : D → Int

/-- The calls a data source makes on its delegate. -/
inductive Notification (T : Type u) where
  | didLoadFirst (objects : List T)
  | didLoadBottom (objects : List T)
  | didLoadTop (objects : List T)
  deriving DecidableEq, Repr

def Notification.objects {T : Type u} : Notification T → List T
  | .didLoadFirst objects => objects
  | .didLoadBottom objects => objects
  | .didLoadTop objects => objects

/-- One `performBatchUpdates` with what UIKit checks about it. -/
structure BatchUpdate (T : Type u) where
  objects : List T
  indexPaths : List Int
  rowsBefore : List (Option T)
  rowsAfter : List (Option T)
  numberOfItems : Int
  deriving DecidableEq, Repr

structure ATCGenericCollectionViewController (T : Type u) where
  rows : List (Option T)
  batches : List (BatchUpdate T)
  notifications : List (Notification T)
  deriving DecidableEq, Repr

section

variable {D : Type v} {T : Type u} [ATCGenericCollectionViewControllerDataSource D T]

open ATCGenericCollectionViewControllerDataSource

/-- The rows the data source answers, for every row it counts. -/
def sourceRows (dataSource : D) : List (Option T) :=
  (List.range (numberOfObjects dataSource).toNat).map fun i : Nat => object dataSource (i : Int)

/-- `insertItems(at:)`: each inserted row is what `cellForItemAt` shows there. -/
def insertItems (dataSource : D) (rows : List (Option T)) (indexPaths : List Int) :
    List (Option T) :=
  indexPaths.foldl (fun shown row => shown.insertIdx row.toNat (object dataSource row)) rows

theorem insertItems_append (dataSource : D) (rows : List (Option T)) (paths more : List Int) :
    insertItems dataSource rows (paths ++ more) =
      insertItems dataSource (insertItems dataSource rows paths) more :=
  List.foldl_append

@[simp] theorem insertItems_singleton (dataSource : D) (rows : List (Option T)) (row : Int) :
    insertItems dataSource rows [row] = rows.insertIdx row.toNat (object dataSource row) := rfl

namespace ATCGenericCollectionViewController

/-- A controller whose view has loaded and shows nothing yet. -/
def empty : ATCGenericCollectionViewController T := ⟨[], [], []⟩

def reloadCollectionView (dataSource : D) (controller : ATCGenericCollectionViewController T) :
    ATCGenericCollectionViewController T :=
  { controller with rows := sourceRows dataSource }

def didLoadFirst (dataSource : D) (_objects : List T)
    (controller : ATCGenericCollectionViewController T) :
    ATCGenericCollectionViewController T :=
  controller.reloadCollectionView dataSource

def didLoadBottom (dataSource : D) (objects : List T)
    (controller : ATCGenericCollectionViewController T) :
    ATCGenericCollectionViewController T :=
  let offset := numberOfObjects dataSource - (objects.length : Int)
  let indexPaths := (List.range objects.length).map fun i : Nat => offset + (i : Int)
  let rowsAfter := insertItems dataSource controller.rows indexPaths
  { controller with
    rows := rowsAfter
    batches := controller.batches ++
      [⟨objects, indexPaths, controller.rows, rowsAfter, numberOfObjects dataSource⟩] }

def didLoadTop (dataSource : D) (_objects : List T)
    (controller : ATCGenericCollectionViewController T) :
    ATCGenericCollectionViewController T :=
  controller.reloadCollectionView dataSource

/-- The delegate call that a notification stands for. -/
def handle (dataSource : D) (notification : Notification T)
    (controller : ATCGenericCollectionViewController T) :
    ATCGenericCollectionViewController T :=
  let handled := match notification with
    | .didLoadFirst objects => controller.didLoadFirst dataSource objects
    | .didLoadBottom objects => controller.didLoadBottom dataSource objects
    | .didLoadTop objects => controller.didLoadTop dataSource objects
  { handled with notifications := controller.notifications ++ [notification] }

@[simp] theorem handle_notifications (dataSource : D) (notification : Notification T)
    (controller : ATCGenericCollectionViewController T) :
    (controller.handle dataSource notification).notifications =
      controller.notifications ++ [notification] := rfl

end ATCGenericCollectionViewController

end

end FinanciaApp.Source
