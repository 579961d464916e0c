import FinanciaApp.Library.FirstOccurrences
import FinanciaApp.Source.ATCGenericCollectionViewController

/-!
# The REST data source

`Core/Helpers/ATCGenericRestAPIDataSource.swift`. The three entry points return
the request they send, if any; the three completion closures are functions of the
parsed reply. Replies run on the main queue after the call that sent the request
returned, so a call and a closure each run as a whole. `currentPage` is a natural
number: the source's `UInt` would trap at `2 ^ 64` pages.
-/

set_option autoImplicit false

namespace FinanciaApp.Source

open Library

universe u v

structure ATCGenericRestAPIDataSourceConfiguration where
  loadFirstURLString : String
  loadTopURLString : String
  consumerKey : Option String
  consumerSecret : Option String
  computeLoadBottomURLString : Nat → String

structure ATCGenericRestAPIDataSource (T : Type u) where
  store : List T
  currentPage : Nat
  configuration : ATCGenericRestAPIDataSourceConfiguration
  bottomStreamLoadingEnded : Bool
  isLoadingBottom : Bool
  isLoadingTop : Bool

namespace ATCGenericRestAPIDataSource

/-- The operation a request belongs to; it selects the completion closure. -/
inductive Operation where
  | loadFirst
  | loadBottom (page : Nat)
  | loadTop
  deriving DecidableEq, Repr

def Operation.isLoadBottom : Operation → Bool
  | .loadBottom _ => true
  | _ => false

def Operation.isLoadTop : Operation → Bool
  | .loadTop => true
  | _ => false

structure Request where
  operation : Operation
  urlPath : String
  parameters : List (String × String)
  deriving DecidableEq, Repr

variable {T : Type u}

def new (configuration : ATCGenericRestAPIDataSourceConfiguration) :
    ATCGenericRestAPIDataSource T where
  store := []
  currentPage := 0
  configuration := configuration
  bottomStreamLoadingEnded := false
  isLoadingBottom := false
  isLoadingTop := false

def requestParameters (self : ATCGenericRestAPIDataSource T) : List (String × String) :=
  match self.configuration.consumerKey, self.configuration.consumerSecret with
  | some consumerKey, some consumerSecret =>
    [("consumer_key", consumerKey), ("consumer_secret", consumerSecret)]
  | _, _ => []

def object (self : ATCGenericRestAPIDataSource T) (index : Int) : Option T :=
  if index < (self.store.length : Int) then self.store[index.toNat]? else none

def numberOfObjects (self : ATCGenericRestAPIDataSource T) : Int := self.store.length

instance : ATCGenericCollectionViewControllerDataSource (ATCGenericRestAPIDataSource T) T where
  object := object
  numberOfObjects := numberOfObjects

/-- `loadFirst()`: no guard, every call sends a request. -/
def loadFirst (self : ATCGenericRestAPIDataSource T) :
    ATCGenericRestAPIDataSource T × Option Request :=
  (self, some ⟨.loadFirst, self.configuration.loadFirstURLString, self.requestParameters⟩)

/-- `loadBottom()`: the page number is read when the request is sent. -/
def loadBottom (self : ATCGenericRestAPIDataSource T) :
    ATCGenericRestAPIDataSource T × Option Request :=
  if self.isLoadingBottom || self.bottomStreamLoadingEnded then
    (self, none)
  else
    ({ self with isLoadingBottom := true },
      some ⟨.loadBottom self.currentPage,
        self.configuration.computeLoadBottomURLString self.currentPage, self.requestParameters⟩)

def loadTop (self : ATCGenericRestAPIDataSource T) :
    ATCGenericRestAPIDataSource T × Option Request :=
  if self.isLoadingTop then
    (self, none)
  else
    ({ self with isLoadingTop := true },
      some ⟨.loadTop, self.configuration.loadTopURLString, self.requestParameters⟩)

section

variable {Description : Type v} [DecidableEq Description] [ATCGenericBaseModel T Description]

open ATCGenericBaseModel

def findStreamObject (self : ATCGenericRestAPIDataSource T) (object : T) : Bool :=
  (self.store.filter fun stored => description object = description stored).length > 0

/-- The `objects?.forEach` loop of the three closures, with its `results`. -/
def forEachObject (self : ATCGenericRestAPIDataSource T) (objects : Option (List T)) :
    ATCGenericRestAPIDataSource T × List T :=
  (objects.getD []).foldl
    (fun acc object =>
      if acc.1.findStreamObject object then acc
      else ({ acc.1 with store := acc.1.store ++ [object] }, acc.2 ++ [object]))
    (self, [])

/-- `(objects?.count ?? 0) == 0`. -/
def countsZero (objects : Option (List T)) : Bool :=
  (objects.map List.length).getD 0 = 0

def loadFirstCompletion (self : ATCGenericRestAPIDataSource T) (objects : Option (List T)) :
    ATCNetworkResponseStatus → ATCGenericRestAPIDataSource T × Option (Notification T)
  | .success =>
    let looped := { self with currentPage := 1 }.forEachObject objects
    let finished :=
      if countsZero objects then { looped.1 with bottomStreamLoadingEnded := true } else looped.1
    (finished, some (.didLoadFirst looped.2))
  | .error _ => (self, none)

def loadBottomCompletion (self : ATCGenericRestAPIDataSource T) (objects : Option (List T)) :
    ATCNetworkResponseStatus → ATCGenericRestAPIDataSource T × Option (Notification T)
  | .success =>
    let looped := { self with currentPage := self.currentPage + 1 }.forEachObject objects
    let finished :=
      if countsZero objects then { looped.1 with bottomStreamLoadingEnded := true } else looped.1
    ({ finished with isLoadingBottom := false }, some (.didLoadBottom looped.2))
  -- the flag set by `loadBottom` stays set here
  | .error _ => (self, none)

def loadTopCompletion (self : ATCGenericRestAPIDataSource T) (objects : Option (List T)) :
    ATCNetworkResponseStatus → ATCGenericRestAPIDataSource T × Option (Notification T)
  | .success =>
    let looped := self.forEachObject objects
    ({ looped.1 with isLoadingTop := false }, some (.didLoadTop looped.2))
  | .error _ => (self, none)

/-- The closure that a request passed as its completion. -/
def completion (operation : Operation) (self : ATCGenericRestAPIDataSource T)
    (objects : Option (List T)) (status : ATCNetworkResponseStatus) :
    ATCGenericRestAPIDataSource T × Option (Notification T) :=
  match operation with
  | .loadFirst => self.loadFirstCompletion objects status
  | .loadBottom _ => self.loadBottomCompletion objects status
  | .loadTop => self.loadTopCompletion objects status

theorem findStreamObject_iff (self : ATCGenericRestAPIDataSource T) (object : T) :
    self.findStreamObject object = true ↔ description object ∈ self.store.map description := by
  simp only [findStreamObject, gt_iff_lt, decide_eq_true_eq, List.length_filter_pos_iff,
    List.mem_map]
  exact exists_congr fun stored => and_congr_right fun _ => eq_comm

private theorem forEachObject_loop (objects : List T) (self : ATCGenericRestAPIDataSource T)
    (results : List T) :
    objects.foldl
        (fun acc object =>
          if acc.1.findStreamObject object then acc
          else ({ acc.1 with store := acc.1.store ++ [object] }, acc.2 ++ [object]))
        (self, results) =
      ({ self with store := self.store ++ unseen description self.store objects },
        results ++ unseen description self.store objects) := by
  induction objects generalizing self results with
  | nil => simp
  | cons object objects ih =>
    rw [List.foldl_cons]
    by_cases hseen : description object ∈ self.store.map description
    · rw [if_pos ((findStreamObject_iff self object).mpr hseen), ih,
        unseen_cons_of_mem description objects hseen]
    · rw [if_neg (mt (findStreamObject_iff self object).mp hseen), ih,
        unseen_cons_of_not_mem description objects hseen]
      simp [List.append_assoc]

/-- The loop appends what the store has not seen, and `results` is what it appended. -/
theorem forEachObject_eq (self : ATCGenericRestAPIDataSource T) (objects : Option (List T)) :
    self.forEachObject objects =
      ({ self with store := self.store ++ unseen description self.store (objects.getD []) },
        unseen description self.store (objects.getD [])) := by
  simp only [forEachObject, forEachObject_loop, List.nil_append]

end

end ATCGenericRestAPIDataSource

end FinanciaApp.Source
