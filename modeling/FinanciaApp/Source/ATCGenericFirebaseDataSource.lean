import FinanciaApp.Library.OrderedByKey
import FinanciaApp.Source.ATCAPIManager
import FinanciaApp.Source.ATCGenericCollectionViewController

/-!
# The Firebase data source

`Core/Helpers/ATCGenericFirebaseDataSource.swift`, with the part of the database
API that it uses. A `Table` is a database node at one moment: its children with
distinct keys in key order, over any linear order of keys. `observeSingleEvent`
answers a key-ordered query with the children from the starting key on, that key
included, cut at the limit. A call or a closure that traps is `Except.error`:
`queryStarting(atValue:)` raises on a value that is no string when the query is
ordered by key, and `removeFirst()` traps on an empty array.
-/

set_option autoImplicit false

namespace FinanciaApp.Source

open Library

universe u w

structure DataSnapshot (K : Type w) where
  key : K
  value : JSONValue

/-- The children of a database node. -/
structure Table (K : Type w) [LinearOrder K] where
  children : List (DataSnapshot K)
  ordered : OrderedByKey DataSnapshot.key children

/-- `protocol ATCGenericFirebaseParsable { init(key: String, jsonDict: [String: Any]) }`. -/
class ATCGenericFirebaseParsable (T : Type u) (K : outParam (Type w)) where
  init : K → JSONDictionary → T

def kItemsPerPage : Nat := 10

structure ATCGenericFirebaseDataSource (T : Type u) (K : Type w) where
  store : List T
  lastFetchedObjectKey : Option K
  didFinishLoadingBottom : Bool
  dbChild : String
  deriving DecidableEq, Repr

namespace ATCGenericFirebaseDataSource

inductive Trap where
  | invalidQueryParameter
  | removeFirstOfEmpty
  deriving DecidableEq, Repr

/-- The operation a query belongs to; it selects the completion closure. -/
inductive Operation where
  | loadFirst
  | loadBottom
  deriving DecidableEq, Repr

structure Query (K : Type w) where
  operation : Operation
  dbChild : String
  startingAt : Option K
  limit : Nat
  deriving DecidableEq, Repr

/-- The children that a query ordered by key observes. -/
def Query.observeSingleEvent {K : Type w} [LinearOrder K] (query : Query K) (table : Table K) :
    List (DataSnapshot K) :=
  let children := match query.startingAt with
    | some start => fromKey DataSnapshot.key start table.children
    | none => table.children
  children.take query.limit

variable {T : Type u} {K : Type w}

def new (tableName : String) : ATCGenericFirebaseDataSource T K where
  store := []
  lastFetchedObjectKey := none
  didFinishLoadingBottom := false
  dbChild := tableName

/-- `store[index]`, `none` where the subscript traps. -/
def object (self : ATCGenericFirebaseDataSource T K) (index : Int) : Option T :=
  if index < 0 then none else self.store[index.toNat]?

def numberOfObjects (self : ATCGenericFirebaseDataSource T K) : Int := self.store.length

instance :
    ATCGenericCollectionViewControllerDataSource (ATCGenericFirebaseDataSource T K) T where
  object := object
  numberOfObjects := numberOfObjects

/-- `loadFirst()`: no guard, every call sends a query. -/
def loadFirst (self : ATCGenericFirebaseDataSource T K) : Query K :=
  ⟨.loadFirst, self.dbChild, none, kItemsPerPage⟩

/-- `loadBottom()`: the only guard is the finished flag, and the cursor is read when
the query is sent. -/
def loadBottom (self : ATCGenericFirebaseDataSource T K) : Except Trap (Option (Query K)) :=
  if self.didFinishLoadingBottom then
    .ok none
  else
    match self.lastFetchedObjectKey with
    | some key => .ok (some ⟨.loadBottom, self.dbChild, some key, kItemsPerPage + 1⟩)
    | none => .error .invalidQueryParameter

/-- `loadTop()` has an empty body. -/
def loadTop (self : ATCGenericFirebaseDataSource T K) : ATCGenericFirebaseDataSource T K := self

section

variable [ATCGenericFirebaseParsable T K]

/-- The body of the loop in `parseResults` for one child. -/
def rowOf (child : DataSnapshot K) : Option T :=
  child.value.asDictionary.map (ATCGenericFirebaseParsable.init child.key)

def parseResults (children : List (DataSnapshot K)) : List T := children.filterMap rowOf

def loadFirstCompletion (self : ATCGenericFirebaseDataSource T K)
    (children : List (DataSnapshot K)) :
    Except Trap (ATCGenericFirebaseDataSource T K × Notification T) :=
  let results := parseResults children
  .ok ({ self with
      store := self.store ++ results
      lastFetchedObjectKey := children.getLast?.map DataSnapshot.key },
    .didLoadFirst results)

def loadBottomCompletion (self : ATCGenericFirebaseDataSource T K)
    (children : List (DataSnapshot K)) :
    Except Trap (ATCGenericFirebaseDataSource T K × Notification T) :=
  match parseResults children with
  | [] => .error .removeFirstOfEmpty
  | _ :: results =>
    .ok ({ self with
        didFinishLoadingBottom := results.length = 0
        store := self.store ++ results
        lastFetchedObjectKey := match children.getLast? with
          | some last => some last.key
          | none => self.lastFetchedObjectKey },
      .didLoadBottom results)

/-- The closure that a query passed to `observeSingleEvent`. -/
def completion (operation : Operation) (self : ATCGenericFirebaseDataSource T K)
    (children : List (DataSnapshot K)) :
    Except Trap (ATCGenericFirebaseDataSource T K × Notification T) :=
  match operation with
  | .loadFirst => self.loadFirstCompletion children
  | .loadBottom => self.loadBottomCompletion children

end

/-- The children that `parseResults` turns into rows. -/
def dictionaryChildren (children : List (DataSnapshot K)) : List (DataSnapshot K) :=
  children.filter fun child => child.value.asDictionary.isSome

section

variable [ATCGenericFirebaseParsable T K] (children : List (DataSnapshot K))

@[simp] theorem parseResults_append (more : List (DataSnapshot K)) :
    (parseResults (children ++ more) : List T) = parseResults children ++ parseResults more :=
  List.filterMap_append

/-- Row by row, the parsed rows are those of the dictionary children. -/
theorem parseResults_dictionaryChildren :
    (parseResults (dictionaryChildren children) : List T) = parseResults children := by
  unfold parseResults dictionaryChildren
  rw [List.filterMap_filter]
  apply List.filterMap_congr
  intro child _
  cases h : child.value.asDictionary <;> simp [rowOf, h]

/-- Of children that are dictionaries, every one becomes the row of its key and its value. -/
theorem parseResults_objects {dict : DataSnapshot K → JSONDictionary}
    (objects : ∀ child ∈ children, child.value = .object (dict child)) :
    (parseResults children : List T) =
      children.map fun child => ATCGenericFirebaseParsable.init child.key (dict child) := by
  unfold parseResults
  rw [← List.filterMap_eq_map']
  apply List.filterMap_congr
  intro child member
  simp [rowOf, objects child member, JSONValue.asDictionary]

theorem parseResults_cons_dictionary (first : DataSnapshot K) (fresh : List (DataSnapshot K))
    (found : dictionaryChildren children = first :: fresh) :
    ∃ row : T, parseResults children = row :: parseResults fresh := by
  have isDictionary : first.value.asDictionary.isSome := by
    have member : first ∈ dictionaryChildren children := found ▸ List.mem_cons_self
    exact (List.mem_filter.mp member).2
  obtain ⟨row, hrow⟩ := Option.isSome_iff_exists.mp isDictionary
  refine ⟨ATCGenericFirebaseParsable.init first.key row, ?_⟩
  rw [← parseResults_dictionaryChildren, found]
  simp [parseResults, rowOf, hrow]

end

theorem dictionaryChildren_idem (children : List (DataSnapshot K)) :
    dictionaryChildren (dictionaryChildren children) = dictionaryChildren children := by
  simp [dictionaryChildren]

theorem dictionaryChildren_sublist (children : List (DataSnapshot K)) :
    (dictionaryChildren children).Sublist children := List.filter_sublist

theorem isSome_of_mem_dictionaryChildren {children : List (DataSnapshot K)}
    {child : DataSnapshot K} (h : child ∈ dictionaryChildren children) :
    child.value.asDictionary.isSome = true := (List.mem_filter.mp h).2

section

variable [LinearOrder K] (query : Query K) (table : Table K)

theorem observeSingleEvent_sublist :
    (query.observeSingleEvent table).Sublist table.children := by
  unfold Query.observeSingleEvent
  cases query.startingAt with
  | none => exact List.take_sublist _ _
  | some start => exact (List.take_sublist _ _).trans fromKey_sublist

theorem observeSingleEvent_ordered :
    OrderedByKey DataSnapshot.key (query.observeSingleEvent table) :=
  table.ordered.sublist (observeSingleEvent_sublist query table)

theorem le_of_mem_observeSingleEvent {start : K} (starting : query.startingAt = some start)
    {child : DataSnapshot K} (h : child ∈ query.observeSingleEvent table) : start ≤ child.key := by
  simp only [Query.observeSingleEvent, starting] at h
  exact le_of_mem_fromKey (List.mem_of_mem_take h)

/-- What a page asked for from `start` brings behind its first row: rows in key order,
strictly behind `start` and up to the last child of the page. -/
structure PageBounds (start : K) (fresh : List (DataSnapshot K)) (last : DataSnapshot K) :
    Prop where
  ordered : OrderedByKey DataSnapshot.key fresh
  behind : ∀ child ∈ fresh, start < child.key
  upTo : ∀ child ∈ fresh, child.key ≤ last.key
  advanced : start ≤ last.key

theorem pageBounds_of_page {start : K} (starting : query.startingAt = some start)
    {discarded last : DataSnapshot K} {fresh : List (DataSnapshot K)}
    (page : dictionaryChildren (query.observeSingleEvent table) = discarded :: fresh)
    (ends : (query.observeSingleEvent table).getLast? = some last) :
    PageBounds start fresh last := by
  have observed := observeSingleEvent_ordered query table
  have rows : ∀ child ∈ discarded :: fresh, child ∈ query.observeSingleEvent table :=
    fun child member => (dictionaryChildren_sublist _).mem (page ▸ member)
  have lower : ∀ child ∈ discarded :: fresh, start ≤ child.key :=
    fun child member => le_of_mem_observeSingleEvent query table starting (rows child member)
  have upper : ∀ child ∈ discarded :: fresh, child.key ≤ last.key :=
    fun child member => observed.le_last ends (rows child member)
  have pageOrdered : OrderedByKey DataSnapshot.key (discarded :: fresh) :=
    page ▸ observed.sublist (dictionaryChildren_sublist _)
  refine ⟨(List.pairwise_cons.mp pageOrdered).2, ?_, ?_, ?_⟩
  · intro child member
    exact pageOrdered.lt_of_mem_tail lower member
  · intro child member
    exact upper child (List.mem_cons_of_mem _ member)
  · exact le_trans (lower discarded List.mem_cons_self) (upper discarded List.mem_cons_self)

end

end ATCGenericFirebaseDataSource

end FinanciaApp.Source
