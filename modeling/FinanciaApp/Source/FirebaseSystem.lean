import FinanciaApp.Library.Runs
import FinanciaApp.Library.InFlight
import FinanciaApp.Source.ATCGenericFirebaseDataSource

/-!
# Runs of a Firebase data source

One `ATCGenericFirebaseDataSource`, its queries in flight and the controller that
is its delegate. A reply to a query carries the table that the database holds when
it answers, so the table may change between any two replies. Once a call or a
closure has trapped the app is gone and no event happens any more.

`stored` and `boundary` are not data of the source: they record the children
behind the rows of the store and the child the cursor came from. `Effect` says
once what a step can do.
-/

set_option autoImplicit false

namespace FinanciaApp.Source

open Library

universe u w

namespace ATCGenericFirebaseDataSource

/-- A query in flight; `boundary` is the child its starting key came from. -/
structure Sent (K : Type w) where
  query : Query K
  boundary : Option (DataSnapshot K)

structure System (T : Type u) (K : Type w) where
  source : ATCGenericFirebaseDataSource T K
  delegate : ATCGenericCollectionViewController T
  inFlight : List (Sent K)
  trapped : Option Trap
  stored : List (DataSnapshot K)
  boundary : Option (DataSnapshot K)

inductive Event (K : Type w) [LinearOrder K] where
  | loadFirst
  | loadBottom
  | loadTop
  | reply (index : Nat) (table : Table K)

variable {T : Type u} {K : Type w}

def System.initial (tableName : String) : System T K where
  source := new tableName
  delegate := .empty
  inFlight := []
  trapped := none
  stored := []
  boundary := none

/-- The children behind the rows that a completion appends. -/
def appended (operation : Operation) (children : List (DataSnapshot K)) :
    List (DataSnapshot K) :=
  match operation with
  | .loadFirst => dictionaryChildren children
  | .loadBottom => (dictionaryChildren children).tail

def System.send (s : System T K) (query : Query K) : System T K :=
  { s with inFlight := s.inFlight ++ [⟨query, s.boundary⟩] }

def System.afterLoadBottom (s : System T K) : System T K :=
  match s.source.loadBottom with
  | .ok (some query) => s.send query
  | .ok none => s
  | .error trap => { s with trapped := some trap }

section

variable [LinearOrder K] [ATCGenericFirebaseParsable T K]

/-- The state after the reply to `sent`; `rest` are the queries that stay in flight. -/
def System.afterReply (s : System T K) (sent : Sent K) (rest : List (Sent K))
    (table : Table K) : System T K :=
  let children := sent.query.observeSingleEvent table
  match completion sent.query.operation s.source children with
  | .ok (source, notification) =>
    { source := source
      delegate := s.delegate.handle source notification
      inFlight := rest
      trapped := none
      stored := s.stored ++ appended sent.query.operation children
      boundary := children.getLast? }
  | .error trap => { s with inFlight := rest, trapped := some trap }

def step (s : System T K) (e : Event K) : Option (System T K) :=
  match s.trapped with
  | some _ => none
  | none =>
    match e with
    | .loadFirst => some (s.send s.source.loadFirst)
    | .loadBottom => some s.afterLoadBottom
    | .loadTop => some { s with source := s.source.loadTop }
    | .reply index table =>
      match deliver s.inFlight index with
      | some (sent, rest) => some (s.afterReply sent rest table)
      | none => none

/-- The state after the first page `children` has been stored. -/
def System.withFirstPage (s : System T K) (rest : List (Sent K))
    (children : List (DataSnapshot K)) : System T K :=
  let source : ATCGenericFirebaseDataSource T K := { s.source with
    store := s.source.store ++ parseResults children
    lastFetchedObjectKey := children.getLast?.map DataSnapshot.key }
  { source := source
    delegate := s.delegate.handle source (.didLoadFirst (parseResults children))
    inFlight := rest
    trapped := none
    stored := s.stored ++ dictionaryChildren children
    boundary := children.getLast? }

/-- The state after the rows of `fresh` have been stored; `last` ends the page. -/
def System.withBottomPage (s : System T K) (rest : List (Sent K))
    (fresh : List (DataSnapshot K)) (last : DataSnapshot K) : System T K :=
  let source : ATCGenericFirebaseDataSource T K := { s.source with
    didFinishLoadingBottom := fresh.isEmpty
    store := s.source.store ++ parseResults fresh
    lastFetchedObjectKey := some last.key }
  { source := source
    delegate := s.delegate.handle source (.didLoadBottom (parseResults fresh))
    inFlight := rest
    trapped := none
    stored := s.stored ++ fresh
    boundary := some last }

/-- Everything a step can do. -/
inductive Effect (s : System T K) : Event K → System T K → Prop where
  | loadFirst : Effect s .loadFirst (s.send s.source.loadFirst)
  | finished (ended : s.source.didFinishLoadingBottom = true) : Effect s .loadBottom s
  | noCursor (more : s.source.didFinishLoadingBottom = false)
      (unset : s.source.lastFetchedObjectKey = none) :
      Effect s .loadBottom { s with trapped := some .invalidQueryParameter }
  | loadBottom (key : K) (more : s.source.didFinishLoadingBottom = false)
      (cursor : s.source.lastFetchedObjectKey = some key) :
      Effect s .loadBottom
        (s.send ⟨.loadBottom, s.source.dbChild, some key, kItemsPerPage + 1⟩)
  | loadTop : Effect s .loadTop s
  | firstPage (index : Nat) (table : Table K) (sent : Sent K) (rest : List (Sent K))
      (answered : deliver s.inFlight index = some (sent, rest))
      (operation : sent.query.operation = .loadFirst) :
      Effect s (.reply index table) (s.withFirstPage rest (sent.query.observeSingleEvent table))
  | bottomPage (index : Nat) (table : Table K) (sent : Sent K) (rest : List (Sent K))
      (answered : deliver s.inFlight index = some (sent, rest))
      (operation : sent.query.operation = .loadBottom)
      (discarded : DataSnapshot K) (fresh : List (DataSnapshot K)) (last : DataSnapshot K)
      (page : dictionaryChildren (sent.query.observeSingleEvent table) = discarded :: fresh)
      (ends : (sent.query.observeSingleEvent table).getLast? = some last) :
      Effect s (.reply index table) (s.withBottomPage rest fresh last)
  | emptyPage (index : Nat) (table : Table K) (sent : Sent K) (rest : List (Sent K))
      (answered : deliver s.inFlight index = some (sent, rest))
      (operation : sent.query.operation = .loadBottom)
      (page : dictionaryChildren (sent.query.observeSingleEvent table) = []) :
      Effect s (.reply index table)
        { s with inFlight := rest, trapped := some .removeFirstOfEmpty }

omit [LinearOrder K] in
theorem isEmpty_eq_length_parseResults (fresh : List (DataSnapshot K))
    (dictionaries : dictionaryChildren fresh = fresh) :
    decide ((parseResults fresh : List T).length = 0) = fresh.isEmpty := by
  cases fresh with
  | nil => rfl
  | cons child rest =>
    obtain ⟨row, hrow⟩ := parseResults_cons_dictionary (T := T) _ _ _ dictionaries
    simp [hrow]

theorem afterReply_loadFirst (s : System T K) (sent : Sent K) (rest : List (Sent K))
    (table : Table K) (operation : sent.query.operation = .loadFirst) :
    s.afterReply sent rest table =
      s.withFirstPage rest (sent.query.observeSingleEvent table) := by
  simp [System.afterReply, operation, completion, loadFirstCompletion, System.withFirstPage,
    appended]

theorem afterReply_emptyPage (s : System T K) (sent : Sent K) (rest : List (Sent K))
    (table : Table K) (operation : sent.query.operation = .loadBottom)
    (page : dictionaryChildren (sent.query.observeSingleEvent table) = []) :
    s.afterReply sent rest table =
      { s with inFlight := rest, trapped := some .removeFirstOfEmpty } := by
  have parsed : (parseResults (sent.query.observeSingleEvent table) : List T) = [] := by
    rw [← parseResults_dictionaryChildren, page]
    rfl
  simp [System.afterReply, operation, completion, loadBottomCompletion, parsed]

theorem afterReply_bottomPage (s : System T K) (sent : Sent K) (rest : List (Sent K))
    (table : Table K) (operation : sent.query.operation = .loadBottom)
    (discarded : DataSnapshot K) (fresh : List (DataSnapshot K)) (last : DataSnapshot K)
    (page : dictionaryChildren (sent.query.observeSingleEvent table) = discarded :: fresh)
    (ends : (sent.query.observeSingleEvent table).getLast? = some last) :
    s.afterReply sent rest table = s.withBottomPage rest fresh last := by
  obtain ⟨row, parsed⟩ := parseResults_cons_dictionary (T := T) _ _ _ page
  have dictionaries : dictionaryChildren fresh = fresh := by
    have all := dictionaryChildren_idem (sent.query.observeSingleEvent table)
    rw [page] at all
    refine List.filter_eq_self.mpr fun child member => ?_
    exact List.filter_eq_self.mp all child (List.mem_cons_of_mem _ member)
  have ended := isEmpty_eq_length_parseResults (T := T) fresh dictionaries
  simp only [System.afterReply, operation, completion, loadBottomCompletion, parsed, ends,
    System.withBottomPage, appended, page, List.tail_cons, ended]

theorem step_cases {s t : System T K} {e : Event K} (h : step s e = some t) :
    s.trapped = none ∧ Effect s e t := by
  unfold step at h
  split at h
  · cases h
  · rename_i running
    refine ⟨running, ?_⟩
    cases e with
    | loadFirst =>
      cases h
      exact .loadFirst
    | loadBottom =>
      cases h
      unfold System.afterLoadBottom loadBottom
      cases ended : s.source.didFinishLoadingBottom with
      | true => exact .finished ended
      | false =>
        cases cursor : s.source.lastFetchedObjectKey with
        | none => exact .noCursor ended cursor
        | some key => exact .loadBottom key ended cursor
    | loadTop =>
      cases h
      exact .loadTop
    | reply index table =>
      dsimp only at h
      split at h
      · rename_i sent rest answered
        cases h
        cases operation : sent.query.operation with
        | loadFirst =>
          rw [afterReply_loadFirst s sent rest table operation]
          exact .firstPage index table sent rest answered operation
        | loadBottom =>
          cases page : dictionaryChildren (sent.query.observeSingleEvent table) with
          | nil =>
            rw [afterReply_emptyPage s sent rest table operation page]
            exact .emptyPage index table sent rest answered operation page
          | cons discarded fresh =>
            have nonempty : sent.query.observeSingleEvent table ≠ [] := by
              intro empty
              rw [empty] at page
              cases page
            have ends := List.getLast?_eq_some_getLast nonempty
            rw [afterReply_bottomPage s sent rest table operation _ _ _ page ends]
            exact .bottomPage index table sent rest answered operation _ _ _ page ends
      · cases h

end

instance : ATCGenericFirebaseParsable TitledRow Nat where
  init _ jsonDict := ATCGenericJSONParsable.init jsonDict

/-- A child whose value is a dictionary. -/
def titledChild (key : Nat) (title : String) : DataSnapshot Nat :=
  ⟨key, .object [("title", .string title)]⟩

/-- A table with a dictionary child under each of the given keys. -/
def sampleTable (keys : List Nat) (increasing : keys.Pairwise fun a b => a < b) : Table Nat where
  children := keys.map fun key => titledChild key "row"
  ordered := List.pairwise_map.mpr increasing

end ATCGenericFirebaseDataSource

end FinanciaApp.Source
