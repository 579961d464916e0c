import FinanciaApp.Library.Runs
import FinanciaApp.Library.InFlight
import FinanciaApp.Source.ATCGenericRestAPIDataSource

/-!
# Runs of a REST data source

One `ATCGenericRestAPIDataSource`, its requests in flight and the controller that
is its delegate. An event is a call of one of the three entry points or the reply
to a request in flight, picked by position, so replies arrive in any order and
carry any status and any decoded JSON value or none. `delivered` records the
replies in the order of delivery, each with its request and with the number of
replies that had been delivered when that request was sent.

`step_cases` says once what a step can do, `completion_success` and
`completion_error` what a closure does to the data source.
-/

set_option autoImplicit false

namespace FinanciaApp.Source

open Library

universe u v

namespace ATCGenericRestAPIDataSource

/-- A request in flight; `sentAfter` counts the replies delivered before it was sent. -/
structure Sent where
  request : Request
  sentAfter : Nat
  deriving DecidableEq, Repr

structure Delivery where
  sent : Sent
  response : Response

structure System (T : Type u) where
  source : ATCGenericRestAPIDataSource T
  delegate : ATCGenericCollectionViewController T
  inFlight : List Sent
  delivered : List Delivery

inductive Event where
  | loadFirst
  | loadBottom
  | loadTop
  | reply (index : Nat) (response : Response)

variable {T : Type u}

def System.initial (configuration : ATCGenericRestAPIDataSourceConfiguration) : System T where
  source := new configuration
  delegate := .empty
  inFlight := []
  delivered := []

/-- Equal up to the two loading flags. -/
structure SameData (before after : ATCGenericRestAPIDataSource T) : Prop where
  store : after.store = before.store
  currentPage : after.currentPage = before.currentPage
  configuration : after.configuration = before.configuration
  ended : after.bottomStreamLoadingEnded = before.bottomStreamLoadingEnded

theorem sameData_loadFirst (self : ATCGenericRestAPIDataSource T) :
    SameData self self.loadFirst.1 := ⟨rfl, rfl, rfl, rfl⟩

theorem sameData_loadBottom (self : ATCGenericRestAPIDataSource T) :
    SameData self self.loadBottom.1 := by
  unfold loadBottom
  split <;> exact ⟨rfl, rfl, rfl, rfl⟩

theorem sameData_loadTop (self : ATCGenericRestAPIDataSource T) :
    SameData self self.loadTop.1 := by
  unfold loadTop
  split <;> exact ⟨rfl, rfl, rfl, rfl⟩

/-- The state after a call that returned the data source and the request it sent. -/
def System.afterCall (s : System T)
    (call : ATCGenericRestAPIDataSource T × Option Request) : System T :=
  { s with
    source := call.1
    inFlight := s.inFlight ++ (call.2.map fun request => ⟨request, s.delivered.length⟩).toList }

section

variable {Description : Type v} [DecidableEq Description] [ATCGenericBaseModel T Description]

/-- The state after the reply to `sent`; `rest` are the requests that stay in flight. -/
def System.afterReply (s : System T) (sent : Sent) (rest : List Sent) (response : Response) :
    System T :=
  let parsed := retrieveListFromJSON (T := T) response
  let completed := completion sent.request.operation s.source parsed.1 parsed.2
  { source := completed.1
    delegate := match completed.2 with
      | some notification => s.delegate.handle completed.1 notification
      | none => s.delegate
    inFlight := rest
    delivered := s.delivered ++ [⟨sent, response⟩] }

def step (s : System T) : Event → Option (System T)
  | .loadFirst => some (s.afterCall s.source.loadFirst)
  | .loadBottom => some (s.afterCall s.source.loadBottom)
  | .loadTop => some (s.afterCall s.source.loadTop)
  | .reply index response =>
    match deliver s.inFlight index with
    | some (sent, rest) => some (s.afterReply sent rest response)
    | none => none

/-- Everything a step can do. -/
theorem step_cases {s t : System T} {e : Event} (h : step s e = some t) :
    (e = .loadFirst ∧ t = s.afterCall s.source.loadFirst) ∨
    (e = .loadBottom ∧ t = s.afterCall s.source.loadBottom) ∨
    (e = .loadTop ∧ t = s.afterCall s.source.loadTop) ∨
    ∃ index response sent rest, e = .reply index response ∧
      deliver s.inFlight index = some (sent, rest) ∧ t = s.afterReply sent rest response := by
  cases e with
  | loadFirst =>
    cases h
    exact .inl ⟨rfl, rfl⟩
  | loadBottom =>
    cases h
    exact .inr (.inl ⟨rfl, rfl⟩)
  | loadTop =>
    cases h
    exact .inr (.inr (.inl ⟨rfl, rfl⟩))
  | reply index response =>
    simp only [step] at h
    split at h
    · rename_i sent rest found
      cases h
      exact .inr (.inr (.inr ⟨index, response, sent, rest, rfl, found, rfl⟩))
    · cases h

/-- A step is a call, which touches no data and notifies nobody, or a reply. -/
theorem step_call_or_reply {s t : System T} {e : Event} (h : step s e = some t) :
    ((∀ index response, e ≠ .reply index response) ∧ SameData s.source t.source ∧
      t.delegate = s.delegate) ∨
    ∃ index response sent rest, e = .reply index response ∧
      deliver s.inFlight index = some (sent, rest) ∧ t = s.afterReply sent rest response := by
  rcases step_cases h with ⟨rfl, rfl⟩ | ⟨rfl, rfl⟩ | ⟨rfl, rfl⟩ | replied
  · exact .inl ⟨by simp, sameData_loadFirst _, rfl⟩
  · exact .inl ⟨by simp, sameData_loadBottom _, rfl⟩
  · exact .inl ⟨by simp, sameData_loadTop _, rfl⟩
  · exact .inr replied

end

section Calls

variable (s : System T)

theorem afterCall_loadFirst :
    s.afterCall s.source.loadFirst =
      { s with inFlight := s.inFlight ++ [⟨⟨.loadFirst, s.source.configuration.loadFirstURLString,
          s.source.requestParameters⟩, s.delivered.length⟩] } := rfl

/-- A `loadBottom` call that passes its guard raises the flag and sends the page
the cursor is on. -/
theorem afterCall_loadBottom_sends (idle : s.source.isLoadingBottom = false)
    (more : s.source.bottomStreamLoadingEnded = false) :
    s.afterCall s.source.loadBottom =
      { s with
        source := { s.source with isLoadingBottom := true }
        inFlight := s.inFlight ++ [⟨⟨.loadBottom s.source.currentPage,
          s.source.configuration.computeLoadBottomURLString s.source.currentPage,
          s.source.requestParameters⟩, s.delivered.length⟩] } := by
  simp [System.afterCall, loadBottom, idle, more]

theorem afterCall_loadBottom_skips
    (guarded : (s.source.isLoadingBottom || s.source.bottomStreamLoadingEnded) = true) :
    s.afterCall s.source.loadBottom = s := by
  simp [System.afterCall, loadBottom, guarded]

theorem afterCall_loadTop_sends (idle : s.source.isLoadingTop = false) :
    s.afterCall s.source.loadTop =
      { s with
        source := { s.source with isLoadingTop := true }
        inFlight := s.inFlight ++ [⟨⟨.loadTop, s.source.configuration.loadTopURLString,
          s.source.requestParameters⟩, s.delivered.length⟩] } := by
  simp [System.afterCall, loadTop, idle]

theorem afterCall_loadTop_skips (guarded : s.source.isLoadingTop = true) :
    s.afterCall s.source.loadTop = s := by
  simp [System.afterCall, loadTop, guarded]

end Calls

section Closures

variable {Description : Type v} [DecidableEq Description] [ATCGenericBaseModel T Description]

open ATCGenericBaseModel

/-- What the cursor becomes when a reply to `operation` succeeds. -/
def nextPage : Operation → Nat → Nat
  | .loadFirst, _ => 1
  | .loadBottom _, page => page + 1
  | .loadTop, page => page

def notificationOf : Operation → List T → Notification T
  | .loadFirst, results => .didLoadFirst results
  | .loadBottom _, results => .didLoadBottom results
  | .loadTop, results => .didLoadTop results

@[simp] theorem notificationOf_objects (operation : Operation) (results : List T) :
    (notificationOf operation results).objects = results := by
  cases operation <;> rfl

/-- A successful reply, for all three operations at once. -/
theorem completion_success (operation : Operation) (self : ATCGenericRestAPIDataSource T)
    (objects : Option (List T)) :
    completion operation self objects .success =
      ({ store := self.store ++ unseen description self.store (objects.getD [])
         currentPage := nextPage operation self.currentPage
         configuration := self.configuration
         bottomStreamLoadingEnded :=
           self.bottomStreamLoadingEnded || (!operation.isLoadTop && countsZero objects)
         isLoadingBottom := self.isLoadingBottom && !operation.isLoadBottom
         isLoadingTop := self.isLoadingTop && !operation.isLoadTop },
        some (notificationOf operation (unseen description self.store (objects.getD [])))) := by
  cases operation with
  | loadFirst =>
    simp only [completion, loadFirstCompletion, forEachObject_eq]
    cases countsZero objects <;>
      simp [nextPage, notificationOf, Operation.isLoadTop, Operation.isLoadBottom]
  | loadBottom page =>
    simp only [completion, loadBottomCompletion, forEachObject_eq]
    cases countsZero objects <;>
      simp [nextPage, notificationOf, Operation.isLoadTop, Operation.isLoadBottom]
  | loadTop =>
    simp [completion, loadTopCompletion, forEachObject_eq, nextPage, notificationOf,
      Operation.isLoadTop, Operation.isLoadBottom]

/-- A failed reply leaves the data source as it is and notifies nobody. -/
theorem completion_error (operation : Operation) (self : ATCGenericRestAPIDataSource T)
    (objects : Option (List T)) (message : Option String) :
    completion operation self objects (.error message) = (self, none) := by
  cases operation <;> rfl

variable (s : System T) (sent : Sent) (rest : List Sent) (response : Response)

@[simp] theorem afterReply_delivered :
    (s.afterReply sent rest response).delivered = s.delivered ++ [⟨sent, response⟩] := rfl

theorem afterReply_source_success (ok : response.status = .success) :
    (s.afterReply sent rest response).source =
      { store := s.source.store ++ unseen description s.source.store response.objects
        currentPage := nextPage sent.request.operation s.source.currentPage
        configuration := s.source.configuration
        bottomStreamLoadingEnded := s.source.bottomStreamLoadingEnded ||
          (!sent.request.operation.isLoadTop &&
            countsZero (retrieveListFromJSON (T := T) response).1)
        isLoadingBottom := s.source.isLoadingBottom && !sent.request.operation.isLoadBottom
        isLoadingTop := s.source.isLoadingTop && !sent.request.operation.isLoadTop } := by
  simp [System.afterReply, ok, completion_success, Response.objects]

theorem afterReply_delegate_success (ok : response.status = .success) :
    (s.afterReply sent rest response).delegate =
      s.delegate.handle (s.afterReply sent rest response).source
        (notificationOf sent.request.operation
          (unseen description s.source.store response.objects)) := by
  simp [System.afterReply, ok, completion_success, Response.objects]

theorem afterReply_source_error {message : Option String}
    (failed : response.status = .error message) :
    (s.afterReply sent rest response).source = s.source := by
  simp [System.afterReply, failed, completion_error]

theorem afterReply_delegate_error {message : Option String}
    (failed : response.status = .error message) :
    (s.afterReply sent rest response).delegate = s.delegate := by
  simp [System.afterReply, failed, completion_error]

end Closures

/-- The configuration that witnesses and counterexamples run with. -/
def sampleConfiguration : ATCGenericRestAPIDataSourceConfiguration where
  loadFirstURLString := "/rows"
  loadTopURLString := "/rows/top"
  consumerKey := none
  consumerSecret := none
  computeLoadBottomURLString := fun _ => "/rows/page"

end ATCGenericRestAPIDataSource

end FinanciaApp.Source
