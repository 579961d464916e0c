import FinanciaApp.Source.RestAPISystem

/-!
# The store of a REST data source

Whatever the interleaving of calls and replies, the store is the list of first
occurrences, by `description`, of all the objects received in order of delivery,
and the deltas reported to the delegate add up to it. The invariant
(`StoreInvariant`) is carried over the events of the run; one successful reply
extends both sides by the same `unseen` part.
-/

set_option autoImplicit false

namespace FinanciaApp.Guarantees

open Library Source Source.ATCGenericRestAPIDataSource ATCGenericBaseModel

universe u v

variable {T : Type u} {Description : Type v} [DecidableEq Description]
  [ATCGenericBaseModel T Description]

/-- The objects of the successful replies of a run, in the order of delivery. -/
def receivedObjects (es : List Event) : List T :=
  es.flatMap fun e => match e with
    | .reply _ response => response.objects
    | _ => []

omit [DecidableEq Description] in
theorem receivedObjects_concat_call (es : List Event) (e : Event)
    (call : ∀ index response, e ≠ .reply index response) :
    receivedObjects (T := T) (es ++ [e]) = receivedObjects es := by
  cases e with
  | reply index response => exact absurd rfl (call index response)
  | _ => simp [receivedObjects]

omit [DecidableEq Description] in
theorem receivedObjects_concat_reply (es : List Event) (index : Nat) (response : Response) :
    receivedObjects (T := T) (es ++ [.reply index response]) =
      receivedObjects es ++ response.objects := by
  simp [receivedObjects]

/-- What ties the data source and its delegate to the events of the past. -/
structure StoreInvariant (past : List Event) (s : System T) : Prop where
  store : s.source.store = keepFirst description (receivedObjects past)
  reported : s.delegate.notifications.flatMap Notification.objects = s.source.store

/-- The store after a reply, failed or not: it grows by what it had not seen. -/
theorem afterReply_store (s : System T) (sent : Sent) (rest : List Sent) (response : Response) :
    (s.afterReply sent rest response).source.store =
      s.source.store ++ unseen description s.source.store response.objects := by
  cases hstatus : response.status with
  | success => rw [afterReply_source_success s sent rest response hstatus]
  | error message =>
    rw [afterReply_source_error s sent rest response hstatus]
    simp [Response.objects, hstatus]

/-- The delegate hears of every success exactly what the store gained. -/
theorem afterReply_reported (s : System T) (sent : Sent) (rest : List Sent)
    (response : Response) :
    (s.afterReply sent rest response).delegate.notifications.flatMap Notification.objects =
      s.delegate.notifications.flatMap Notification.objects ++
        unseen description s.source.store response.objects := by
  cases hstatus : response.status with
  | success =>
    rw [afterReply_delegate_success s sent rest response hstatus]
    simp
  | error message =>
    rw [afterReply_delegate_error s sent rest response hstatus]
    simp [Response.objects, hstatus]

theorem storeInvariant_initial (configuration : ATCGenericRestAPIDataSourceConfiguration) :
    StoreInvariant [] (System.initial configuration : System T) := ⟨rfl, rfl⟩

theorem storeInvariant_step (past : List Event) (s : System T) (e : Event) (t : System T)
    (inv : StoreInvariant past s) (taken : step s e = some t) :
    StoreInvariant (past ++ [e]) t := by
  rcases step_call_or_reply taken with ⟨call, same, delegate⟩ |
    ⟨index, response, sent, rest, rfl, -, rfl⟩
  · exact ⟨by rw [receivedObjects_concat_call past e call, same.store, inv.store],
      by rw [delegate, same.store, inv.reported]⟩
  · constructor
    · rw [receivedObjects_concat_reply, keepFirst_append, afterReply_store, ← inv.store]
    · rw [afterReply_reported, afterReply_store, inv.reported]

theorem run_storeInvariant (configuration : ATCGenericRestAPIDataSourceConfiguration)
    (es : List Event) (s : System T) (h : run step (System.initial configuration) es = some s) :
    StoreInvariant es s :=
  run_history StoreInvariant storeInvariant_step (storeInvariant_initial configuration) h

/-- Rows that are stored stay where they are, whatever happens next. -/
theorem store_prefix_step (s : System T) (e : Event) (t : System T)
    (taken : step s e = some t) : s.source.store <+: t.source.store := by
  rcases step_call_or_reply taken with ⟨-, same, -⟩ | ⟨index, response, sent, rest, rfl, -, rfl⟩
  · exact same.store ▸ List.prefix_rfl
  · rw [afterReply_store]
    exact List.prefix_append _ _

theorem store_failed_reply (s t : System T) (index : Nat) (response : Response)
    (message : Option String) (failed : response.status = .error message)
    (taken : step s (.reply index response) = some t) : t.source.store = s.source.store := by
  rcases step_call_or_reply taken with ⟨call, -, -⟩ | ⟨_, _, sent, rest, h, -, rfl⟩
  · exact absurd rfl (call index response)
  · cases h
    rw [afterReply_source_error s sent rest response failed]

/-- In every run from an empty data source the store is the concatenation of the
received lists with only the first object of each `description` kept. So
descriptions are distinct, every received object is represented, rows never move,
failed replies change nothing and the reported deltas concatenate to the store. -/
theorem store_is_first_occurrences (configuration : ATCGenericRestAPIDataSourceConfiguration)
    (es : List Event) (s : System T) (h : run step (System.initial configuration) es = some s) :
    s.source.store = keepFirst description (receivedObjects es) ∧
    (s.source.store.map description).Nodup ∧
    (∀ object ∈ (receivedObjects es : List T),
      ∃ row ∈ s.source.store, description row = description object) ∧
    s.delegate.notifications.flatMap Notification.objects = s.source.store ∧
    (∀ e t, step s e = some t → s.source.store <+: t.source.store) ∧
    (∀ index response message t, response.status = .error message →
      step s (.reply index response) = some t → t.source.store = s.source.store) := by
  have inv := run_storeInvariant configuration es s h
  refine ⟨inv.store, ?_, ?_, inv.reported, store_prefix_step s, ?_⟩
  · rw [inv.store]
    exact keepFirst_keys_nodup description _
  · intro object received
    have found := find?_keepFirst description (receivedObjects es : List T) (description object)
    cases hfirst : (receivedObjects es : List T).find?
        (fun x => description x = description object) with
    | none => simpa using List.find?_eq_none.mp hfirst object received
    | some row =>
      rw [hfirst] at found
      refine ⟨row, ?_, by simpa using List.find?_some hfirst⟩
      rw [inv.store]
      exact List.mem_of_find?_eq_some found
  · intro index response message t failed taken
    exact store_failed_reply s t index response message failed taken

/-- Two overlapping first pages, delivered in the other order, and a failed refresh. -/
def overlappingFirstPages : List Event :=
  [.loadFirst, .loadFirst, .loadTop,
    .reply 1 ⟨some (titledPage ["AAPL", "TSLA", "AAPL"]), .success⟩,
    .reply 1 ⟨none, .error none⟩,
    .reply 0 ⟨some (titledPage ["MSFT", "TSLA"]), .success⟩]

theorem store_is_first_occurrences_overlapping :
    ∃ s : System TitledRow,
      run step (System.initial sampleConfiguration) overlappingFirstPages = some s ∧
      s.source.store = [⟨"AAPL"⟩, ⟨"TSLA"⟩, ⟨"MSFT"⟩] :=
  ⟨_, rfl,
    (store_is_first_occurrences sampleConfiguration overlappingFirstPages _ rfl).1.trans
      (by decide)⟩

end FinanciaApp.Guarantees
