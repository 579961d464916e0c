import FinanciaApp.Source.ATCFirebaseUserReporter

/-!
# Reports and blocks reach the database

`ATCFirebaseUserReporter.swift:12-98`. However the requests of several calls interleave, a call
with the uids that it needs has either one request on its way or one completion, and a call
without them has neither: its completion is never called. The documents that the app added are
those of the calls that were told so, and of those that are about to be.
-/

set_option autoImplicit false

namespace FinanciaApp.Guarantees

open Library Source Source.ATCFirebaseUserReporter

/-- The numbers of the calls that send a request. -/
def asked (calls : List Call) : List Nat :=
  (List.range calls.length).filter fun number => (calls[number]?.bind Call.request).isSome

theorem asked_concat (calls : List Call) (c : Call) :
    asked (calls ++ [c]) =
      asked calls ++ c.request.toList.map fun _ => calls.length := by
  unfold asked
  rw [List.length_append, List.length_singleton, List.range_succ, List.filter_append]
  congr 1
  · apply List.filter_congr
    intro number before
    rw [List.getElem?_append_left (List.mem_range.mp before)]
  · cases request : c.request <;> simp [request]

/-- The call of an entry that says that a document was added. -/
def addedCall : Nat × Answer → Option Nat
  | (number, .added none) => some number
  | _ => none

def successCall : Nat × Completion → Option Nat
  | (number, .success true) => some number
  | _ => none

def allRows (s : System) : List Row := s.reports ++ s.blocks

/-- A request, an answer and a completion that a call can have. -/
def Sends (call : Call) : Request → Prop
  | .addDocument collection data => call.request = some (.addDocument collection data)
  | .getBlocks id => call = .userIDsBlockedOrReported (some id)
  | .getReports id _ => call = .userIDsBlockedOrReported (some id)

def Gets (call : Call) : Answer → Prop
  | .added _ => ∃ collection data, call.request = some (.addDocument collection data)
  | .blocks id _ => call = .userIDsBlockedOrReported (some id)
  | .reports _ _ => ∃ id, call = .userIDsBlockedOrReported (some id)

def Completes (call : Call) : Completion → Prop
  | .success _ => ∃ collection data, call.request = some (.addDocument collection data)
  | .users _ => ∃ id, call = .userIDsBlockedOrReported (some id)

/-- Every request, answer and completion is of its call, every call with a request is in one
place, and the documents with a call are those that it was told of or will be. -/
structure Accounted (s : System) : Prop where
  sent : ∀ entry ∈ s.sent, ∃ call, s.calls[entry.1]? = some call ∧ Sends call entry.2
  served : ∀ entry ∈ s.served, ∃ call, s.calls[entry.1]? = some call ∧ Gets call entry.2
  completions : ∀ entry ∈ s.completions,
    ∃ call, s.calls[entry.1]? = some call ∧ Completes call entry.2
  once : (s.completions.map Prod.fst ++ (s.served.map Prod.fst ++ s.sent.map Prod.fst)).Perm
    (asked s.calls)
  rows : ((allRows s).filterMap Row.call).Perm
    (s.completions.filterMap successCall ++ s.served.filterMap addedCall)
  data : ∀ (collection : Collection), ∀ row ∈ s.rows collection, ∀ number,
    row.call = some number → ∃ call, s.calls[number]? = some call ∧
      call.request = some (.addDocument collection row.data)
  notifications : s.notifications = (s.completions.filterMap successCall).length

section Step

variable {s t : System} {e : Event}

theorem getElem?_concat_of_some {α : Type} {xs : List α} {i : Nat} {x : α} (y : α)
    (there : xs[i]? = some x) : (xs ++ [y])[i]? = some x := by
  obtain ⟨bound, -⟩ := List.getElem?_eq_some_iff.mp there
  rw [List.getElem?_append_left bound, there]

theorem sends_request {c : Call} {request : Request} (first : c.request = some request) :
    Sends c request := by
  cases request with
  | addDocument collection data => exact first
  | getBlocks id =>
    cases c with
    | report source dest reason createdAt =>
      cases source <;> cases dest <;> simp [Call.request] at first
    | block source dest createdAt =>
      cases source <;> cases dest <;> simp [Call.request] at first
    | userIDsBlockedOrReported uid =>
      cases uid with
      | none => cases first
      | some own =>
        cases first
        rfl
  | getReports id blockedIDs =>
    cases c with
    | report source dest reason createdAt =>
      cases source <;> cases dest <;> simp [Call.request] at first
    | block source dest createdAt =>
      cases source <;> cases dest <;> simp [Call.request] at first
    | userIDsBlockedOrReported uid => cases uid <;> simp [Call.request] at first

theorem effect_calls (h : Effect s e t) : ∀ (number : Nat) (call : Call),
    s.calls[number]? = some call → t.calls[number]? = some call := by
  intro number call there
  cases h with
  | call c => exact getElem?_concat_of_some c there
  | otherClientAdds collection data => simpa using there
  | added => simpa using there
  | _ => exact there

theorem accounted_sent (kept : Accounted s) (h : Effect s e t) : ∀ entry ∈ t.sent,
    ∃ call, t.calls[entry.1]? = some call ∧ Sends call entry.2 := by
  intro entry there
  have old : entry ∈ s.sent → ∃ call, t.calls[entry.1]? = some call ∧ Sends call entry.2 := by
    intro before
    obtain ⟨call, isCall, sends⟩ := kept.sent entry before
    exact ⟨call, effect_calls h _ _ isCall, sends⟩
  cases h with
  | call c =>
    rcases List.mem_append.mp there with before | new
    · exact old before
    · obtain ⟨request, isRequest, rfl⟩ := List.mem_map.mp new
      exact ⟨c, List.getElem?_concat_length, sends_request (Option.mem_toList.mp isRequest)⟩
  | otherClientAdds collection data => exact old (by simpa using there)
  | refused index number collection data rest error served =>
    exact old (deliver_rest_subset served entry there)
  | added index number collection data rest served =>
    exact old (deliver_rest_subset served entry there)
  | readBlocks index number id rest error served =>
    exact old (deliver_rest_subset served entry there)
  | readReports index number id blockedIDs rest error served =>
    exact old (deliver_rest_subset served entry there)
  | gotBlocks index number id documents rest answered =>
    rcases List.mem_append.mp there with before | new
    · exact old before
    · rw [List.mem_singleton.mp new]
      exact kept.served _ (deliver_mem answered)
  | acknowledged => exact old there
  | gotNoBlocks => exact old there
  | gotReports => exact old there
  | gotNoReports => exact old there

theorem accounted_served (kept : Accounted s) (h : Effect s e t) : ∀ entry ∈ t.served,
    ∃ call, t.calls[entry.1]? = some call ∧ Gets call entry.2 := by
  intro entry there
  have old : entry ∈ s.served → ∃ call, t.calls[entry.1]? = some call ∧ Gets call entry.2 := by
    intro before
    obtain ⟨call, isCall, gets⟩ := kept.served entry before
    exact ⟨call, effect_calls h _ _ isCall, gets⟩
  cases h with
  | call c => exact old there
  | otherClientAdds collection data => exact old (by simpa using there)
  | refused index number collection data rest error served =>
    rcases List.mem_append.mp there with before | new
    · exact old before
    · rw [List.mem_singleton.mp new]
      obtain ⟨call, isCall, sends⟩ := kept.sent _ (deliver_mem served)
      exact ⟨call, isCall, collection, data, sends⟩
  | added index number collection data rest served =>
    rcases List.mem_append.mp there with before | new
    · exact old before
    · rw [List.mem_singleton.mp new]
      obtain ⟨call, isCall, sends⟩ := kept.sent _ (deliver_mem served)
      exact ⟨call, by simpa using isCall, collection, data, sends⟩
  | readBlocks index number id rest error served =>
    rcases List.mem_append.mp there with before | new
    · exact old before
    · rw [List.mem_singleton.mp new]
      exact kept.sent _ (deliver_mem served)
  | readReports index number id blockedIDs rest error served =>
    rcases List.mem_append.mp there with before | new
    · exact old before
    · rw [List.mem_singleton.mp new]
      obtain ⟨call, isCall, sends⟩ := kept.sent _ (deliver_mem served)
      exact ⟨call, isCall, id, sends⟩
  | acknowledged index number error rest answered =>
    exact old (deliver_rest_subset answered entry there)
  | gotBlocks index number id documents rest answered =>
    exact old (deliver_rest_subset answered entry there)
  | gotNoBlocks index number id error rest answered =>
    exact old (deliver_rest_subset answered entry there)
  | gotReports index number blockedIDs documents rest answered =>
    exact old (deliver_rest_subset answered entry there)
  | gotNoReports index number blockedIDs error rest answered =>
    exact old (deliver_rest_subset answered entry there)

theorem accounted_completions (kept : Accounted s) (h : Effect s e t) : ∀ entry ∈ t.completions,
    ∃ call, t.calls[entry.1]? = some call ∧ Completes call entry.2 := by
  intro entry there
  have old : entry ∈ s.completions →
      ∃ call, t.calls[entry.1]? = some call ∧ Completes call entry.2 := by
    intro before
    obtain ⟨call, isCall, completes⟩ := kept.completions entry before
    exact ⟨call, effect_calls h _ _ isCall, completes⟩
  cases h with
  | call c => exact old there
  | otherClientAdds collection data => exact old (by simpa using there)
  | refused => exact old there
  | added => exact old (by simpa using there)
  | readBlocks => exact old there
  | readReports => exact old there
  | gotBlocks => exact old there
  | acknowledged index number error rest answered =>
    rcases List.mem_append.mp there with before | new
    · exact old before
    · rw [List.mem_singleton.mp new]
      exact kept.served _ (deliver_mem answered)
  | gotNoBlocks index number id error rest answered =>
    rcases List.mem_append.mp there with before | new
    · exact old before
    · rw [List.mem_singleton.mp new]
      obtain ⟨call, isCall, gets⟩ := kept.served _ (deliver_mem answered)
      exact ⟨call, isCall, id, gets⟩
  | gotReports index number blockedIDs documents rest answered =>
    rcases List.mem_append.mp there with before | new
    · exact old before
    · rw [List.mem_singleton.mp new]
      exact kept.served _ (deliver_mem answered)
  | gotNoReports index number blockedIDs error rest answered =>
    rcases List.mem_append.mp there with before | new
    · exact old before
    · rw [List.mem_singleton.mp new]
      exact kept.served _ (deliver_mem answered)

/-- A request that is served leaves its number among the served. -/
theorem perm_served {done : List Nat} {sent rest : List (Nat × Request)}
    {served : List (Nat × Answer)} {index number : Nat} {request : Request} (answer : Answer)
    (delivered : deliver sent index = some ((number, request), rest)) :
    (done ++ ((served ++ [(number, answer)]).map Prod.fst ++ rest.map Prod.fst)).Perm
      (done ++ (served.map Prod.fst ++ sent.map Prod.fst)) := by
  apply List.Perm.append_left
  rw [List.map_append, List.append_assoc]
  exact ((deliver_perm delivered).map Prod.fst).append_left _

/-- An answer that calls the completion leaves its number among the completed. -/
theorem perm_completed {completions : List (Nat × Completion)} {sent : List Nat}
    {served rest : List (Nat × Answer)} {index number : Nat} {answer : Answer}
    (completion : Completion)
    (delivered : deliver served index = some ((number, answer), rest)) :
    ((completions ++ [(number, completion)]).map Prod.fst ++
        (rest.map Prod.fst ++ sent)).Perm
      (completions.map Prod.fst ++ (served.map Prod.fst ++ sent)) := by
  rw [List.map_append, List.append_assoc]
  apply List.Perm.append_left
  exact ((deliver_perm delivered).map Prod.fst).append_right sent

theorem accounted_once (kept : Accounted s) (h : Effect s e t) :
    (t.completions.map Prod.fst ++ (t.served.map Prod.fst ++ t.sent.map Prod.fst)).Perm
      (asked t.calls) := by
  have once := kept.once
  cases h with
  | call c =>
    simp only [System.call, asked_concat, List.map_append, List.map_map, Function.comp_def,
      ← List.append_assoc]
    rw [← List.append_assoc] at once
    exact once.append_right _
  | otherClientAdds collection data => simpa using once
  | refused index number collection data rest error served =>
    exact (perm_served (.added (some error)) served).trans once
  | added index number collection data rest served =>
    simp only [System.add_calls, System.add_completions]
    exact (perm_served (.added none) served).trans once
  | readBlocks index number id rest error served =>
    exact (perm_served (.blocks id _) served).trans once
  | readReports index number id blockedIDs rest error served =>
    exact (perm_served (.reports blockedIDs _) served).trans once
  | acknowledged index number error rest answered =>
    exact (perm_completed (.success error.isNone) answered).trans once
  | gotNoBlocks index number id error rest answered =>
    exact (perm_completed (.users ∅) answered).trans once
  | gotReports index number blockedIDs documents rest answered =>
    exact (perm_completed (.users _) answered).trans once
  | gotNoReports index number blockedIDs error rest answered =>
    exact (perm_completed (.users _) answered).trans once
  | gotBlocks index number id documents rest answered =>
    refine List.Perm.trans ?_ once
    apply List.Perm.append_left
    rw [List.map_append, ← List.append_assoc]
    refine (List.perm_append_singleton _ _).trans ?_
    exact ((deliver_perm answered).map Prod.fst).append_right _

theorem allRows_add (collection : Collection) (row : Row) :
    (allRows (s.add collection row)).Perm (row :: allRows s) := by
  cases collection with
  | reports =>
    simp only [allRows, System.add, List.append_assoc]
    exact List.perm_middle
  | blocks =>
    simp only [allRows, System.add, ← List.append_assoc]
    exact List.perm_append_singleton _ _

theorem addedCall_delivered {served rest : List (Nat × Answer)} {index : Nat}
    {entry : Nat × Answer} (delivered : deliver served index = some (entry, rest)) :
    ((addedCall entry).toList ++ rest.filterMap addedCall).Perm (served.filterMap addedCall) := by
  have moved := (deliver_perm delivered).filterMap addedCall
  rw [List.filterMap_cons] at moved
  cases added : addedCall entry with
  | none => simpa only [added, Option.toList_none, List.nil_append] using moved
  | some number => simpa only [added, Option.toList_some, List.singleton_append] using moved

theorem rows_served {added done : List Nat} {served : List (Nat × Answer)}
    {entry : Nat × Answer} (notAdded : addedCall entry = none)
    (rows : added.Perm (done ++ served.filterMap addedCall)) :
    added.Perm (done ++ (served ++ [entry]).filterMap addedCall) := by
  rw [List.filterMap_append, List.filterMap_cons_none notAdded, List.filterMap_nil,
    List.append_nil]
  exact rows

/-- An answer that is about no document, or an error, and a completion that is no success. -/
theorem rows_answered {added : List Nat} {completions : List (Nat × Completion)}
    {served rest : List (Nat × Answer)} {index : Nat} {entry : Nat × Answer}
    {completion : Nat × Completion} (notAdded : addedCall entry = none)
    (noSuccess : successCall completion = none)
    (delivered : deliver served index = some (entry, rest))
    (rows : added.Perm (completions.filterMap successCall ++ served.filterMap addedCall)) :
    added.Perm ((completions ++ [completion]).filterMap successCall ++
      rest.filterMap addedCall) := by
  have same := addedCall_delivered delivered
  rw [notAdded] at same
  rw [List.filterMap_append, List.filterMap_cons_none noSuccess, List.filterMap_nil,
    List.append_nil]
  exact rows.trans (same.symm.append_left _)

theorem accounted_rows (kept : Accounted s) (h : Effect s e t) :
    ((allRows t).filterMap Row.call).Perm
      (t.completions.filterMap successCall ++ t.served.filterMap addedCall) := by
  have rows := kept.rows
  cases h with
  | call c => exact rows
  | otherClientAdds collection data =>
    rw [System.add_completions, System.add_served]
    exact ((allRows_add collection ⟨none, data⟩).filterMap Row.call).trans rows
  | refused => exact rows_served rfl rows
  | readBlocks => exact rows_served rfl rows
  | readReports => exact rows_served rfl rows
  | added index number collection data rest served =>
    rw [System.add_completions, List.filterMap_append, ← List.append_assoc]
    refine ((allRows_add collection ⟨some number, data⟩).filterMap Row.call).trans ?_
    exact (rows.cons number).trans (List.perm_append_singleton _ _).symm
  | acknowledged index number error rest answered =>
    cases error with
    | some error => exact rows_answered rfl rfl answered rows
    | none =>
      have moved := addedCall_delivered answered
      rw [List.filterMap_append, List.append_assoc]
      exact rows.trans (moved.symm.append_left _)
  | gotNoBlocks index number id error rest answered => exact rows_answered rfl rfl answered rows
  | gotReports index number blockedIDs documents rest answered =>
    exact rows_answered rfl rfl answered rows
  | gotNoReports index number blockedIDs error rest answered =>
    exact rows_answered rfl rfl answered rows
  | gotBlocks index number id documents rest answered =>
    exact rows.trans ((addedCall_delivered answered).symm.append_left _)

theorem accounted_data (kept : Accounted s) (h : Effect s e t) :
    ∀ (collection : Collection), ∀ row ∈ t.rows collection, ∀ number, row.call = some number →
      ∃ call, t.calls[number]? = some call ∧
        call.request = some (.addDocument collection row.data) := by
  intro collection row there number isCall
  have old : row ∈ s.rows collection → ∃ call, t.calls[number]? = some call ∧
      call.request = some (.addDocument collection row.data) := by
    intro before
    obtain ⟨call, called, request⟩ := kept.data collection row before number isCall
    exact ⟨call, effect_calls h _ _ called, request⟩
  have sameRows : t.rows collection = s.rows collection → ∃ call, t.calls[number]? = some call ∧
      call.request = some (.addDocument collection row.data) := fun same => old (same ▸ there)
  cases h with
  | call => exact sameRows (by cases collection <;> rfl)
  | otherClientAdds other data =>
    rcases (s.mem_rows_add other ⟨none, data⟩ collection row).mp there with before | ⟨-, rfl⟩
    · exact old before
    · cases isCall
  | added index added other data rest served =>
    have inRows : row ∈ (s.add other ⟨some added, data⟩).rows collection := by
      cases collection <;> exact there
    rcases (s.mem_rows_add other _ collection row).mp inRows with before | ⟨rfl, rfl⟩
    · exact old before
    · cases isCall
      obtain ⟨call, called, sends⟩ := kept.sent _ (deliver_mem served)
      exact ⟨call, by simpa using called, sends⟩
  | refused => exact sameRows (by cases collection <;> rfl)
  | readBlocks => exact sameRows (by cases collection <;> rfl)
  | readReports => exact sameRows (by cases collection <;> rfl)
  | acknowledged => exact sameRows (by cases collection <;> rfl)
  | gotBlocks => exact sameRows (by cases collection <;> rfl)
  | gotNoBlocks => exact sameRows (by cases collection <;> rfl)
  | gotReports => exact sameRows (by cases collection <;> rfl)
  | gotNoReports => exact sameRows (by cases collection <;> rfl)

theorem accounted_notifications (kept : Accounted s) (h : Effect s e t) :
    t.notifications = (t.completions.filterMap successCall).length := by
  have notifications := kept.notifications
  cases h with
  | call => exact notifications
  | otherClientAdds => simpa using notifications
  | refused => exact notifications
  | added => simpa using notifications
  | readBlocks => exact notifications
  | readReports => exact notifications
  | gotBlocks => exact notifications
  | acknowledged index number error rest answered =>
    cases error <;> simp [List.filterMap_append, successCall, notifications]
  | gotNoBlocks => simp [List.filterMap_append, successCall, notifications]
  | gotReports => simp [List.filterMap_append, successCall, notifications]
  | gotNoReports => simp [List.filterMap_append, successCall, notifications]

theorem accounted_step (kept : Accounted s) (h : step s e = some t) : Accounted t where
  sent := accounted_sent kept (step_cases h)
  served := accounted_served kept (step_cases h)
  completions := accounted_completions kept (step_cases h)
  once := accounted_once kept (step_cases h)
  rows := accounted_rows kept (step_cases h)
  data := accounted_data kept (step_cases h)
  notifications := accounted_notifications kept (step_cases h)

end Step

theorem accounted_initial (blocks reports : List DocumentData) :
    Accounted (.initial blocks reports) := by
  have noCall (documents : List DocumentData) :
      (documents.map (Row.mk none)).filterMap Row.call = [] := by
    rw [List.filterMap_map]
    exact List.filterMap_eq_nil_iff.mpr fun _ _ => rfl
  constructor
  · exact fun entry there => absurd there List.not_mem_nil
  · exact fun entry there => absurd there List.not_mem_nil
  · exact fun entry there => absurd there List.not_mem_nil
  · exact List.Perm.refl _
  · simp [allRows, System.initial, List.filterMap_append, noCall]
  · intro collection row there number isCall
    have noCalls : row.call = none := by
      cases collection with
      | reports =>
        obtain ⟨document, -, rfl⟩ := List.mem_map.mp there
        rfl
      | blocks =>
        obtain ⟨document, -, rfl⟩ := List.mem_map.mp there
        rfl
    rw [noCalls] at isCall
    cases isCall
  · rfl

theorem accounted_run {blocks reports : List DocumentData} {es : List Event} {s : System}
    (h : run step (.initial blocks reports) es = some s) : Accounted s :=
  run_invariant Accounted (fun _ _ _ kept h' => accounted_step kept h')
    (accounted_initial blocks reports) h

/-- The calls among the events. -/
def callsOf (es : List Event) : List Call :=
  es.filterMap fun e =>
    match e with
    | .call c => some c
    | _ => none

theorem effect_callsOf {s t : System} {e : Event} (h : Effect s e t) :
    t.calls = s.calls ++ callsOf [e] := by
  cases h <;> simp [callsOf, System.call]

theorem calls_run {blocks reports : List DocumentData} {es : List Event} {s : System}
    (h : run step (.initial blocks reports) es = some s) : s.calls = callsOf es := by
  refine run_history (fun past s => s.calls = callsOf past) ?_ rfl h
  intro past s e t calls h'
  rw [effect_callsOf (step_cases h'), calls, callsOf, callsOf, callsOf, List.filterMap_append]

/-- Whatever the order of calls, of requests served or refused and of answers: every call with
the uids that it needs has one request or answer on its way or one completion, of its kind, and
no other call has any; the documents that the app added are, each once and as the call says,
those of the calls completed with success and those whose success is on its way; and each
success was announced once. -/
theorem calls_accounted (blocks reports : List DocumentData) (es : List Event) (s : System)
    (h : run step (.initial blocks reports) es = some s) :
    (s.completions.map Prod.fst ++ (s.served.map Prod.fst ++ s.sent.map Prod.fst)).Perm
      (asked (callsOf es)) ∧
    (∀ entry ∈ s.completions,
      ∃ call, (callsOf es)[entry.1]? = some call ∧ Completes call entry.2) ∧
    ((allRows s).filterMap Row.call).Perm
      (s.completions.filterMap successCall ++ s.served.filterMap addedCall) ∧
    (∀ (collection : Collection), ∀ row ∈ s.rows collection, ∀ number,
      row.call = some number → ∃ call, (callsOf es)[number]? = some call ∧
        call.request = some (.addDocument collection row.data)) ∧
    s.notifications = (s.completions.filterMap successCall).length := by
  have kept := accounted_run h
  rw [← calls_run h]
  exact ⟨kept.once, kept.completions, kept.rows, kept.data, kept.notifications⟩

/-- A block and a lookup that are served in the other order, and a report without a uid. -/
def blockWhileLooking : List Event :=
  [.call (.block (some "ana") (some "bob") 0), .call (.userIDsBlockedOrReported (some "ana")),
    .call (.report (some "ana") none .spam 0), .serve 1 none, .serve 0 none, .answer 0, .answer 0]

theorem calls_accounted_block : ∃ s, run step (.initial [] []) blockWhileLooking = some s ∧
    s.completions = [(0, .success true)] ∧
    (s.completions.map Prod.fst ++ (s.served.map Prod.fst ++ s.sent.map Prod.fst)).Perm
      [0, 1] :=
  ⟨_, rfl, rfl, (calls_accounted [] [] blockWhileLooking _ rfl).1⟩

end FinanciaApp.Guarantees
