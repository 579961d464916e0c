import FinanciaApp.Library.InFlight
import FinanciaApp.Library.Runs
import FinanciaApp.Source.ATCUserDocument
import Mathlib.Data.Finset.Basic
import Mathlib.Data.Finset.Dedup

/-!
# Reported and blocked users

`Core/UserReporting/Firebase/ATCFirebaseUserReporter.swift` and the reasons of
`ATCUserReportingProtocol.swift`, with the two collections that it writes and reads. A request
is sent, served by the database and then answered, each in any order; other clients add
documents at any time. `getDocuments` is taken to answer with documents that the database has:
that Firestore also shows a client its own writes before they are served is not modelled. Of a
user only the `uid` is read, and calls are numbered in their order.

`calls` is not data of the source, nor is `call` in a row: they record the calls so far and the
call that added a document. `Effect` says once what a step can do.
-/

set_option autoImplicit false

namespace FinanciaApp.Source

open Library

inductive ATCReportingReason where
  | sensitiveImages
  | spam
  | abusive
  | harmful
deriving DecidableEq, Repr

def ATCReportingReason.rawValue : ATCReportingReason → String
  | .sensitiveImages => "sensitiveImages"
  | .spam => "spam"
  | .abusive => "abusive"
  | .harmful => "harmful"

namespace ATCFirebaseUserReporter

inductive Collection where
  | reports
  | blocks
deriving DecidableEq, Repr

inductive Call where
  | report (sourceUID destUID : Option String) (reason : ATCReportingReason) (createdAt : Rat)
  | block (sourceUID destUID : Option String) (createdAt : Rat)
  | userIDsBlockedOrReported (uid : Option String)

/-- What is sent to the database; the last one with what its closure captures. -/
inductive Request where
  | addDocument (collection : Collection) (data : DocumentData)
  | getBlocks (id : String)
  | getReports (id : String) (blockedIDs : List String)

/-- What the closure of a request is called with. -/
inductive Answer where
  | added (error : Option String)
  | blocks (id : String) (reply : DocumentsReply)
  | reports (blockedIDs : List String) (reply : DocumentsReply)

inductive Completion where
  | success (success : Bool)
  | users (users : Finset String)
deriving DecidableEq

def reportData (sourceID destID : String) (reason : ATCReportingReason) (createdAt : Rat) :
    DocumentData :=
  .created [("source", .string sourceID), ("dest", .string destID),
    ("reason", .string reason.rawValue), ("createdAt", .timestamp createdAt)]

def blockData (sourceID destID : String) (createdAt : Rat) : DocumentData :=
  .created [("source", .string sourceID), ("dest", .string destID),
    ("createdAt", .timestamp createdAt)]

/-- The first request of a call. Without an `uid` the call returns at once. -/
def Call.request : Call → Option Request
  | .report (some sourceID) (some destID) reason createdAt =>
    some (.addDocument .reports (reportData sourceID destID reason createdAt))
  | .report _ _ _ _ => none
  | .block (some sourceID) (some destID) createdAt =>
    some (.addDocument .blocks (blockData sourceID destID createdAt))
  | .block _ _ _ => none
  | .userIDsBlockedOrReported (some id) => some (.getBlocks id)
  | .userIDsBlockedOrReported none => none

structure Row where
  call : Option Nat
  data : DocumentData

/-- `whereField("source", isEqualTo: id)`. -/
def hasSource (id : String) (data : DocumentData) : Bool :=
  (data "source").bind FirestoreValue.asString = some id

def whereSource (id : String) (rows : List Row) : List DocumentData :=
  (rows.map Row.data).filter (hasSource id)

/-- The loop over the documents: those whose `dest` is a string. -/
def destIDs (documents : List DocumentData) : List String :=
  documents.filterMap fun data => (data "dest").bind FirestoreValue.asString

structure System where
  blocks : List Row
  reports : List Row
  calls : List Call
  sent : List (Nat × Request)
  served : List (Nat × Answer)
  completions : List (Nat × Completion)
  notifications : Nat

namespace System

def initial (blocks reports : List DocumentData) : System where
  blocks := blocks.map (Row.mk none)
  reports := reports.map (Row.mk none)
  calls := []
  sent := []
  served := []
  completions := []
  notifications := 0

variable (s : System)

def rows (collection : Collection) : List Row :=
  match collection with
  | .reports => s.reports
  | .blocks => s.blocks

def add (collection : Collection) (row : Row) : System :=
  match collection with
  | .reports => { s with reports := s.reports ++ [row] }
  | .blocks => { s with blocks := s.blocks ++ [row] }

section Add

variable (collection : Collection) (row : Row)

@[simp] theorem add_calls : (s.add collection row).calls = s.calls := by
  cases collection <;> rfl

@[simp] theorem add_sent : (s.add collection row).sent = s.sent := by
  cases collection <;> rfl

@[simp] theorem add_served : (s.add collection row).served = s.served := by
  cases collection <;> rfl

@[simp] theorem add_completions : (s.add collection row).completions = s.completions := by
  cases collection <;> rfl

@[simp] theorem add_notifications : (s.add collection row).notifications = s.notifications := by
  cases collection <;> rfl

theorem mem_rows_add (other : Collection) (r : Row) :
    r ∈ (s.add collection row).rows other ↔ r ∈ s.rows other ∨ other = collection ∧ r = row := by
  cases collection <;> cases other <;> simp [add, rows]

end Add

def call (c : Call) : System :=
  { s with
    calls := s.calls ++ [c]
    sent := s.sent ++ c.request.toList.map fun request => (s.calls.length, request) }

/-- What the database answers to a query. -/
def documents (collection : Collection) (id : String) (error : Option String) :
    DocumentsReply :=
  match error with
  | some error => .error error
  | none => .ok (whereSource id (s.rows collection))

/-- The database serves a request, or refuses it with an error. -/
def serve (number : Nat) (request : Request) (error : Option String) : System :=
  match request with
  | .addDocument collection data =>
    match error with
    | some error => { s with served := s.served ++ [(number, .added (some error))] }
    | none =>
      { s.add collection ⟨some number, data⟩ with
        served := s.served ++ [(number, .added none)] }
  | .getBlocks id =>
    { s with served := s.served ++ [(number, .blocks id (s.documents .blocks id error))] }
  | .getReports id blockedIDs =>
    { s with
      served := s.served ++ [(number, .reports blockedIDs (s.documents .reports id error))] }

def complete (number : Nat) (completion : Completion) : System :=
  { s with completions := s.completions ++ [(number, completion)] }

/-- The closures of the requests. -/
def answer (number : Nat) (answer : Answer) : System :=
  match answer with
  | .added error =>
    { s.complete number (.success error.isNone) with
      notifications := if error = none then s.notifications + 1 else s.notifications }
  | .blocks _ (.error _) => s.complete number (.users ∅)
  | .blocks id (.ok documents) =>
    { s with sent := s.sent ++ [(number, .getReports id (destIDs documents))] }
  | .reports blockedIDs (.error _) => s.complete number (.users blockedIDs.toFinset)
  | .reports blockedIDs (.ok documents) =>
    s.complete number (.users (blockedIDs ++ destIDs documents).toFinset)

end System

inductive Event where
  | call (c : Call)
  | otherClientAdds (collection : Collection) (data : DocumentData)
  | serve (index : Nat) (error : Option String)
  | answer (index : Nat)

def step (s : System) (e : Event) : Option System :=
  match e with
  | .call c => some (s.call c)
  | .otherClientAdds collection data => some (s.add collection ⟨none, data⟩)
  | .serve index error =>
    (deliver s.sent index).map fun (request, rest) =>
      ({ s with sent := rest } : System).serve request.1 request.2 error
  | .answer index =>
    (deliver s.served index).map fun (answer, rest) =>
      ({ s with served := rest } : System).answer answer.1 answer.2

/-- Everything a step can do. -/
inductive Effect (s : System) : Event → System → Prop where
  | call (c : Call) : Effect s (.call c) (s.call c)
  | otherClientAdds (collection : Collection) (data : DocumentData) :
      Effect s (.otherClientAdds collection data) (s.add collection ⟨none, data⟩)
  | refused (index number : Nat) (collection : Collection) (data : DocumentData)
      (rest : List (Nat × Request)) (error : String)
      (served : deliver s.sent index = some ((number, .addDocument collection data), rest)) :
      Effect s (.serve index (some error))
        { s with sent := rest, served := s.served ++ [(number, .added (some error))] }
  | added (index number : Nat) (collection : Collection) (data : DocumentData)
      (rest : List (Nat × Request))
      (served : deliver s.sent index = some ((number, .addDocument collection data), rest)) :
      Effect s (.serve index none)
        { s.add collection ⟨some number, data⟩ with
          sent := rest, served := s.served ++ [(number, .added none)] }
  | readBlocks (index number : Nat) (id : String) (rest : List (Nat × Request))
      (error : Option String)
      (served : deliver s.sent index = some ((number, .getBlocks id), rest)) :
      Effect s (.serve index error)
        { s with
          sent := rest
          served := s.served ++ [(number, .blocks id (s.documents .blocks id error))] }
  | readReports (index number : Nat) (id : String) (blockedIDs : List String)
      (rest : List (Nat × Request)) (error : Option String)
      (served : deliver s.sent index = some ((number, .getReports id blockedIDs), rest)) :
      Effect s (.serve index error)
        { s with
          sent := rest
          served := s.served ++ [(number, .reports blockedIDs (s.documents .reports id error))] }
  | acknowledged (index number : Nat) (error : Option String) (rest : List (Nat × Answer))
      (answered : deliver s.served index = some ((number, .added error), rest)) :
      Effect s (.answer index)
        { s with
          served := rest
          completions := s.completions ++ [(number, .success error.isNone)]
          notifications := if error = none then s.notifications + 1 else s.notifications }
  | gotBlocks (index number : Nat) (id : String) (documents : List DocumentData)
      (rest : List (Nat × Answer))
      (answered : deliver s.served index = some ((number, .blocks id (.ok documents)), rest)) :
      Effect s (.answer index)
        { s with
          served := rest
          sent := s.sent ++ [(number, .getReports id (destIDs documents))] }
  | gotNoBlocks (index number : Nat) (id error : String) (rest : List (Nat × Answer))
      (answered : deliver s.served index = some ((number, .blocks id (.error error)), rest)) :
      Effect s (.answer index)
        { s with served := rest, completions := s.completions ++ [(number, .users ∅)] }
  | gotReports (index number : Nat) (blockedIDs : List String) (documents : List DocumentData)
      (rest : List (Nat × Answer))
      (answered :
        deliver s.served index = some ((number, .reports blockedIDs (.ok documents)), rest)) :
      Effect s (.answer index)
        { s with
          served := rest
          completions := s.completions ++
            [(number, .users (blockedIDs ++ destIDs documents).toFinset)] }
  | gotNoReports (index number : Nat) (blockedIDs : List String) (error : String)
      (rest : List (Nat × Answer))
      (answered :
        deliver s.served index = some ((number, .reports blockedIDs (.error error)), rest)) :
      Effect s (.answer index)
        { s with
          served := rest
          completions := s.completions ++ [(number, .users blockedIDs.toFinset)] }

theorem step_cases {s t : System} {e : Event} (h : step s e = some t) : Effect s e t := by
  cases e with
  | call c =>
    cases h
    exact .call c
  | otherClientAdds collection data =>
    cases h
    exact .otherClientAdds collection data
  | serve index error =>
    simp only [step, Option.map_eq_some_iff] at h
    obtain ⟨⟨⟨number, request⟩, rest⟩, served, rfl⟩ := h
    cases request with
    | addDocument collection data =>
      cases error with
      | none =>
        cases collection with
        | reports => exact .added index number .reports data rest served
        | blocks => exact .added index number .blocks data rest served
      | some error => exact .refused index number collection data rest error served
    | getBlocks id => exact .readBlocks index number id rest error served
    | getReports id blockedIDs => exact .readReports index number id blockedIDs rest error served
  | answer index =>
    simp only [step, Option.map_eq_some_iff] at h
    obtain ⟨⟨⟨number, answer⟩, rest⟩, answered, rfl⟩ := h
    cases answer with
    | added error => exact .acknowledged index number error rest answered
    | blocks id reply =>
      cases reply with
      | error error => exact .gotNoBlocks index number id error rest answered
      | ok documents => exact .gotBlocks index number id documents rest answered
    | reports blockedIDs reply =>
      cases reply with
      | error error => exact .gotNoReports index number blockedIDs error rest answered
      | ok documents => exact .gotReports index number blockedIDs documents rest answered

end ATCFirebaseUserReporter

end FinanciaApp.Source
