import FinanciaApp.Guarantees.ArchivedUser
import FinanciaApp.Library.Composition
import FinanciaApp.Source.HostSystem

/-!
# Where the users of the host come from

`ATCHostViewController.swift` and what it calls. The host makes user objects of three kinds:
the one it finds persisted, those that a completed login delivers and those that a resync
fetches. Whatever it persists later is one of these; a location write changes the location only.
So a property of user IDs that the first one and every delivered one have is never lost
(`vouched_step`).
-/

set_option autoImplicit false

namespace FinanciaApp.Guarantees

open Library Source Source.ATCHostViewController ATCPersistentStore

/-- The user ID that an archived user comes back with. -/
def identity (user : ATCUser) : String := user.uid.getD "unknown"

theorem identity_archived (user : ATCUser) :
    identity (ATCUser.ofCoder user.encode) = identity user := by
  rw [ofCoder_archived]
  rfl

/-- Every user object of the host, on its way or persisted, has an ID of a kind. -/
structure Vouched (vouched : String → Prop) (c : ATCHostConfiguration) (app : App) : Prop where
  configured : app.configuration = c
  users : ∀ ref < app.nextUser, vouched (identity (app.users ref))
  biometrics : ∀ ref ∈ app.biometricsInFlight, ref < app.nextUser
  resyncs : ∀ ref ∈ app.resyncsInFlight, ref < app.nextUser
  writes : ∀ write ∈ app.writesInFlight, write.1 < app.nextUser
  user : ∀ ref, app.user = some ref → ref < app.nextUser
  persisted : ∀ user, userIfLoggedInUser app.defaults = some user → vouched (identity user)

section Handlers

variable {vouched : String → Prop} {c : ATCHostConfiguration} {app next : App}

theorem Vouched.same (inv : Vouched vouched c app)
    (configuration : next.configuration = app.configuration) (users : next.users = app.users)
    (nextUser : next.nextUser = app.nextUser)
    (biometrics : ∀ ref ∈ next.biometricsInFlight, ref ∈ app.biometricsInFlight)
    (resyncs : ∀ ref ∈ next.resyncsInFlight, ref ∈ app.resyncsInFlight)
    (writes : ∀ write ∈ next.writesInFlight, write ∈ app.writesInFlight)
    (user : next.user = app.user)
    (defaults : userIfLoggedInUser next.defaults = userIfLoggedInUser app.defaults) :
    Vouched vouched c next := by
  refine ⟨configuration.trans inv.configured, ?_, ?_, ?_, ?_, ?_, ?_⟩
  · rw [users, nextUser]
    exact inv.users
  · rw [nextUser]
    exact fun ref there => inv.biometrics ref (biometrics ref there)
  · rw [nextUser]
    exact fun ref there => inv.resyncs ref (resyncs ref there)
  · rw [nextUser]
    exact fun write there => inv.writes write (writes write there)
  · rw [user, nextUser]
    exact inv.user
  · rw [defaults]
    exact inv.persisted

/-- The views and the delegates of the host say nothing about its users. -/
theorem Vouched.display (inv : Vouched vouched c app)
    (configuration : next.configuration = app.configuration) (users : next.users = app.users)
    (nextUser : next.nextUser = app.nextUser)
    (biometrics : next.biometricsInFlight = app.biometricsInFlight)
    (resyncs : next.resyncsInFlight = app.resyncsInFlight)
    (writes : next.writesInFlight = app.writesInFlight)
    (user : next.user = app.user) (defaults : next.defaults = app.defaults) :
    Vouched vouched c next :=
  inv.same configuration users nextUser (by simp [biometrics]) (by simp [resyncs])
    (by simp [writes]) user (by rw [defaults])

theorem vouched_allocate (inv : Vouched vouched c app) {user : ATCUser}
    (isVouched : vouched (identity user)) : Vouched vouched c (allocate user app).2 := by
  refine ⟨inv.configured, fun ref bound => ?_, ?_, ?_, ?_, ?_, inv.persisted⟩
  · simp only [allocate] at bound ⊢
    by_cases new : ref = app.nextUser
    · rw [new, Function.update_self]
      exact isVouched
    · rw [Function.update_of_ne new]
      exact inv.users ref (Nat.lt_of_le_of_ne (Nat.lt_succ_iff.mp bound) new)
  · exact fun ref there => Nat.lt_succ_of_lt (inv.biometrics ref there)
  · exact fun ref there => Nat.lt_succ_of_lt (inv.resyncs ref there)
  · exact fun write there => Nat.lt_succ_of_lt (inv.writes write there)
  · exact fun ref isUser => Nat.lt_succ_of_lt (inv.user ref isUser)

theorem vouched_markUserAsLoggedIn (inv : Vouched vouched c app) {user : UserRef}
    (bound : user < app.nextUser) : Vouched vouched c (markUserAsLoggedIn user app) := by
  refine ⟨inv.configured, inv.users, inv.biometrics, inv.resyncs, inv.writes, inv.user, ?_⟩
  intro persisted isPersisted
  simp only [ATCHostViewController.markUserAsLoggedIn,
    userIfLoggedInUser_markUserAsLoggedIn, Option.some.injEq] at isPersisted
  rw [← isPersisted, identity_archived]
  exact inv.users user bound

theorem vouched_presentLoggedIn (inv : Vouched vouched c app)
    (h : presentLoggedInViewControllers app = .ok next) : Vouched vouched c next := by
  rw [presentLoggedIn_ok h]
  unfold removeOnboarding
  split
  · exact inv.display rfl rfl rfl rfl rfl rfl rfl rfl
  · exact inv.display rfl rfl rfl rfl rfl rfl rfl rfl

theorem vouched_didFetchUser (inv : Vouched vouched c app) {user : Option UserRef}
    (bound : ∀ ref, user = some ref → ref < app.nextUser)
    (h : didFetchUser user app = .ok next) : Vouched vouched c next := by
  obtain ⟨shown, presented, rfl⟩ := didFetchUser_ok h
  have fetched : Vouched vouched c { app with user := user } :=
    ⟨inv.configured, inv.users, inv.biometrics, inv.resyncs, inv.writes, bound, inv.persisted⟩
  have isShown := vouched_presentLoggedIn fetched presented
  have persisted : Vouched vouched c (persistFetchedUser user shown) := by
    cases user with
    | none => exact isShown
    | some ref =>
      have sameUser : shown.user = some ref := by
        rw [presentLoggedIn_ok presented]
        unfold removeOnboarding
        split <;> rfl
      have marked := vouched_markUserAsLoggedIn isShown (isShown.user ref sameUser)
      exact marked.display rfl rfl rfl rfl rfl rfl rfl rfl
  unfold startLocationUpdates
  split
  · exact persisted.display rfl rfl rfl rfl rfl rfl rfl rfl
  · exact persisted

theorem vouched_coordinatorDidDeliver (inv : Vouched vouched c app) {user : Option UserRef}
    (bound : ∀ ref, user = some ref → ref < app.nextUser)
    (h : coordinatorDidDeliver user app = .ok next) : Vouched vouched c next := by
  unfold coordinatorDidDeliver at h
  split at h
  · exact vouched_didFetchUser inv bound h
  · cases h
    exact inv

/-- A new user object is delivered. -/
theorem vouched_deliver_new (inv : Vouched vouched c app) {user : ATCUser}
    (isVouched : vouched (identity user))
    (h : coordinatorDidDeliver (some (allocate user app).1) (allocate user app).2 = .ok next) :
    Vouched vouched c next := by
  refine vouched_coordinatorDidDeliver (vouched_allocate inv isVouched) (fun ref isRef => ?_) h
  cases isRef
  exact Nat.lt_succ_self _

theorem vouched_setCoordinatorDelegate (inv : Vouched vouched c app) :
    Vouched vouched c (setCoordinatorDelegate app) :=
  inv.display rfl rfl rfl rfl rfl rfl rfl rfl

theorem vouched_didRequestLogout (inv : Vouched vouched c app)
    (h : didRequestLogout app = .ok next) : Vouched vouched c next := by
  have loggedOut : Vouched vouched c
      { app with defaults := ATCPersistentStore.logout app.defaults, loggedOut := true } := by
    refine ⟨inv.configured, inv.users, inv.biometrics, inv.resyncs, inv.writes, inv.user, ?_⟩
    intro user isPersisted
    rw [userIfLoggedInUser_logout] at isPersisted
    cases isPersisted
  unfold didRequestLogout at h
  dsimp only at h
  split at h
  · split at h
    · cases h
      exact loggedOut.display rfl rfl rfl rfl rfl rfl rfl rfl
    · cases h
  · cases h
    exact loggedOut

theorem vouched_resync (inv : Vouched vouched c app) {user : UserRef}
    (bound : user < app.nextUser) (h : resyncPersistentCredentials user app = .ok next) :
    Vouched vouched c next := by
  unfold resyncPersistentCredentials at h
  split at h
  · cases h
    exact inv
  · split at h
    · split at h
      · split at h
        · cases h
          refine ⟨inv.configured, inv.users, inv.biometrics, fun ref there => ?_, inv.writes,
            inv.user, inv.persisted⟩
          rcases List.mem_append.mp there with old | new
          · exact inv.resyncs ref old
          · rw [List.mem_singleton.mp new]
            exact bound
        · cases h
          exact inv
      · cases h
        exact inv
    · refine vouched_coordinatorDidDeliver inv (fun ref isRef => ?_) h
      cases isRef
      exact bound

theorem vouched_resyncCompletion (inv : Vouched vouched c app) {user : UserRef}
    (bound : user < app.nextUser) {newUser : Option ATCUser}
    (isVouched : ∀ fetched, newUser = some fetched → vouched (identity fetched))
    (h : resyncPersistentUserCompletion user newUser app = .ok next) :
    Vouched vouched c next := by
  cases newUser with
  | some newUser => exact vouched_deliver_new inv (isVouched newUser rfl) h
  | none =>
    simp only [resyncPersistentUserCompletion] at h
    split at h
    · refine vouched_coordinatorDidDeliver inv (fun ref isRef => ?_) h
      cases isRef
      exact bound
    · exact vouched_didRequestLogout inv h

theorem vouched_biometricReply (inv : Vouched vouched c app) {user : UserRef}
    (bound : user < app.nextUser) (success : Bool)
    (h : biometricReply user success app = .ok next) : Vouched vouched c next := by
  unfold biometricReply at h
  split at h
  · exact vouched_resync (vouched_setCoordinatorDelegate inv) bound h
  · split at h
    · cases h
      exact inv.display rfl rfl rfl rfl rfl rfl rfl rfl
    · cases h
      exact inv

theorem vouched_viewDidLoad (inv : Vouched vouched c app) (h : viewDidLoad app = .ok next) :
    Vouched vouched c next := by
  have loaded : Vouched vouched c { app with viewLoaded := true } :=
    inv.display rfl rfl rfl rfl rfl rfl rfl rfl
  cases persisted : userIfLoggedInUser app.defaults with
  | some loggedInUser =>
    obtain ⟨uid, hasUid⟩ := uid_of_userIfLoggedInUser persisted
    have allocated := vouched_allocate loaded (inv.persisted loggedInUser persisted)
    rw [viewDidLoad_persisted persisted hasUid] at h
    split at h
    · cases h
      unfold biometricauthentication
      split
      · refine ⟨allocated.configured, allocated.users, fun ref there => ?_, allocated.resyncs,
          allocated.writes, allocated.user, allocated.persisted⟩
        rcases List.mem_append.mp there with old | new
        · exact allocated.biometrics ref old
        · rw [List.mem_singleton.mp new]
          exact Nat.lt_succ_self _
      · exact allocated
    · exact vouched_resync (vouched_setCoordinatorDelegate allocated) (Nat.lt_succ_self _) h
  | none =>
    rw [viewDidLoad_fresh persisted] at h
    split at h
    · cases h
      exact loaded.display rfl rfl rfl rfl rfl rfl rfl rfl
    · split at h
      · cases h
        exact loaded.display rfl rfl rfl rfl rfl rfl rfl rfl
      · exact vouched_presentLoggedIn loaded h

theorem vouched_walkthroughFinished (inv : Vouched vouched c app)
    (h : walkthroughViewControllerDidFinishFlow app = .ok next) : Vouched vouched c next := by
  have completed : Vouched vouched c
      { app with
        walkthroughPages := false
        defaults := markWalkthroughCompleted app.defaults } := by
    refine inv.same rfl rfl rfl (fun _ => id) (fun _ => id) (fun _ => id) rfl ?_
    exact userIfLoggedInUser_markWalkthroughCompleted app.defaults
  unfold walkthroughViewControllerDidFinishFlow at h
  dsimp only at h
  split at h
  · cases h
    exact completed.display rfl rfl rfl rfl rfl rfl rfl rfl
  · exact vouched_presentLoggedIn completed h

theorem vouched_didReceiveLocation (inv : Vouched vouched c app) (location : ATCLocation)
    (h : didReceiveLocation location app = .ok next) : Vouched vouched c next := by
  unfold didReceiveLocation at h
  split at h
  · split at h
    · split at h
      · rename_i user isUser
        cases h
        unfold updateLocation
        split
        · exact inv
        · split
          · refine ⟨inv.configured, inv.users, inv.biometrics, inv.resyncs,
              fun write there => ?_, inv.user, inv.persisted⟩
            rcases List.mem_append.mp there with old | new
            · exact inv.writes write old
            · rw [List.mem_singleton.mp new]
              exact inv.user user isUser
          · exact inv
      · cases h
        exact inv
    · cases h
  · cases h
    exact inv

/-- The location of the user object changes, its ID does not. -/
theorem vouched_locationWrite (inv : Vouched vouched c app) {user : UserRef}
    (bound : user < app.nextUser) (location : ATCLocation) (success : Bool) :
    Vouched vouched c (locationWriteCompletion user location success app) := by
  unfold locationWriteCompletion
  dsimp only
  split
  · refine vouched_markUserAsLoggedIn ?_ bound
    refine ⟨inv.configured, fun ref refBound => ?_, inv.biometrics, inv.resyncs, inv.writes,
      inv.user, inv.persisted⟩
    by_cases same : ref = user
    · simp only [same, Function.update_self]
      exact inv.users user bound
    · simp only [Function.update_of_ne same]
      exact inv.users ref refBound
  · exact inv.display rfl rfl rfl rfl rfl rfl rfl rfl

theorem vouched_loginCompleted (inv : Vouched vouched c app) {user : Option ATCUser}
    (isVouched : ∀ delivered, user = some delivered → vouched (identity delivered))
    (h : loginCompleted user app = .ok next) : Vouched vouched c next := by
  cases user with
  | some user => exact vouched_deliver_new inv (isVouched user rfl) h
  | none => exact vouched_coordinatorDidDeliver inv (fun _ isRef => by cases isRef) h

end Handlers

/-- The ID of the user that an event brings to the host, if it brings one. -/
def broughtID : Event → Option String
  | .loginCompleted user => user.map identity
  | .resyncReply _ newUser => newUser.map identity
  | _ => none

theorem vouched_step {vouched : String → Prop} {c : ATCHostConfiguration} {app next : App}
    {e : Event} (inv : Vouched vouched c app)
    (isVouched : ∀ id, broughtID e = some id → vouched id) (taken : step app e = some next) :
    Vouched vouched c next := by
  have trapped : ∀ trap, Vouched vouched c { app with trapped := some trap } := fun _ =>
    inv.display rfl rfl rfl rfl rfl rfl rfl rfl
  obtain ⟨-, handled⟩ := step_cases taken
  cases handled with
  | viewDidLoad unloaded =>
    exact settle_spec _ trapped fun next => vouched_viewDidLoad inv
  | walkthroughFinished delegated installed =>
    exact settle_spec _ trapped fun next => vouched_walkthroughFinished inv
  | biometricReply index success user rest answered =>
    have answered' : Vouched vouched c { app with biometricsInFlight := rest } :=
      inv.same rfl rfl rfl (deliver_rest_subset answered) (fun _ => id) (fun _ => id) rfl rfl
    exact settle_spec _ trapped fun next =>
      vouched_biometricReply answered' (inv.biometrics user (deliver_mem answered)) success
  | resyncReply index newUser user rest answered =>
    have answered' : Vouched vouched c { app with resyncsInFlight := rest } :=
      inv.same rfl rfl rfl (fun _ => id) (deliver_rest_subset answered) (fun _ => id) rfl rfl
    refine settle_spec _ trapped fun next =>
      vouched_resyncCompletion answered' (inv.resyncs user (deliver_mem answered)) ?_
    intro fetched isFetched
    exact isVouched _ (by simp [broughtID, isFetched])
  | loginCompleted user coordinator =>
    refine settle_spec _ trapped fun next => vouched_loginCompleted inv ?_
    intro delivered isDelivered
    exact isVouched _ (by simp [broughtID, isDelivered])
  | logoutNotification loaded =>
    exact settle_spec _ trapped fun next => vouched_didRequestLogout inv
  | logoutUnobserved unloaded => exact inv
  | locationFix location manager =>
    exact settle_spec _ trapped fun next => vouched_didReceiveLocation inv location
  | locationWriteReply index success user location rest answered =>
    have answered' : Vouched vouched c { app with writesInFlight := rest } :=
      inv.same rfl rfl rfl (fun _ => id) (fun _ => id) (deliver_rest_subset answered) rfl rfl
    exact vouched_locationWrite answered' (inv.writes _ (deliver_mem answered)) location success

theorem vouched_new {vouched : String → Prop} (c : ATCHostConfiguration)
    (defaults : UserDefaults) (users : UserRef → ATCUser)
    (persisted : ∀ user, userIfLoggedInUser defaults = some user → vouched (identity user)) :
    Vouched vouched c (new c defaults users) where
  configured := rfl
  users := fun _ bound => absurd bound (Nat.not_lt_zero _)
  biometrics := fun _ there => absurd there List.not_mem_nil
  resyncs := fun _ there => absurd there List.not_mem_nil
  writes := fun _ there => absurd there List.not_mem_nil
  user := fun _ isUser => by cases isUser
  persisted := persisted

theorem vouched_run {vouched : String → Prop} {c : ATCHostConfiguration} {app next : App}
    {es : List Event} (inv : Vouched vouched c app)
    (isVouched : ∀ e ∈ es, ∀ id, broughtID e = some id → vouched id)
    (h : run step app es = some next) : Vouched vouched c next :=
  run_invariant_on (fun e => ∀ id, broughtID e = some id → vouched id) (Vouched vouched c)
    (fun _ _ _ brought inv' taken => vouched_step inv' brought taken) isVouched inv h

end FinanciaApp.Guarantees
