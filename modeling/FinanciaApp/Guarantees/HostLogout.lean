import FinanciaApp.Source.HostSystem

/-!
# A logged-out user stays out of the persistent store

Two places write the persisted user: `didFetchUser`, when a login or a resync delivers
one, and the reply to a location write, with the user it captured. The first ends the
logged-out phase; the second does not look whether there was a logout, and neither
logout nor the logged-out host stops location fixes. So the store stays empty along
exactly the runs in which no location write succeeds after a logout.
-/

set_option autoImplicit false

namespace FinanciaApp.Guarantees

open Library Source Source.ATCHostViewController ATCPersistentStore

/-- After a logout and until a user is delivered again, no user is persisted. -/
def LoggedOutForgotten (app : App) : Prop :=
  app.loggedOut = true → userIfLoggedInUser app.defaults = none

/-- The event is no successful reply to a location write while logged out. -/
def NoWriteAfterLogout (app : App) (e : Event) : Prop :=
  ∀ index, e = .locationWriteReply index true → app.loggedOut = false

section Handlers

variable (app : App) {next : App}

theorem forgotten_presentLoggedIn (forgotten : LoggedOutForgotten app)
    (h : presentLoggedInViewControllers app = .ok next) : LoggedOutForgotten next := by
  have removed : LoggedOutForgotten (removeOnboarding app) := by
    unfold removeOnboarding
    split <;> exact forgotten
  rw [presentLoggedIn_ok h]
  exact removed

theorem forgotten_didFetchUser (user : Option UserRef) (forgotten : LoggedOutForgotten app)
    (h : didFetchUser user app = .ok next) : LoggedOutForgotten next := by
  obtain ⟨shown, presented, rfl⟩ := didFetchUser_ok h
  have persisted : LoggedOutForgotten (persistFetchedUser user shown) := by
    cases user with
    | some user =>
      -- a delivered user ends the logged-out phase
      intro loggedOut
      cases loggedOut
    | none => exact forgotten_presentLoggedIn { app with user := none } forgotten presented
  unfold startLocationUpdates
  split <;> exact persisted

theorem forgotten_coordinatorDidDeliver (user : Option UserRef)
    (forgotten : LoggedOutForgotten app) (h : coordinatorDidDeliver user app = .ok next) :
    LoggedOutForgotten next := by
  unfold coordinatorDidDeliver at h
  split at h
  · exact forgotten_didFetchUser app user forgotten h
  · cases h
    exact forgotten

theorem forgotten_didRequestLogout (h : didRequestLogout app = .ok next) :
    LoggedOutForgotten next := by
  unfold didRequestLogout at h
  intro _
  split at h
  · split at h
    · cases h
      exact userIfLoggedInUser_logout app.defaults
    · cases h
  · cases h
    exact userIfLoggedInUser_logout app.defaults

theorem forgotten_resync (user : UserRef) (forgotten : LoggedOutForgotten app)
    (h : resyncPersistentCredentials user app = .ok next) : LoggedOutForgotten next := by
  unfold resyncPersistentCredentials at h
  split at h
  · cases h
    exact forgotten
  · split at h
    · split at h
      · split at h <;> cases h <;> exact forgotten
      · cases h
        exact forgotten
    · exact forgotten_coordinatorDidDeliver app (some user) forgotten h

theorem forgotten_resyncCompletion (user : UserRef) (newUser : Option ATCUser)
    (forgotten : LoggedOutForgotten app)
    (h : resyncPersistentUserCompletion user newUser app = .ok next) :
    LoggedOutForgotten next := by
  cases newUser with
  | some newUser =>
    exact forgotten_coordinatorDidDeliver (allocate newUser app).2
      (some (allocate newUser app).1) forgotten h
  | none =>
    simp only [resyncPersistentUserCompletion] at h
    split at h
    · exact forgotten_coordinatorDidDeliver app (some user) forgotten h
    · exact forgotten_didRequestLogout app h

theorem forgotten_biometricReply (user : UserRef) (success : Bool)
    (forgotten : LoggedOutForgotten app) (h : biometricReply user success app = .ok next) :
    LoggedOutForgotten next := by
  unfold biometricReply at h
  split at h
  · exact forgotten_resync (setCoordinatorDelegate app) user forgotten h
  · split at h <;> cases h <;> exact forgotten

theorem forgotten_viewDidLoad (forgotten : LoggedOutForgotten app)
    (h : viewDidLoad app = .ok next) : LoggedOutForgotten next := by
  cases persisted : userIfLoggedInUser app.defaults with
  | some loggedInUser =>
    obtain ⟨uid, hasUid⟩ := uid_of_userIfLoggedInUser persisted
    rw [viewDidLoad_persisted persisted hasUid] at h
    split at h
    · cases h
      unfold LoggedOutForgotten biometricauthentication
      split <;> exact forgotten
    · refine forgotten_resync (setCoordinatorDelegate
        (allocate loggedInUser { app with viewLoaded := true }).2) _ forgotten h
  | none =>
    rw [viewDidLoad_fresh persisted] at h
    split at h
    · cases h
      exact forgotten
    · split at h
      · cases h
        exact forgotten
      · exact forgotten_presentLoggedIn { app with viewLoaded := true } forgotten h

theorem forgotten_walkthroughFinished (forgotten : LoggedOutForgotten app)
    (h : walkthroughViewControllerDidFinishFlow app = .ok next) : LoggedOutForgotten next := by
  have completed : LoggedOutForgotten
      { app with
        walkthroughPages := false
        defaults := markWalkthroughCompleted app.defaults } := by
    intro loggedOut
    rw [userIfLoggedInUser_markWalkthroughCompleted]
    exact forgotten loggedOut
  unfold walkthroughViewControllerDidFinishFlow at h
  dsimp only at h
  split at h
  · cases h
    exact completed
  · exact forgotten_presentLoggedIn _ completed h

theorem forgotten_didReceiveLocation (location : ATCLocation) (forgotten : LoggedOutForgotten app)
    (h : didReceiveLocation location app = .ok next) : LoggedOutForgotten next := by
  unfold didReceiveLocation at h
  split at h
  · split at h
    · split at h
      · cases h
        unfold LoggedOutForgotten updateLocation
        split
        · exact forgotten
        · split <;> exact forgotten
      · cases h
        exact forgotten
    · cases h
  · cases h
    exact forgotten

theorem forgotten_loginCompleted (user : Option ATCUser) (forgotten : LoggedOutForgotten app)
    (h : loginCompleted user app = .ok next) : LoggedOutForgotten next := by
  cases user with
  | some user =>
    exact forgotten_coordinatorDidDeliver (allocate user app).2
      (some (allocate user app).1) forgotten h
  | none => exact forgotten_coordinatorDidDeliver app none forgotten h

end Handlers

/-- A reply to a location write persists its user, whatever happened since. -/
theorem forgotten_locationWrite_iff (app : App) (user : UserRef) (location : ATCLocation)
    (success : Bool) (forgotten : LoggedOutForgotten app) :
    LoggedOutForgotten (locationWriteCompletion user location success app) ↔
      (success = true → app.loggedOut = false) := by
  cases success with
  | false =>
    exact ⟨fun _ h => absurd h (by decide), fun _ => forgotten⟩
  | true =>
    have persisted : ∃ user', userIfLoggedInUser
        (locationWriteCompletion user location true app).defaults = some user' :=
      ⟨_, userIfLoggedInUser_markUserAsLoggedIn _ _⟩
    have phase : (locationWriteCompletion user location true app).loggedOut = app.loggedOut := rfl
    obtain ⟨user', persisted⟩ := persisted
    unfold LoggedOutForgotten
    rw [persisted, phase]
    simp

/-- A handler other than the one for a location write. -/
theorem forgotten_settle_iff (app : App) (e : Event) (result : Except Trap App)
    (forgotten : LoggedOutForgotten app) (noWrite : ∀ index, e ≠ .locationWriteReply index true)
    (returned : ∀ next, result = .ok next → LoggedOutForgotten next) :
    LoggedOutForgotten (app.settle result) ↔ NoWriteAfterLogout app e :=
  iff_of_true (settle_spec LoggedOutForgotten (fun _ => forgotten) returned)
    (fun index reply => absurd reply (noWrite index))

/-- A step keeps the logged-out user out of the store exactly when it is no successful
location write after a logout. -/
theorem forgotten_step_iff (app : App) (e : Event) (next : App)
    (forgotten : LoggedOutForgotten app) (taken : step app e = some next) :
    LoggedOutForgotten next ↔ NoWriteAfterLogout app e := by
  obtain ⟨-, handled⟩ := step_cases taken
  cases handled with
  | locationWriteReply index success user location rest answered =>
    rw [forgotten_locationWrite_iff { app with writesInFlight := rest } user location success
      forgotten]
    constructor
    · intro phase index' reply
      cases reply
      exact phase rfl
    · rintro noWrite rfl
      exact noWrite index rfl
  | viewDidLoad unloaded =>
    exact forgotten_settle_iff app _ _ forgotten (by simp)
      fun next => forgotten_viewDidLoad app forgotten
  | walkthroughFinished delegated installed =>
    exact forgotten_settle_iff app _ _ forgotten (by simp)
      fun next => forgotten_walkthroughFinished app forgotten
  | biometricReply index success user rest answered =>
    exact forgotten_settle_iff app _ _ forgotten (by simp) fun next =>
      forgotten_biometricReply { app with biometricsInFlight := rest } user success forgotten
  | resyncReply index newUser user rest answered =>
    exact forgotten_settle_iff app _ _ forgotten (by simp) fun next =>
      forgotten_resyncCompletion { app with resyncsInFlight := rest } user newUser forgotten
  | loginCompleted user coordinator =>
    exact forgotten_settle_iff app _ _ forgotten (by simp)
      fun next => forgotten_loginCompleted app user forgotten
  | logoutNotification loaded =>
    exact forgotten_settle_iff app _ _ forgotten (by simp)
      fun next => forgotten_didRequestLogout app
  | logoutUnobserved unloaded => exact iff_of_true forgotten fun index reply => by cases reply
  | locationFix location manager =>
    exact forgotten_settle_iff app _ _ forgotten (by simp)
      fun next => forgotten_didReceiveLocation app location forgotten

/-- Along every run of the host, whatever it was configured with and whatever was
persisted, a logged-out user is never written back exactly when no location write
succeeds between a logout and the next delivery of a user. -/
theorem logged_out_forgotten_iff (configuration : ATCHostConfiguration) (defaults : UserDefaults)
    (users : UserRef → ATCUser) (es : List Event) :
    AlongRun step (fun _ _ next => LoggedOutForgotten next) (new configuration defaults users) es ↔
      AlongRun step (fun app e _ => NoWriteAfterLogout app e)
        (new configuration defaults users) es := by
  refine alongRun_iff_of_invariant LoggedOutForgotten forgotten_step_iff ?_ ?_
  · intro app e next forgotten taken met
    exact (forgotten_step_iff app e next forgotten taken).mpr met
  · intro loggedOut
    cases loggedOut

/-- A location write is in flight when the user logs out, and succeeds afterwards. -/
theorem logged_out_user_written_back :
    ¬ ∀ (configuration : ATCHostConfiguration) (defaults : UserDefaults)
        (users : UserRef → ATCUser) (es : List Event),
      AlongRun step (fun _ _ next => LoggedOutForgotten next)
        (new configuration defaults users) es := by
  intro claim
  have along := claim sampleConfiguration (fun _ => none) (fun _ => sampleUser)
    [.viewDidLoad, .loginCompleted (some sampleUser), .locationFix ⟨1, 2⟩, .logoutNotification,
      .locationWriteReply 0 true]
  have bad := (((((along _ rfl).2 _ rfl).2 _ rfl).2 _ rfl).2 _ rfl).1
  exact Option.some_ne_none _ (bad rfl)

end FinanciaApp.Guarantees
