import FinanciaApp.Library.Runs
import FinanciaApp.Library.InFlight
import FinanciaApp.Source.ATCHostViewController

/-!
# Runs of the host

An event is something that happens to the host: its view loads, the user finishes the
walkthrough or a login, a logout is posted, a location fix arrives, or a request in
flight is answered. Replies are picked by position, so they arrive in any order. A
trap ends the run in the state before the event. Before its view has loaded the host
observes no logout, and a coordinator without its delegate delivers to nobody.
-/

set_option autoImplicit false

namespace FinanciaApp.Source

open Library

namespace ATCHostViewController

inductive Event where
  | viewDidLoad
  | walkthroughFinished
  | biometricReply (index : Nat) (success : Bool)
  | resyncReply (index : Nat) (newUser : Option ATCUser)
  | loginCompleted (user : Option ATCUser)
  | logoutNotification
  | locationFix (location : ATCLocation)
  | locationWriteReply (index : Nat) (success : Bool)

/-- The state after a handler, or the old state where it trapped. -/
def App.settle (app : App) (result : Except Trap App) : App :=
  match result with
  | .ok next => next
  | .error trap => { app with trapped := some trap }

def loginCompleted (user : Option ATCUser) (app : App) : Except Trap App :=
  match user with
  | some user =>
    let (fetched, app) := allocate user app
    coordinatorDidDeliver (some fetched) app
  | none => coordinatorDidDeliver none app

/-- One event; `none` where it cannot happen. -/
def step (app : App) (e : Event) : Option App :=
  if app.trapped.isSome then
    none
  else
    match e with
    | .viewDidLoad =>
      if app.viewLoaded then none else some (app.settle (viewDidLoad app))
    | .walkthroughFinished =>
      if app.walkthroughDelegate && app.walkthroughPages && app.subviews.contains .walkthrough then
        some (app.settle (walkthroughViewControllerDidFinishFlow app))
      else
        none
    | .biometricReply index success =>
      match deliver app.biometricsInFlight index with
      | some (user, rest) =>
        some (app.settle (biometricReply user success { app with biometricsInFlight := rest }))
      | none => none
    | .resyncReply index newUser =>
      match deliver app.resyncsInFlight index with
      | some (user, rest) =>
        some (app.settle
          (resyncPersistentUserCompletion user newUser { app with resyncsInFlight := rest }))
      | none => none
    | .loginCompleted user =>
      match app.configuration.onboardingCoordinator with
      | some _ => some (app.settle (loginCompleted user app))
      | none => none
    | .logoutNotification =>
      some (if app.viewLoaded then app.settle (didRequestLogout app) else app)
    | .locationFix location =>
      if app.locationManager then some (app.settle (didReceiveLocation location app)) else none
    | .locationWriteReply index success =>
      match deliver app.writesInFlight index with
      | some ((user, location), rest) =>
        some (locationWriteCompletion user location success { app with writesInFlight := rest })
      | none => none

/-- Everything a step can do: one handler, from the state that a reply leaves behind. -/
inductive Handled (app : App) : Event → App → Prop where
  | viewDidLoad (unloaded : app.viewLoaded = false) :
      Handled app .viewDidLoad (app.settle (viewDidLoad app))
  | walkthroughFinished (delegated : app.walkthroughDelegate = true)
      (installed : .walkthrough ∈ app.subviews) :
      Handled app .walkthroughFinished (app.settle (walkthroughViewControllerDidFinishFlow app))
  | biometricReply (index : Nat) (success : Bool) (user : UserRef) (rest : List UserRef)
      (answered : deliver app.biometricsInFlight index = some (user, rest)) :
      Handled app (.biometricReply index success)
        (app.settle (biometricReply user success { app with biometricsInFlight := rest }))
  | resyncReply (index : Nat) (newUser : Option ATCUser) (user : UserRef) (rest : List UserRef)
      (answered : deliver app.resyncsInFlight index = some (user, rest)) :
      Handled app (.resyncReply index newUser)
        (app.settle
          (resyncPersistentUserCompletion user newUser { app with resyncsInFlight := rest }))
  | loginCompleted (user : Option ATCUser)
      (coordinator : app.configuration.onboardingCoordinator.isSome = true) :
      Handled app (.loginCompleted user) (app.settle (loginCompleted user app))
  | logoutNotification (loaded : app.viewLoaded = true) :
      Handled app .logoutNotification (app.settle (didRequestLogout app))
  | logoutUnobserved (unloaded : app.viewLoaded = false) : Handled app .logoutNotification app
  | locationFix (location : ATCLocation) (manager : app.locationManager = true) :
      Handled app (.locationFix location) (app.settle (didReceiveLocation location app))
  | locationWriteReply (index : Nat) (success : Bool) (user : UserRef) (location : ATCLocation)
      (rest : List (UserRef × ATCLocation))
      (answered : deliver app.writesInFlight index = some ((user, location), rest)) :
      Handled app (.locationWriteReply index success)
        (locationWriteCompletion user location success { app with writesInFlight := rest })

theorem step_cases {app next : App} {e : Event} (h : step app e = some next) :
    app.trapped = none ∧ Handled app e next := by
  unfold step at h
  split at h
  · cases h
  · rename_i running
    refine ⟨by simpa using running, ?_⟩
    cases e with
    | viewDidLoad =>
      dsimp only at h
      split at h
      · cases h
      · rename_i unloaded
        cases h
        exact .viewDidLoad (by simpa using unloaded)
    | walkthroughFinished =>
      dsimp only at h
      split at h
      · rename_i possible
        cases h
        simp only [Bool.and_eq_true, List.contains_iff_mem] at possible
        exact .walkthroughFinished possible.1.1 possible.2
      · cases h
    | biometricReply index success =>
      dsimp only at h
      split at h
      · rename_i user rest answered
        cases h
        exact .biometricReply index success user rest answered
      · cases h
    | resyncReply index newUser =>
      dsimp only at h
      split at h
      · rename_i user rest answered
        cases h
        exact .resyncReply index newUser user rest answered
      · cases h
    | loginCompleted user =>
      dsimp only at h
      split at h
      · rename_i coordinator present
        cases h
        exact .loginCompleted user (by simp [present])
      · cases h
    | logoutNotification =>
      dsimp only at h
      split at h
      · rename_i loaded
        cases h
        exact .logoutNotification loaded
      · rename_i unloaded
        cases h
        exact .logoutUnobserved (by simpa using unloaded)
    | locationFix location =>
      dsimp only at h
      split at h
      · rename_i manager
        cases h
        exact .locationFix location manager
      · cases h
    | locationWriteReply index success =>
      dsimp only at h
      split at h
      · rename_i user location rest answered
        cases h
        exact .locationWriteReply index success user location rest answered
      · cases h

/-- Presenting the logged-in app, where its controller exists. -/
theorem presentLoggedIn_ok {app next : App} (h : presentLoggedInViewControllers app = .ok next) :
    next = addChildViewControllerWithView .loggedIn (removeOnboarding app) := by
  unfold presentLoggedInViewControllers at h
  split at h
  · exact (Except.ok.inj h).symm
  · cases h

/-- A delivery presents the logged-in app, persists the user it delivers, if any, and
starts location updates if they are on. -/
theorem didFetchUser_ok {user : Option UserRef} {app next : App}
    (h : didFetchUser user app = .ok next) :
    ∃ shown, presentLoggedInViewControllers { app with user := user } = .ok shown ∧
      next = startLocationUpdates (persistFetchedUser user shown) := by
  unfold didFetchUser at h
  cases presented : presentLoggedInViewControllers { app with user := user } with
  | error trap =>
    rw [presented] at h
    cases h
  | ok shown =>
    rw [presented] at h
    exact ⟨shown, rfl, (Except.ok.inj h).symm⟩

/-- The view load of a host with a persisted user. -/
theorem viewDidLoad_persisted {app : App} {user : ATCUser} {uid : String}
    (persisted : ATCPersistentStore.userIfLoggedInUser app.defaults = some user)
    (hasUid : user.uid = some uid) :
    viewDidLoad app =
      if faceIDEnabled app.defaults uid then
        .ok (biometricauthentication app.nextUser (allocate user { app with viewLoaded := true }).2)
      else
        resyncPersistentCredentials app.nextUser
          (setCoordinatorDelegate (allocate user { app with viewLoaded := true }).2) := by
  simp only [viewDidLoad, persisted, hasUid, allocate]

/-- The view load of a host without one. -/
theorem viewDidLoad_fresh {app : App}
    (fresh : ATCPersistentStore.userIfLoggedInUser app.defaults = none) :
    viewDidLoad app =
      if app.configuration.hasWalkthroughVC &&
          !ATCPersistentStore.isWalkthroughCompleted app.defaults then
        .ok (addChildViewControllerWithView .walkthrough
          { app with viewLoaded := true, walkthroughDelegate := true })
      else
        match app.configuration.onboardingCoordinator with
        | some _ =>
          .ok (addChildViewControllerWithView .onboarding
            (setCoordinatorDelegate { app with viewLoaded := true }))
        | none => presentLoggedInViewControllers { app with viewLoaded := true } := by
  unfold viewDidLoad
  cases app.configuration.onboardingCoordinator <;> simp only [fresh]

/-- What holds of the old state and of every state a handler can return holds after it. -/
theorem settle_spec {app : App} {result : Except Trap App} (P : App → Prop)
    (trapped : ∀ trap, P { app with trapped := some trap })
    (returned : ∀ next, result = .ok next → P next) : P (app.settle result) := by
  cases result with
  | ok next => exact returned next rfl
  | error trap => exact trapped trap

/-- A tab bar app with an onboarding coordinator and a location updater. The
counterexamples about the host run on it. -/
def sampleConfiguration : ATCHostConfiguration where
  style := .tabBar
  items := [⟨some "Home", .viewController⟩]
  locationUpdatesEnabled := true
  onboardingCoordinator := some ⟨false, false⟩
  hasWalkthroughVC := false
  hasProfileUpdater := true
  canEvaluatePolicy := false

def sampleUser : ATCUser :=
  ATCUser.new "u1" (some "Ana") none none "ana@example.com" "" none none none false none none
    false none "" false []

/-- The sample user is persisted and has face ID switched on. -/
def faceIDDefaults : UserDefaults
  | "kUserKey" => some (.data sampleUser.encode)
  | "u1" => some (.switches [("face_id_enabled", true)])
  | _ => none

end ATCHostViewController

end FinanciaApp.Source
