import FinanciaApp.Source.ATCPersistentStore

/-!
# The host view controller

`Core/ViewControllers/Navigation/ATCHostViewController.swift` with what it calls:
`resyncPersistentCredentials` of the classic onboarding coordinator,
`resyncPersistentUser` of `ATCFirebaseLoginManager` and `updateLocation` of
`ATCProfileFirebaseUpdater`. A handler takes the state of the app and returns the next
one, or the trap it runs into. Users are objects: the state maps references to their
current fields, and a closure that captured a user holds its reference.

The views are the three screens of the host, in `subviews` from back to front; a
transition runs its `animations` block at once. Menu, tab bar items, profile photo and
push notifications are not modelled, nor is the Shopify branch, which is compiled out.
-/

set_option autoImplicit false

namespace FinanciaApp.Source

inductive ATCNavigationStyle where
  | tabBar
  | sideBar
  deriving DecidableEq, Repr

inductive ATCNavigationMenuItemType where
  | viewController
  | logout
  deriving DecidableEq, Repr

structure ATCNavigationItem where
  title : Option String
  type : ATCNavigationMenuItemType
  deriving DecidableEq, Repr

/-- The walkthrough, the view of the onboarding coordinator, and the tab bar or drawer
controller of the logged-in app. -/
inductive Screen where
  | walkthrough
  | onboarding
  | loggedIn
  deriving DecidableEq, Repr

/-- `ATCClassicOnboardingCoordinator`, with the login manager it creates from the two. -/
structure ATCClassicOnboardingCoordinator where
  isFirebaseAuthEnabled : Bool
  hasUserManager : Bool
  deriving DecidableEq, Repr

structure ATCHostConfiguration where
  style : ATCNavigationStyle
  items : List ATCNavigationItem
  locationUpdatesEnabled : Bool
  onboardingCoordinator : Option ATCClassicOnboardingCoordinator
  hasWalkthroughVC : Bool
  hasProfileUpdater : Bool
  /-- `canEvaluatePolicy(.deviceOwnerAuthenticationWithBiometrics)` on this device. -/
  canEvaluatePolicy : Bool
  deriving DecidableEq, Repr

namespace ATCHostViewController

inductive Trap where
  | unexpectedlyFoundNil
  | fatalError
  deriving DecidableEq, Repr

/-- A reference to an `ATCUser`. -/
abbrev UserRef := Nat

/-- The host, the store, and the requests it has in flight. `loggedOut` is not data of
the source: a logout was handled and no user was delivered since. -/
structure App where
  configuration : ATCHostConfiguration
  defaults : UserDefaults
  users : UserRef → ATCUser
  nextUser : UserRef
  viewLoaded : Bool
  user : Option UserRef
  children : List Screen
  subviews : List Screen
  coordinatorDelegate : Bool
  walkthroughDelegate : Bool
  walkthroughPages : Bool
  locationUpdatesEnabled : Bool
  locationManager : Bool
  updateInProgress : Bool
  biometricsInFlight : List UserRef
  resyncsInFlight : List UserRef
  writesInFlight : List (UserRef × ATCLocation)
  trapped : Option Trap
  loggedOut : Bool

/-- `tabController!` or `drawerController!` is there; `configureChildrenViewControllers`
leaves out the drawer when the menu has no item. -/
def hasLoggedInController (configuration : ATCHostConfiguration) : Bool :=
  configuration.style = .tabBar || !configuration.items.isEmpty

/-- `init`, which makes the drawer a child already. -/
def new (configuration : ATCHostConfiguration) (defaults : UserDefaults)
    (users : UserRef → ATCUser) : App where
  configuration := configuration
  defaults := defaults
  users := users
  nextUser := 0
  viewLoaded := false
  user := none
  children :=
    if configuration.style = .sideBar && !configuration.items.isEmpty then [.loggedIn] else []
  subviews := []
  coordinatorDelegate := false
  walkthroughDelegate := false
  walkthroughPages := true
  locationUpdatesEnabled := configuration.locationUpdatesEnabled
  locationManager := false
  updateInProgress := false
  biometricsInFlight := []
  resyncsInFlight := []
  writesInFlight := []
  trapped := none
  loggedOut := false

section Views

/-- Remove a view controller from its parent and its view from the host's. -/
def removeChild (screen : Screen) (app : App) : App :=
  { app with
    children := app.children.filter fun child => child ≠ screen
    subviews := app.subviews.filter fun view => view ≠ screen }

/-- `addSubview`, which brings a view that is there already to the front. -/
def addSubview (screen : Screen) (app : App) : App :=
  { app with subviews := (app.subviews.filter fun view => view ≠ screen) ++ [screen] }

def addChildViewControllerWithView (screen : Screen) (app : App) : App :=
  addSubview screen
    { app with children := (app.children.filter fun child => child ≠ screen) ++ [screen] }

/-- `onboardingCoordinator?.delegate = self`. -/
def setCoordinatorDelegate (app : App) : App :=
  { app with
    coordinatorDelegate :=
      app.coordinatorDelegate || app.configuration.onboardingCoordinator.isSome }

end Views

/-- A new user object. -/
def allocate (user : ATCUser) (app : App) : UserRef × App :=
  (app.nextUser,
    { app with
      users := Function.update app.users app.nextUser user
      nextUser := app.nextUser + 1 })

/-- `onboardingCoordinator?.viewController()` leaves its parent and the view. -/
def removeOnboarding (app : App) : App :=
  match app.configuration.onboardingCoordinator with
  | some _ => removeChild .onboarding app
  | none => app

def presentLoggedInViewControllers (app : App) : Except Trap App :=
  if hasLoggedInController app.configuration then
    .ok (addChildViewControllerWithView .loggedIn (removeOnboarding app))
  else
    .error .unexpectedlyFoundNil

def markUserAsLoggedIn (user : UserRef) (app : App) : App :=
  { app with defaults := ATCPersistentStore.markUserAsLoggedIn app.defaults (app.users user) }

/-- `if let user = user`: the delivered user is persisted. -/
def persistFetchedUser (user : Option UserRef) (app : App) : App :=
  match user with
  | some user => { markUserAsLoggedIn user app with loggedOut := false }
  | none => app

def startLocationUpdates (app : App) : App :=
  if app.locationUpdatesEnabled then { app with locationManager := true } else app

def didFetchUser (user : Option UserRef) (app : App) : Except Trap App := do
  let presented ← presentLoggedInViewControllers { app with user := user }
  .ok (startLocationUpdates (persistFetchedUser user presented))

def didRequestLogout (app : App) : Except Trap App :=
  let loggedOut :=
    { app with defaults := ATCPersistentStore.logout app.defaults, loggedOut := true }
  match app.configuration.onboardingCoordinator with
  | some _ =>
    if hasLoggedInController app.configuration then
      .ok (addChildViewControllerWithView .onboarding
        (setCoordinatorDelegate (removeChild .loggedIn loggedOut)))
    else
      .error .unexpectedlyFoundNil
  | none => .ok loggedOut

/-- `delegate?.coordinatorDidResyncCredentials` and
`delegate?.coordinatorDidCompleteOnboarding`. -/
def coordinatorDidDeliver (user : Option UserRef) (app : App) : Except Trap App :=
  if app.coordinatorDelegate then didFetchUser user app else .ok app

/-- `onboardingCoordinator?.resyncPersistentCredentials(user:)`. -/
def resyncPersistentCredentials (user : UserRef) (app : App) : Except Trap App :=
  match app.configuration.onboardingCoordinator with
  | none => .ok app
  | some coordinator =>
    if coordinator.isFirebaseAuthEnabled then
      match (app.users user).uid with
      | some _ =>
        if coordinator.hasUserManager then
          .ok { app with resyncsInFlight := app.resyncsInFlight ++ [user] }
        else
          .ok app
      | none => .ok app
    else
      coordinatorDidDeliver (some user) app

/-- The completion of `fetchUser` in `resyncPersistentUser`. -/
def resyncPersistentUserCompletion (user : UserRef) (newUser : Option ATCUser) (app : App) :
    Except Trap App :=
  match newUser with
  | some newUser =>
    let (fetched, app) := allocate newUser app
    coordinatorDidDeliver (some fetched) app
  | none =>
    if (app.users user).email.isSome && (app.users user).uid = (app.users user).email then
      coordinatorDidDeliver (some user) app
    else
      didRequestLogout app

/-- With no biometric hardware nothing is shown and nobody is asked. -/
def biometricauthentication (user : UserRef) (app : App) : App :=
  if app.configuration.canEvaluatePolicy then
    { app with biometricsInFlight := app.biometricsInFlight ++ [user] }
  else
    app

def biometricReply (user : UserRef) (success : Bool) (app : App) : Except Trap App :=
  if success then
    resyncPersistentCredentials user (setCoordinatorDelegate app)
  else
    match app.configuration.onboardingCoordinator with
    | some _ => .ok (addChildViewControllerWithView .onboarding (setCoordinatorDelegate app))
    | none => .ok app

/-- `UserDefaults.standard.value(forKey: uid) as? [String: Bool]`, at the face-ID key. -/
def faceIDEnabled (defaults : UserDefaults) (uid : String) : Bool :=
  match defaults uid with
  | some (.switches members) => (members.lookup "face_id_enabled").getD false
  | _ => false

def viewDidLoad (app : App) : Except Trap App :=
  let loaded := { app with viewLoaded := true }
  match ATCPersistentStore.userIfLoggedInUser app.defaults with
  | some loggedInUser =>
    match loggedInUser.uid with
    | some uid =>
      let (user, loaded) := allocate loggedInUser loaded
      if faceIDEnabled app.defaults uid then
        .ok (biometricauthentication user loaded)
      else
        resyncPersistentCredentials user (setCoordinatorDelegate loaded)
    | none => .error .unexpectedlyFoundNil
  | none =>
    if app.configuration.hasWalkthroughVC &&
        !ATCPersistentStore.isWalkthroughCompleted app.defaults then
      .ok (addChildViewControllerWithView .walkthrough { loaded with walkthroughDelegate := true })
    else
      match app.configuration.onboardingCoordinator with
      | some _ =>
        .ok (addChildViewControllerWithView .onboarding (setCoordinatorDelegate loaded))
      | none => presentLoggedInViewControllers loaded

/-- The walkthrough removes its pages and tells its delegate; with a coordinator its view
gives way to the onboarding view, without one it stays. -/
def walkthroughViewControllerDidFinishFlow (app : App) : Except Trap App :=
  let completed := { app with
    walkthroughPages := false
    defaults := ATCPersistentStore.markWalkthroughCompleted app.defaults }
  match app.configuration.onboardingCoordinator with
  | some _ =>
    let delegated := setCoordinatorDelegate completed
    .ok (addSubview .onboarding
      { delegated with subviews := delegated.subviews.filter fun view => view ≠ .walkthrough })
  | none => presentLoggedInViewControllers completed

/-- `ATCProfileFirebaseUpdater.updateLocation`: a call while a write is in flight is
dropped. -/
def updateLocation (user : UserRef) (location : ATCLocation) (app : App) : App :=
  if app.updateInProgress then
    app
  else
    match (app.users user).uid with
    | some _ =>
      { app with
        updateInProgress := true
        writesInFlight := app.writesInFlight ++ [(user, location)] }
    | none => app

/-- `locationManager(_:didReceive:)`. -/
def didReceiveLocation (location : ATCLocation) (app : App) : Except Trap App :=
  if app.locationUpdatesEnabled then
    if app.configuration.hasProfileUpdater then
      match app.user with
      | some user => .ok (updateLocation user location app)
      | none => .ok app
    else
      .error .fatalError
  else
    .ok app

/-- The reply to a location write, with the user that the closure captured. -/
def locationWriteCompletion (user : UserRef) (location : ATCLocation) (success : Bool)
    (app : App) : App :=
  let answered := { app with updateInProgress := false }
  if success then
    let located := { answered.users user with location := some location }
    markUserAsLoggedIn user
      { setCoordinatorDelegate answered with
        locationUpdatesEnabled := false
        users := Function.update answered.users user located }
  else
    answered

end ATCHostViewController

end FinanciaApp.Source
