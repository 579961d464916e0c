import FinanciaApp.Source.HostSystem

/-!
# The screens of the host

What the handlers of the host install, and the invariant of the runs in which every
event leads to a screen (`LeadsToScreen`): a persisted user can be asked for a
fingerprint and resynced, a finished walkthrough has an onboarding to give way to, no
logout arrives over the walkthrough and no failed biometric reply over the logged-in app.

The invariant: at most one screen is installed and at most one reply outstanding, there
is none without the other, and the walkthrough is shown only before anything else
happened.
-/

set_option autoImplicit false

namespace FinanciaApp.Guarantees

open Library Source Source.ATCHostViewController ATCPersistentStore

/-- A resync of the user delivers a user or a logout, now or with its reply. -/
def resyncAnswers (configuration : ATCHostConfiguration) (user : ATCUser) : Bool :=
  match configuration.onboardingCoordinator with
  | some coordinator =>
    !coordinator.isFirebaseAuthEnabled || (coordinator.hasUserManager && user.uid.isSome)
  | none => false

/-- The event does not end in a blank screen or on top of another one. -/
def LeadsToScreen (app : App) : Event → Prop
  | .viewDidLoad => ∀ user uid, userIfLoggedInUser app.defaults = some user →
      user.uid = some uid →
      if faceIDEnabled app.defaults uid then app.configuration.canEvaluatePolicy = true
      else resyncAnswers app.configuration user = true
  | .walkthroughFinished => app.configuration.onboardingCoordinator ≠ none
  | .biometricReply index true => ∀ user rest,
      deliver app.biometricsInFlight index = some (user, rest) → app.subviews = [] →
      resyncAnswers app.configuration (app.users user) = true
  | .biometricReply _ false =>
      (app.configuration.onboardingCoordinator ≠ none → .loggedIn ∉ app.subviews) ∧
      (app.configuration.onboardingCoordinator = none → app.subviews ≠ [])
  | .logoutNotification =>
      app.configuration.onboardingCoordinator ≠ none → .walkthrough ∉ app.subviews
  | _ => True

/-- Nothing was requested and nobody delivers yet. -/
structure Untouched (app : App) : Prop where
  biometrics : app.biometricsInFlight = []
  resyncs : app.resyncsInFlight = []
  writes : app.writesInFlight = []
  delegate : app.coordinatorDelegate = false
  manager : app.locationManager = false

structure ScreenInvariant (configuration : ATCHostConfiguration) (app : App) : Prop where
  configured : app.configuration = configuration
  unloaded : app.viewLoaded = false → app.subviews = [] ∧ Untouched app
  shown : app.viewLoaded = true → app.subviews = [] →
    app.biometricsInFlight ≠ [] ∨ app.resyncsInFlight ≠ []
  alone : app.subviews.length ≤ 1
  one : app.biometricsInFlight.length + app.resyncsInFlight.length ≤ 1
  walkthrough : .walkthrough ∈ app.subviews → Untouched app
  delegate : app.coordinatorDelegate = true → configuration.onboardingCoordinator ≠ none
  onboarding : .onboarding ∈ app.subviews → configuration.onboardingCoordinator ≠ none
  resyncs : app.resyncsInFlight ≠ [] → app.coordinatorDelegate = true

/-- The handler installed one screen in place of whatever was there. -/
structure Showing (screen : Screen) (app next : App) : Prop where
  subviews : next.subviews = [screen]
  configuration : next.configuration = app.configuration
  viewLoaded : next.viewLoaded = app.viewLoaded
  trapped : next.trapped = app.trapped
  biometrics : next.biometricsInFlight = app.biometricsInFlight
  resyncs : next.resyncsInFlight = app.resyncsInFlight
  delegate : app.coordinatorDelegate = true → next.coordinatorDelegate = true
  delegated : next.coordinatorDelegate = true →
    app.coordinatorDelegate = true ∨ app.configuration.onboardingCoordinator ≠ none

section Handlers

variable {app next : App}

/-- Without the onboarding and the logged-in screen only the walkthrough is left. -/
theorem filter_screens_eq_nil {views : List Screen} (absent : .walkthrough ∉ views) :
    ((views.filter fun view => view ≠ .onboarding).filter fun view => view ≠ .loggedIn) = [] := by
  rw [List.filter_filter, List.filter_eq_nil_iff]
  intro view member
  cases view with
  | walkthrough => exact absurd member absent
  | onboarding => decide
  | loggedIn => decide

theorem presentLoggedIn_showing (absent : .walkthrough ∉ app.subviews)
    (onboarding : .onboarding ∈ app.subviews → app.configuration.onboardingCoordinator ≠ none)
    (h : presentLoggedInViewControllers app = .ok next) : Showing .loggedIn app next := by
  rw [presentLoggedIn_ok h]
  unfold removeOnboarding
  cases coordinator : app.configuration.onboardingCoordinator with
  | some _ =>
    refine ⟨?_, rfl, rfl, rfl, rfl, rfl, id, .inl⟩
    simp only [addChildViewControllerWithView, addSubview, removeChild,
      filter_screens_eq_nil absent, List.nil_append]
  | none =>
    have noOnboarding : .onboarding ∉ app.subviews :=
      fun member => onboarding member coordinator
    have same : (app.subviews.filter fun view => view ≠ .onboarding) = app.subviews := by
      refine List.filter_eq_self.mpr fun view member => ?_
      simpa using fun equal : view = .onboarding => noOnboarding (equal ▸ member)
    have cleared := filter_screens_eq_nil absent
    rw [same] at cleared
    refine ⟨?_, rfl, rfl, rfl, rfl, rfl, id, .inl⟩
    simp only [addChildViewControllerWithView, addSubview, cleared, List.nil_append]

theorem didFetchUser_showing (user : Option UserRef) (absent : .walkthrough ∉ app.subviews)
    (onboarding : .onboarding ∈ app.subviews → app.configuration.onboardingCoordinator ≠ none)
    (h : didFetchUser user app = .ok next) : Showing .loggedIn app next := by
  obtain ⟨shown, presented, rfl⟩ := didFetchUser_ok h
  have showing : Showing .loggedIn { app with user := user } shown :=
    presentLoggedIn_showing absent onboarding presented
  obtain ⟨subviews, configuration, viewLoaded, trapped, biometrics, resyncs, delegate,
    delegated⟩ := showing
  unfold startLocationUpdates
  cases user <;> split <;>
    exact ⟨subviews, configuration, viewLoaded, trapped, biometrics, resyncs, delegate, delegated⟩

theorem coordinatorDidDeliver_showing (user : Option UserRef)
    (delegated : app.coordinatorDelegate = true) (absent : .walkthrough ∉ app.subviews)
    (onboarding : .onboarding ∈ app.subviews → app.configuration.onboardingCoordinator ≠ none)
    (h : coordinatorDidDeliver user app = .ok next) : Showing .loggedIn app next := by
  rw [coordinatorDidDeliver, if_pos delegated] at h
  exact didFetchUser_showing user absent onboarding h

/-- The onboarding screen goes over nothing, or over itself. -/
theorem addOnboarding_showing (only : ∀ view ∈ app.subviews, view = .onboarding)
    (coordinator : app.configuration.onboardingCoordinator ≠ none) :
    Showing .onboarding app
      (addChildViewControllerWithView .onboarding (setCoordinatorDelegate app)) := by
  have cleared : (app.subviews.filter fun view => view ≠ .onboarding) = [] := by
    refine List.filter_eq_nil_iff.mpr fun view member => ?_
    simpa using only view member
  refine ⟨?_, rfl, rfl, rfl, rfl, rfl, ?_, fun _ => .inr coordinator⟩
  · simp only [addChildViewControllerWithView, addSubview, setCoordinatorDelegate, cleared,
      List.nil_append]
  · intro delegated
    simp [addChildViewControllerWithView, addSubview, setCoordinatorDelegate, delegated]

/-- A logout that the host answers with its onboarding. -/
theorem didRequestLogout_showing (absent : .walkthrough ∉ app.subviews)
    (coordinator : app.configuration.onboardingCoordinator ≠ none)
    (h : didRequestLogout app = .ok next) : Showing .onboarding app next := by
  unfold didRequestLogout at h
  split at h
  · split at h
    · cases h
      refine ⟨?_, rfl, rfl, rfl, rfl, rfl, ?_, ?_⟩
      · have cleared := filter_screens_eq_nil absent
        rw [List.filter_comm] at cleared
        simp only [addChildViewControllerWithView, addSubview, setCoordinatorDelegate, removeChild,
          cleared, List.nil_append]
      · intro delegated
        simp [addChildViewControllerWithView, addSubview, setCoordinatorDelegate, removeChild,
          delegated]
      · exact fun _ => .inr coordinator
    · cases h
  · rename_i none
    exact absurd none coordinator

/-- A resync that nobody answers. -/
theorem resync_silent (app : App) (user : UserRef)
    (silent : resyncAnswers app.configuration (app.users user) = false) :
    resyncPersistentCredentials user (setCoordinatorDelegate app) =
      .ok (setCoordinatorDelegate app) := by
  unfold resyncPersistentCredentials
  cases coordinator : app.configuration.onboardingCoordinator with
  | none => simp [setCoordinatorDelegate, coordinator]
  | some asked =>
    simp only [resyncAnswers, coordinator, Bool.or_eq_false_iff, Bool.not_eq_false',
      Bool.and_eq_false_iff] at silent
    obtain ⟨firebase, missing⟩ := silent
    simp only [setCoordinatorDelegate, coordinator, firebase, if_true]
    rcases missing with noManager | noUid
    · split <;> simp [noManager]
    · rw [Option.isSome_eq_false_iff, Option.isNone_iff_eq_none] at noUid
      simp [noUid]

/-- A resync that is answered: by the login manager later, or at once. -/
theorem resync_answered (app : App) (user : UserRef)
    (answers : resyncAnswers app.configuration (app.users user) = true) :
    ∃ asked, app.configuration.onboardingCoordinator = some asked ∧
      resyncPersistentCredentials user (setCoordinatorDelegate app) =
        if asked.isFirebaseAuthEnabled then
          .ok { setCoordinatorDelegate app with
            resyncsInFlight := app.resyncsInFlight ++ [user] }
        else
          coordinatorDidDeliver (some user) (setCoordinatorDelegate app) := by
  cases coordinator : app.configuration.onboardingCoordinator with
  | none => simp [resyncAnswers, coordinator] at answers
  | some asked =>
    refine ⟨asked, rfl, ?_⟩
    simp only [resyncAnswers, coordinator] at answers
    simp only [resyncPersistentCredentials, setCoordinatorDelegate, coordinator]
    cases firebase : asked.isFirebaseAuthEnabled with
    | false => rfl
    | true =>
      rw [firebase, Bool.not_true, Bool.false_or, Bool.and_eq_true] at answers
      obtain ⟨uid, hasUid⟩ := Option.isSome_iff_exists.mp answers.2
      simp only [hasUid, answers.1, if_true]

end Handlers

section Preservation

variable {c : ATCHostConfiguration} {app next : App}

/-- The invariant of a loaded host that does not show the walkthrough. -/
theorem screenInvariant_of_loaded (configured : app.configuration = c)
    (loaded : app.viewLoaded = true) (absent : .walkthrough ∉ app.subviews)
    (shown : app.subviews = [] → app.biometricsInFlight ≠ [] ∨ app.resyncsInFlight ≠ [])
    (alone : app.subviews.length ≤ 1)
    (one : app.biometricsInFlight.length + app.resyncsInFlight.length ≤ 1)
    (delegate : app.coordinatorDelegate = true → c.onboardingCoordinator ≠ none)
    (onboarding : .onboarding ∈ app.subviews → c.onboardingCoordinator ≠ none)
    (resyncs : app.resyncsInFlight ≠ [] → app.coordinatorDelegate = true) :
    ScreenInvariant c app where
  configured := configured
  unloaded unloaded := by
    rw [loaded] at unloaded
    cases unloaded
  shown _ := shown
  alone := alone
  one := one
  walkthrough member := absurd member absent
  delegate := delegate
  onboarding := onboarding
  resyncs := resyncs

/-- A screen other than the walkthrough was installed after the view had loaded. -/
theorem screenInvariant_of_showing {screen : Screen} (showing : Showing screen app next)
    (notWalkthrough : screen ≠ .walkthrough) (configured : app.configuration = c)
    (loaded : app.viewLoaded = true)
    (one : app.biometricsInFlight.length + app.resyncsInFlight.length ≤ 1)
    (delegate : app.coordinatorDelegate = true → c.onboardingCoordinator ≠ none)
    (onboarding : screen = .onboarding → c.onboardingCoordinator ≠ none)
    (resyncs : app.resyncsInFlight ≠ [] → app.coordinatorDelegate = true) :
    ScreenInvariant c next := by
  have only : ∀ view, view ∈ next.subviews → view = screen := by
    intro view member
    rw [showing.subviews] at member
    exact List.mem_singleton.mp member
  refine screenInvariant_of_loaded (showing.configuration.trans configured)
    (showing.viewLoaded.trans loaded) (fun member => notWalkthrough (only _ member).symm)
    ?_ ?_ ?_ ?_
    (fun member => onboarding (only _ member).symm) ?_
  · intro blank
    rw [showing.subviews] at blank
    cases blank
  · rw [showing.subviews, List.length_singleton]
  · rw [showing.biometrics, showing.resyncs]
    exact one
  · intro delegated
    rcases showing.delegated delegated with was | coordinator
    · exact delegate was
    · exact configured ▸ coordinator
  · intro pending
    rw [showing.resyncs] at pending
    exact showing.delegate (resyncs pending)

theorem ScreenInvariant.loaded_of_untouched (inv : ScreenInvariant c app)
    (touched : ¬ Untouched app) : app.viewLoaded = true ∧ .walkthrough ∉ app.subviews := by
  refine ⟨?_, fun member => touched (inv.walkthrough member)⟩
  cases loaded : app.viewLoaded with
  | true => rfl
  | false => exact absurd (inv.unloaded loaded).2 touched

theorem ScreenInvariant.only_of_mem (inv : ScreenInvariant c app) {screen : Screen}
    (installed : screen ∈ app.subviews) : app.subviews = [screen] := by
  obtain ⟨view, same⟩ := List.length_eq_one_iff.mp
    (Nat.le_antisymm inv.alone (List.length_pos_of_mem installed))
  rw [same, List.mem_singleton] at installed
  rw [same, ← installed]

/-- A screen is installed only after the view has loaded. -/
theorem ScreenInvariant.loaded_of_mem (inv : ScreenInvariant c app) {screen : Screen}
    (installed : screen ∈ app.subviews) : app.viewLoaded = true := by
  cases loaded : app.viewLoaded with
  | true => rfl
  | false => simp [(inv.unloaded loaded).1] at installed

/-- A biometric reply leaves nothing outstanding. -/
theorem ScreenInvariant.biometric_answered (inv : ScreenInvariant c app) {index : Nat}
    {user : UserRef} {rest : List UserRef}
    (answered : deliver app.biometricsInFlight index = some (user, rest)) :
    rest = [] ∧ app.resyncsInFlight = [] ∧ app.viewLoaded = true ∧
      .walkthrough ∉ app.subviews := by
  have length := deliver_length answered
  have one := inv.one
  have touched : ¬ Untouched app := by
    intro untouched
    simp [untouched.biometrics] at length
  exact ⟨List.eq_nil_of_length_eq_zero (by omega), List.eq_nil_of_length_eq_zero (by omega),
    inv.loaded_of_untouched touched⟩

/-- Nor does a resync reply, and it finds the coordinator with its delegate. -/
theorem ScreenInvariant.resync_answered (inv : ScreenInvariant c app) {index : Nat}
    {user : UserRef} {rest : List UserRef}
    (answered : deliver app.resyncsInFlight index = some (user, rest)) :
    rest = [] ∧ app.biometricsInFlight = [] ∧ app.coordinatorDelegate = true ∧
      app.viewLoaded = true ∧ .walkthrough ∉ app.subviews := by
  have length := deliver_length answered
  have one := inv.one
  have pending : app.resyncsInFlight ≠ [] := List.ne_nil_of_length_pos (by omega)
  exact ⟨List.eq_nil_of_length_eq_zero (by omega), List.eq_nil_of_length_eq_zero (by omega),
    inv.resyncs pending, inv.loaded_of_untouched fun untouched => pending untouched.resyncs⟩

/-- The invariant looks at the screens, the requests and the delegate only. -/
theorem ScreenInvariant.same (inv : ScreenInvariant c app)
    (configuration : next.configuration = app.configuration)
    (viewLoaded : next.viewLoaded = app.viewLoaded) (subviews : next.subviews = app.subviews)
    (biometrics : next.biometricsInFlight = app.biometricsInFlight)
    (resyncs : next.resyncsInFlight = app.resyncsInFlight)
    (writes : next.writesInFlight = app.writesInFlight)
    (delegate : next.coordinatorDelegate = app.coordinatorDelegate)
    (manager : next.locationManager = app.locationManager) : ScreenInvariant c next := by
  have untouched : Untouched app → Untouched next := by
    rintro ⟨h₁, h₂, h₃, h₄, h₅⟩
    exact ⟨biometrics.trans h₁, resyncs.trans h₂, writes.trans h₃, delegate.trans h₄,
      manager.trans h₅⟩
  refine ⟨configuration.trans inv.configured, ?_, ?_, ?_, ?_, ?_, ?_, ?_, ?_⟩
  · intro unloaded
    obtain ⟨blank, nothing⟩ := inv.unloaded (viewLoaded.symm.trans unloaded)
    exact ⟨subviews.trans blank, untouched nothing⟩
  · rw [viewLoaded, subviews, biometrics, resyncs]
    exact inv.shown
  · rw [subviews]
    exact inv.alone
  · rw [biometrics, resyncs]
    exact inv.one
  · rw [subviews]
    exact fun member => untouched (inv.walkthrough member)
  · rw [delegate]
    exact inv.delegate
  · rw [subviews]
    exact inv.onboarding
  · rw [resyncs, delegate]
    exact inv.resyncs

theorem screenInvariant_new (defaults : UserDefaults) (users : UserRef → ATCUser) :
    ScreenInvariant c (new c defaults users) where
  configured := rfl
  unloaded _ := ⟨rfl, rfl, rfl, rfl, rfl, rfl⟩
  shown loaded := by cases loaded
  alone := Nat.zero_le _
  one := Nat.zero_le _
  walkthrough member := by cases member
  delegate delegated := by cases delegated
  onboarding member := by cases member
  resyncs pending := absurd rfl pending

theorem setCoordinatorDelegate_delegated (delegate : app.coordinatorDelegate = true →
      app.configuration.onboardingCoordinator ≠ none)
    (h : (setCoordinatorDelegate app).coordinatorDelegate = true) :
    app.configuration.onboardingCoordinator ≠ none := by
  rcases Bool.or_eq_true_iff.mp h with was | coordinator
  · exact delegate was
  · exact Option.isSome_iff_ne_none.mp coordinator

/-- A resync that is asked for when nothing else is outstanding. -/
theorem screenInvariant_resync (app : App) (user : UserRef) (configured : app.configuration = c)
    (loaded : app.viewLoaded = true) (absent : .walkthrough ∉ app.subviews)
    (alone : app.subviews.length ≤ 1) (biometrics : app.biometricsInFlight = [])
    (resyncs : app.resyncsInFlight = [])
    (delegate : app.coordinatorDelegate = true → c.onboardingCoordinator ≠ none)
    (onboarding : .onboarding ∈ app.subviews → c.onboardingCoordinator ≠ none)
    (answers : app.subviews = [] → resyncAnswers app.configuration (app.users user) = true)
    (h : resyncPersistentCredentials user (setCoordinatorDelegate app) = .ok next) :
    ScreenInvariant c next := by
  subst configured
  cases silent : resyncAnswers app.configuration (app.users user) with
  | false =>
    rw [resync_silent app user silent] at h
    cases h
    refine screenInvariant_of_loaded rfl loaded absent ?_ alone ?_
      (setCoordinatorDelegate_delegated delegate) onboarding ?_
    · intro blank
      rw [answers blank] at silent
      cases silent
    · simp [setCoordinatorDelegate, biometrics, resyncs]
    · exact fun pending => absurd resyncs pending
  | true =>
    obtain ⟨asked, coordinator, answered⟩ := resync_answered app user silent
    have delegated : (setCoordinatorDelegate app).coordinatorDelegate = true := by
      simp [setCoordinatorDelegate, coordinator]
    rw [answered] at h
    split at h
    · cases h
      refine screenInvariant_of_loaded rfl loaded absent (fun _ => .inr (by simp)) alone ?_
        (setCoordinatorDelegate_delegated delegate) onboarding (fun _ => delegated)
      simp [setCoordinatorDelegate, biometrics, resyncs]
    · have showing := coordinatorDidDeliver_showing (some user) delegated absent onboarding h
      refine screenInvariant_of_showing showing (by decide) rfl loaded ?_
        (setCoordinatorDelegate_delegated delegate) (fun h => by cases h) ?_
      · simp [setCoordinatorDelegate, biometrics, resyncs]
      · exact fun pending => absurd resyncs pending

/-- A persisted user is asked for a fingerprint or resynced. -/
theorem screenInvariant_persisted (inv : ScreenInvariant c app)
    (unloaded : app.viewLoaded = false) (leads : LeadsToScreen app .viewDidLoad)
    {user : ATCUser} (persisted : userIfLoggedInUser app.defaults = some user)
    (h : viewDidLoad app = .ok next) : ScreenInvariant c next := by
  obtain ⟨blank, biometrics, resyncs, -⟩ := inv.unloaded unloaded
  have absent : Screen.walkthrough ∉ app.subviews := by simp [blank]
  obtain ⟨uid, hasUid⟩ := uid_of_userIfLoggedInUser persisted
  have leads := leads user uid persisted hasUid
  rw [viewDidLoad_persisted persisted hasUid] at h
  cases faceID : faceIDEnabled app.defaults uid with
  | true =>
    rw [faceID, if_pos rfl] at leads h
    cases h
    have asked : biometricauthentication app.nextUser
        (allocate user { app with viewLoaded := true }).2 =
        { (allocate user { app with viewLoaded := true }).2 with
          biometricsInFlight := [app.nextUser] } := by
      simp [biometricauthentication, allocate, leads, biometrics]
    rw [asked]
    refine screenInvariant_of_loaded inv.configured rfl absent (fun _ => .inl (by simp)) inv.alone
      ?_ inv.delegate inv.onboarding inv.resyncs
    simp [allocate, resyncs]
  | false =>
    rw [faceID, if_neg (by decide)] at leads h
    refine screenInvariant_resync (allocate user { app with viewLoaded := true }).2 app.nextUser
      inv.configured rfl absent inv.alone biometrics resyncs inv.delegate inv.onboarding ?_ h
    intro _
    simpa [allocate] using leads

/-- Without a persisted user the first screen is shown at once. -/
theorem screenInvariant_fresh (inv : ScreenInvariant c app) (unloaded : app.viewLoaded = false)
    (fresh : userIfLoggedInUser app.defaults = none) (h : viewDidLoad app = .ok next) :
    ScreenInvariant c next := by
  obtain ⟨blank, biometrics, resyncs, writes, delegate, manager⟩ := inv.unloaded unloaded
  have noView : ∀ screen : Screen, screen ∉ app.subviews := by simp [blank]
  have configured := inv.configured
  rw [viewDidLoad_fresh fresh] at h
  split at h
  · cases h
    refine ⟨configured, ?_, ?_, ?_, inv.one, ?_, inv.delegate, ?_, inv.resyncs⟩
    · intro unloaded
      cases unloaded
    · intro _ nothing
      simp [addChildViewControllerWithView, addSubview] at nothing
    · simp [addChildViewControllerWithView, addSubview, blank]
    · intro _
      exact ⟨biometrics, resyncs, writes, delegate, manager⟩
    · intro member
      simp [addChildViewControllerWithView, addSubview, blank] at member
  · split at h
    · rename_i coordinator present
      cases h
      have isSome : app.configuration.onboardingCoordinator ≠ none := by simp [present]
      have showing : Showing .onboarding { app with viewLoaded := true }
          (addChildViewControllerWithView .onboarding
            (setCoordinatorDelegate { app with viewLoaded := true })) :=
        addOnboarding_showing (fun view member => absurd member (noView view)) isSome
      exact screenInvariant_of_showing showing (by decide) configured rfl inv.one inv.delegate
        (fun _ => configured ▸ isSome) inv.resyncs
    · rename_i none
      have showing : Showing .loggedIn { app with viewLoaded := true } next :=
        presentLoggedIn_showing (noView _) (fun member => absurd member (noView _)) h
      exact screenInvariant_of_showing showing (by decide) configured rfl inv.one inv.delegate
        (fun h => by cases h) inv.resyncs

theorem screenInvariant_viewDidLoad (inv : ScreenInvariant c app)
    (unloaded : app.viewLoaded = false) (leads : LeadsToScreen app .viewDidLoad)
    (h : viewDidLoad app = .ok next) : ScreenInvariant c next := by
  cases persisted : userIfLoggedInUser app.defaults with
  | some user => exact screenInvariant_persisted inv unloaded leads persisted h
  | none => exact screenInvariant_fresh inv unloaded persisted h

theorem screenInvariant_walkthroughFinished (inv : ScreenInvariant c app)
    (installed : .walkthrough ∈ app.subviews) (leads : LeadsToScreen app .walkthroughFinished)
    (h : walkthroughViewControllerDidFinishFlow app = .ok next) : ScreenInvariant c next := by
  have untouched := inv.walkthrough installed
  have loaded := inv.loaded_of_mem installed
  have only := inv.only_of_mem installed
  unfold walkthroughViewControllerDidFinishFlow at h
  dsimp only at h
  split at h
  · rename_i coordinator present
    cases h
    refine screenInvariant_of_loaded inv.configured loaded ?_ ?_ ?_ inv.one ?_ ?_ ?_
    · simp [addSubview, setCoordinatorDelegate, only]
    · simp [addSubview]
    · simp [addSubview, setCoordinatorDelegate, only]
    · exact fun _ => inv.configured ▸ (by simp [present])
    · exact fun _ => inv.configured ▸ (by simp [present])
    · exact fun pending => absurd untouched.resyncs pending
  · rename_i none
    exact absurd none leads

theorem screenInvariant_biometricReply (inv : ScreenInvariant c app) (index : Nat)
    (success : Bool) (user : UserRef) (rest : List UserRef)
    (answered : deliver app.biometricsInFlight index = some (user, rest))
    (leads : LeadsToScreen app (.biometricReply index success))
    (h : biometricReply user success { app with biometricsInFlight := rest } = .ok next) :
    ScreenInvariant c next := by
  obtain ⟨noRest, noResync, loaded, absent⟩ := inv.biometric_answered answered
  cases success with
  | true =>
    simp only [biometricReply, if_true] at h
    exact screenInvariant_resync { app with biometricsInFlight := rest } user inv.configured loaded
      absent inv.alone noRest noResync inv.delegate inv.onboarding (leads user rest answered) h
  | false =>
    simp only [biometricReply, Bool.false_eq_true, if_false] at h
    obtain ⟨noLoggedIn, notBlank⟩ := leads
    split at h
    · rename_i coordinator present
      have isSome : app.configuration.onboardingCoordinator ≠ none := by simp [present]
      cases h
      have only : ∀ view ∈ app.subviews, view = Screen.onboarding := by
        intro view member
        cases view with
        | onboarding => rfl
        | walkthrough => exact absurd member absent
        | loggedIn => exact absurd member (noLoggedIn isSome)
      have showing : Showing .onboarding { app with biometricsInFlight := rest }
          (addChildViewControllerWithView .onboarding
            (setCoordinatorDelegate { app with biometricsInFlight := rest })) :=
        addOnboarding_showing only isSome
      refine screenInvariant_of_showing showing (by decide) inv.configured loaded ?_ inv.delegate
        (fun _ => inv.configured ▸ isSome) inv.resyncs
      simp [noRest, noResync]
    · rename_i none
      cases h
      refine screenInvariant_of_loaded inv.configured loaded absent ?_ inv.alone ?_ inv.delegate
        inv.onboarding inv.resyncs
      · exact fun blank => absurd blank (notBlank none)
      · simp [noRest, noResync]

theorem screenInvariant_resyncReply (inv : ScreenInvariant c app) (index : Nat)
    (newUser : Option ATCUser) (user : UserRef) (rest : List UserRef)
    (answered : deliver app.resyncsInFlight index = some (user, rest))
    (h : resyncPersistentUserCompletion user newUser { app with resyncsInFlight := rest } =
      .ok next) : ScreenInvariant c next := by
  obtain ⟨noRest, noBiometrics, delegated, loaded, absent⟩ := inv.resync_answered answered
  have coordinator := inv.delegate delegated
  have onboarding : .onboarding ∈ app.subviews →
      app.configuration.onboardingCoordinator ≠ none := fun _ => inv.configured ▸ coordinator
  have shows : ∀ screen : Screen, screen ≠ .walkthrough →
      Showing screen { app with resyncsInFlight := rest } next → ScreenInvariant c next := by
    intro screen notWalkthrough showing
    refine screenInvariant_of_showing showing notWalkthrough inv.configured loaded ?_ inv.delegate
      (fun _ => coordinator) (fun more => absurd noRest more)
    simp [noRest, noBiometrics]
  cases newUser with
  | some newUser =>
    have showing : Showing .loggedIn
        (allocate newUser { app with resyncsInFlight := rest }).2 next :=
      coordinatorDidDeliver_showing _ delegated absent onboarding h
    exact shows .loggedIn (by decide) ⟨showing.subviews, showing.configuration, showing.viewLoaded,
      showing.trapped, showing.biometrics, showing.resyncs, showing.delegate, showing.delegated⟩
  | none =>
    simp only [resyncPersistentUserCompletion] at h
    split at h
    · exact shows .loggedIn (by decide)
        (coordinatorDidDeliver_showing (some user) delegated absent onboarding h)
    · exact shows .onboarding (by decide)
        (didRequestLogout_showing absent (inv.configured ▸ coordinator) h)

/-- A delivery by the coordinator that is no reply. -/
theorem screenInvariant_deliver (inv : ScreenInvariant c app) (user : Option UserRef)
    (h : coordinatorDidDeliver user app = .ok next) : ScreenInvariant c next := by
  cases delegated : app.coordinatorDelegate with
  | false =>
    rw [coordinatorDidDeliver, delegated, if_neg (by decide)] at h
    cases h
    exact inv
  | true =>
    obtain ⟨loaded, absent⟩ := inv.loaded_of_untouched fun untouched => by
      simp [untouched.delegate] at delegated
    have showing := coordinatorDidDeliver_showing user delegated absent
      (fun _ => inv.configured ▸ inv.delegate delegated) h
    exact screenInvariant_of_showing showing (by decide) inv.configured loaded inv.one inv.delegate
      (fun h => by cases h) inv.resyncs

theorem screenInvariant_loginCompleted (inv : ScreenInvariant c app) (user : Option ATCUser)
    (h : loginCompleted user app = .ok next) : ScreenInvariant c next := by
  cases user with
  | some user =>
    have allocated : ScreenInvariant c (allocate user app).2 :=
      inv.same rfl rfl rfl rfl rfl rfl rfl rfl
    exact screenInvariant_deliver allocated _ h
  | none => exact screenInvariant_deliver inv none h

theorem screenInvariant_logout (inv : ScreenInvariant c app) (loaded : app.viewLoaded = true)
    (leads : LeadsToScreen app .logoutNotification) (h : didRequestLogout app = .ok next) :
    ScreenInvariant c next := by
  cases coordinator : app.configuration.onboardingCoordinator with
  | none =>
    simp only [didRequestLogout, coordinator] at h
    cases h
    exact inv.same rfl rfl rfl rfl rfl rfl rfl rfl
  | some asked =>
    have isSome : app.configuration.onboardingCoordinator ≠ none := by simp [coordinator]
    have showing := didRequestLogout_showing (leads isSome) isSome h
    exact screenInvariant_of_showing showing (by decide) inv.configured loaded inv.one inv.delegate
      (fun _ => inv.configured ▸ isSome) inv.resyncs

theorem screenInvariant_locationFix (inv : ScreenInvariant c app) (location : ATCLocation)
    (manager : app.locationManager = true) (h : didReceiveLocation location app = .ok next) :
    ScreenInvariant c next := by
  obtain ⟨loaded, absent⟩ := inv.loaded_of_untouched fun untouched => by
    simp [untouched.manager] at manager
  have updated : ∀ user, ScreenInvariant c (updateLocation user location app) := by
    intro user
    unfold updateLocation
    split
    · exact inv
    · split
      · exact screenInvariant_of_loaded inv.configured loaded absent (inv.shown loaded) inv.alone
          inv.one inv.delegate inv.onboarding inv.resyncs
      · exact inv
  unfold didReceiveLocation at h
  split at h
  · split at h
    · split at h
      · cases h
        exact updated _
      · cases h
        exact inv
    · cases h
  · cases h
    exact inv

theorem screenInvariant_locationWrite (inv : ScreenInvariant c app) (index : Nat)
    (success : Bool) (user : UserRef) (location : ATCLocation)
    (rest : List (UserRef × ATCLocation))
    (answered : deliver app.writesInFlight index = some ((user, location), rest)) :
    ScreenInvariant c
      (locationWriteCompletion user location success { app with writesInFlight := rest }) := by
  have length := deliver_length answered
  obtain ⟨loaded, absent⟩ := inv.loaded_of_untouched fun untouched => by
    simp [untouched.writes] at length
  have shown := inv.shown loaded
  cases success with
  | false =>
    exact screenInvariant_of_loaded inv.configured loaded absent shown inv.alone inv.one
      inv.delegate inv.onboarding inv.resyncs
  | true =>
    refine screenInvariant_of_loaded inv.configured loaded absent shown inv.alone inv.one ?_
      inv.onboarding ?_
    · intro delegated
      exact inv.configured ▸ setCoordinatorDelegate_delegated
        (fun was => inv.configured ▸ inv.delegate was) delegated
    · intro pending
      have was := inv.resyncs pending
      simp [locationWriteCompletion, ATCHostViewController.markUserAsLoggedIn,
        setCoordinatorDelegate, was]

theorem screenInvariant_step (app : App) (e : Event) (next : App) (inv : ScreenInvariant c app)
    (taken : step app e = some next) (leads : LeadsToScreen app e) : ScreenInvariant c next := by
  have trapped : ∀ trap, ScreenInvariant c { app with trapped := some trap } :=
    fun _ => inv.same rfl rfl rfl rfl rfl rfl rfl rfl
  obtain ⟨-, handled⟩ := step_cases taken
  cases handled with
  | viewDidLoad unloaded =>
    exact settle_spec _ trapped fun next => screenInvariant_viewDidLoad inv unloaded leads
  | walkthroughFinished delegated installed =>
    exact settle_spec _ trapped fun next => screenInvariant_walkthroughFinished inv installed leads
  | biometricReply index success user rest answered =>
    exact settle_spec _ trapped fun next =>
      screenInvariant_biometricReply inv index success user rest answered leads
  | resyncReply index newUser user rest answered =>
    exact settle_spec _ trapped fun next =>
      screenInvariant_resyncReply inv index newUser user rest answered
  | loginCompleted user coordinator =>
    exact settle_spec _ trapped fun next => screenInvariant_loginCompleted inv user
  | logoutNotification loaded =>
    exact settle_spec _ trapped fun next => screenInvariant_logout inv loaded leads
  | logoutUnobserved unloaded => exact inv
  | locationFix location manager =>
    exact settle_spec _ trapped fun next => screenInvariant_locationFix inv location manager
  | locationWriteReply index success user location rest answered =>
    exact screenInvariant_locationWrite inv index success user location rest answered

end Preservation

end FinanciaApp.Guarantees
