import FinanciaApp.Guarantees.HostScreenInvariant

/-!
# One screen at a time

Whenever no biometric and no resync reply is outstanding, the host should show exactly
one of its three screens. It does along exactly the runs in which every event leads to
a screen: the invariant of `HostScreenInvariant` gives one direction, and for the other
each event that does not lead to a screen leaves none or two.
-/

set_option autoImplicit false

namespace FinanciaApp.Guarantees

open Library Source Source.ATCHostViewController ATCPersistentStore

/-- With no reply outstanding, a loaded host that is still running shows one screen. -/
def OneScreen (app : App) : Prop :=
  app.trapped = none → app.viewLoaded = true → app.biometricsInFlight = [] →
    app.resyncsInFlight = [] → app.subviews.length = 1

variable {c : ATCHostConfiguration} {app : App}

/-- Under the invariant, one screen is what is left when a state is not blank. -/
theorem ScreenInvariant.oneScreen (inv : ScreenInvariant c app) : OneScreen app := by
  intro _ loaded biometrics resyncs
  have notBlank : app.subviews ≠ [] := by
    intro blank
    rcases inv.shown loaded blank with pending | pending
    · exact pending biometrics
    · exact pending resyncs
  have positive := List.length_pos_iff.mpr notBlank
  have atMost := inv.alone
  omega

section Necessity

theorem leadsToScreen_viewDidLoad (inv : ScreenInvariant c app) (running : app.trapped = none)
    (unloaded : app.viewLoaded = false) (one : OneScreen (app.settle (viewDidLoad app))) :
    LeadsToScreen app .viewDidLoad := by
  obtain ⟨blank, biometrics, resyncs, -⟩ := inv.unloaded unloaded
  intro user uid persisted hasUid
  rw [viewDidLoad_persisted persisted hasUid] at one
  have nothing : app.subviews.length ≠ 1 := by simp [blank]
  cases faceID : faceIDEnabled app.defaults uid with
  | true =>
    rw [if_pos rfl]
    rw [faceID, if_pos rfl] at one
    by_contra blocked
    have unasked : biometricauthentication app.nextUser
        (allocate user { app with viewLoaded := true }).2 =
        (allocate user { app with viewLoaded := true }).2 := by
      simp [biometricauthentication, allocate, blocked]
    rw [unasked] at one
    exact nothing (one running rfl biometrics resyncs)
  | false =>
    rw [if_neg (by decide)]
    rw [faceID, if_neg (by decide)] at one
    by_contra silent
    rw [resync_silent (allocate user { app with viewLoaded := true }).2 app.nextUser
      (by simpa [allocate] using silent)] at one
    exact nothing (one running rfl biometrics resyncs)

theorem leadsToScreen_walkthroughFinished (inv : ScreenInvariant c app)
    (controller : hasLoggedInController c = true) (running : app.trapped = none)
    (installed : .walkthrough ∈ app.subviews)
    (one : OneScreen (app.settle (walkthroughViewControllerDidFinishFlow app))) :
    LeadsToScreen app .walkthroughFinished := by
  intro coordinator
  have untouched := inv.walkthrough installed
  have only := inv.only_of_mem installed
  have loaded := inv.loaded_of_mem installed
  rw [← inv.configured] at controller
  simp only [walkthroughViewControllerDidFinishFlow, coordinator, presentLoggedInViewControllers,
    controller, if_true, removeOnboarding, App.settle] at one
  have shown := one running loaded untouched.biometrics untouched.resyncs
  simp [addChildViewControllerWithView, addSubview, only] at shown

theorem leadsToScreen_biometricReply (inv : ScreenInvariant c app) (running : app.trapped = none)
    (index : Nat) (success : Bool) (user : UserRef) (rest : List UserRef)
    (answered : deliver app.biometricsInFlight index = some (user, rest))
    (one : OneScreen
      (app.settle (biometricReply user success { app with biometricsInFlight := rest }))) :
    LeadsToScreen app (.biometricReply index success) := by
  obtain ⟨noRest, noResync, loaded, -⟩ := inv.biometric_answered answered
  cases success with
  | true =>
    intro user' rest' answered' blank
    rw [answered] at answered'
    cases answered'
    by_contra silent
    rw [biometricReply, if_pos rfl,
      resync_silent { app with biometricsInFlight := rest } user (by simpa using silent)] at one
    have shown : app.subviews.length = 1 := one running loaded noRest noResync
    simp [blank] at shown
  | false =>
    constructor
    · intro isSome installed
      have only := inv.only_of_mem installed
      obtain ⟨coordinator, present⟩ := Option.ne_none_iff_exists'.mp isSome
      simp only [biometricReply, Bool.false_eq_true, if_false, present, App.settle] at one
      have shown := one running loaded noRest noResync
      simp [addChildViewControllerWithView, addSubview, setCoordinatorDelegate, only] at shown
    · intro none blank
      simp only [biometricReply, Bool.false_eq_true, if_false, none, App.settle] at one
      have shown : app.subviews.length = 1 := one running loaded noRest noResync
      simp [blank] at shown

theorem leadsToScreen_logout (inv : ScreenInvariant c app)
    (controller : hasLoggedInController c = true) (running : app.trapped = none)
    (loaded : app.viewLoaded = true) (one : OneScreen (app.settle (didRequestLogout app))) :
    LeadsToScreen app .logoutNotification := by
  intro isSome installed
  have untouched := inv.walkthrough installed
  have only := inv.only_of_mem installed
  obtain ⟨coordinator, present⟩ := Option.ne_none_iff_exists'.mp isSome
  rw [← inv.configured] at controller
  simp only [didRequestLogout, present, controller, if_true, App.settle] at one
  have shown := one running loaded untouched.biometrics untouched.resyncs
  simp [addChildViewControllerWithView, addSubview, setCoordinatorDelegate, removeChild, only]
    at shown

theorem leadsToScreen_of_oneScreen (app : App) (e : Event) (next : App)
    (inv : ScreenInvariant c app) (controller : hasLoggedInController c = true)
    (taken : step app e = some next) (one : OneScreen next) : LeadsToScreen app e := by
  obtain ⟨running, handled⟩ := step_cases taken
  cases handled with
  | viewDidLoad unloaded => exact leadsToScreen_viewDidLoad inv running unloaded one
  | walkthroughFinished delegated installed =>
    exact leadsToScreen_walkthroughFinished inv controller running installed one
  | biometricReply index success user rest answered =>
    exact leadsToScreen_biometricReply inv running index success user rest answered one
  | resyncReply index newUser user rest answered => trivial
  | loginCompleted user coordinator => trivial
  | logoutNotification loaded => exact leadsToScreen_logout inv controller running loaded one
  | logoutUnobserved unloaded =>
    intro _ installed
    simp [(inv.unloaded unloaded).1] at installed
  | locationFix location manager => trivial
  | locationWriteReply index success user location rest answered => trivial

end Necessity

/-- Whatever the configuration and the persisted state: along a run whose events all lead
to a screen, exactly one screen is installed in every state without an outstanding
reply. Where the logged-in controller exists, so that no handler traps on it, such runs
are the only ones. -/
theorem one_screen_installed (configuration : ATCHostConfiguration) (defaults : UserDefaults)
    (users : UserRef → ATCUser) (es : List Event) :
    (AlongRun step (fun app e _ => LeadsToScreen app e) (new configuration defaults users) es →
      AlongRun step (fun _ _ next => OneScreen next) (new configuration defaults users) es) ∧
    (hasLoggedInController configuration = true →
      (AlongRun step (fun _ _ next => OneScreen next) (new configuration defaults users) es ↔
        AlongRun step (fun app e _ => LeadsToScreen app e)
          (new configuration defaults users) es)) := by
  have start : ScreenInvariant configuration (new configuration defaults users) :=
    screenInvariant_new defaults users
  constructor
  · refine alongRun_of_invariant (ScreenInvariant configuration) ?_ start
    intro app e next inv taken leads
    have kept := screenInvariant_step app e next inv taken leads
    exact ⟨kept, kept.oneScreen⟩
  · intro controller
    refine alongRun_iff_of_invariant (ScreenInvariant configuration) ?_ screenInvariant_step start
    intro app e next inv taken
    constructor
    · exact leadsToScreen_of_oneScreen app e next inv controller taken
    · intro leads
      exact (screenInvariant_step app e next inv taken leads).oneScreen

/-- A persisted user with face ID switched on, on a device without biometric hardware, is
left on a blank screen. -/
theorem blank_screen_without_biometrics :
    ¬ ∀ (configuration : ATCHostConfiguration) (defaults : UserDefaults)
        (users : UserRef → ATCUser) (es : List Event),
      AlongRun step (fun _ _ next => OneScreen next) (new configuration defaults users) es := by
  intro claim
  have bad :=
    (claim sampleConfiguration faceIDDefaults (fun _ => sampleUser) [.viewDidLoad] _ rfl).1
  exact absurd (bad rfl rfl rfl rfl) (by decide)

end FinanciaApp.Guarantees
