import FinanciaApp.Guarantees.OnboardingManagers
import FinanciaApp.Library.Composition

/-!
# Completed logins reach the host

`ATCOnboardingCoordinator.swift:78-204`. The coordinator, its screens and the host together are
matched by the host alone: a run of all of them is a run of the host with its own events and one
`loginCompleted` for each login and sign-up that a manager completes, in their order; a login is
one with an e-mail or a phone number, or with Facebook or Apple. So what holds of every run of the
host holds of it behind the onboarding screens. The navigation controller never gets a view
controller twice, and only the two screens of the configured kind ever complete anything.
-/

set_option autoImplicit false

namespace FinanciaApp.Guarantees

open Library Source Source.Onboarding

/-- The events of the host that a step of the whole makes. -/
def hostEvents (s : System) (e : Event) (t : System) : List ATCHostViewController.Event :=
  let logins (before after : List (Option ATCUser)) : List ATCHostViewController.Event :=
    (after.drop before.length).map .loginCompleted
  match e with
  | .host e => [e]
  | .login _ => logins s.login.completions t.login.completions
  | .phoneLogin _ => logins s.phoneLogin.completions t.phoneLogin.completions
  | .signUp _ => logins s.signUp.completions t.signUp.completions
  | .phoneSignUp _ => logins s.phoneSignUp.completions t.phoneSignUp.completions
  | .socialLogin _ => logins s.login.completions t.login.completions
  | .phoneSocialLogin _ => logins s.phoneLogin.completions t.phoneLogin.completions
  | _ => []

def loginOf : ATCHostViewController.Event → Option (Option ATCUser)
  | .loginCompleted user => some user
  | _ => none

theorem filterMap_loginOf_map (users : List (Option ATCUser)) :
    (users.map ATCHostViewController.Event.loginCompleted).filterMap loginOf = users := by
  rw [List.filterMap_map]
  exact List.filterMap_some

/-- The completed logins and sign-ups of each manager. -/
def completionsOf (s : System) : List (List (Option ATCUser)) :=
  [s.login.completions, s.phoneLogin.completions, s.signUp.completions,
    s.phoneSignUp.completions]

/-- The event of the host itself, if it is one. -/
def ownHostEvent : Event → Option ATCHostViewController.Event
  | .host e => some e
  | _ => none

section Steps

variable {configuration : Configuration} {predicates : TextPredicates} {s t : System} {e : Event}

/-- Navigation leaves the host and the managers alone. -/
structure SameManagers (s t : System) : Prop where
  host : t.host = s.host
  login : t.login = s.login
  phoneLogin : t.phoneLogin = s.phoneLogin
  signUp : t.signUp = s.signUp
  phoneSignUp : t.phoneSignUp = s.phoneSignUp
  socialLogin : t.socialLogin = s.socialLogin
  phoneSocialLogin : t.phoneSocialLogin = s.phoneSocialLogin

theorem sameManagers_push (s : System) (screen : Onboarding.Screen) :
    SameManagers s (s.pushViewController screen) := by
  unfold System.pushViewController
  split <;> exact ⟨rfl, rfl, rfl, rfl, rfl, rfl, rfl⟩

theorem sameManagers_pop (s : System) : SameManagers s s.popViewController := by
  unfold System.popViewController
  split <;> exact ⟨rfl, rfl, rfl, rfl, rfl, rfl, rfl⟩

theorem SameManagers.completions (same : SameManagers s t) : completionsOf t = completionsOf s := by
  unfold completionsOf
  rw [same.login, same.phoneLogin, same.signUp, same.phoneSignUp]

/-- A step of the whole is a run of the host. -/
theorem host_matched (h : step configuration predicates s e = some t) :
    run ATCHostViewController.step s.host (hostEvents s e t) = some t.host := by
  obtain ⟨-, -, effect⟩ := step_cases h
  cases effect with
  | host e host noLogin taken => simp [hostEvents, run, taken]
  | landingDidTapLogIn shown => exact congrArg some (sameManagers_push s _).host.symm
  | landingDidTapSignUp shown => exact congrArg some (sameManagers_push s _).host.symm
  | didTapForgotPassword shown => exact congrArg some (sameManagers_push s _).host.symm
  | didResetPassword => exact congrArg some (sameManagers_pop s).host.symm
  | didTapBack => exact congrArg some (sameManagers_pop s).host.symm
  | didSelectCountryCode phoneCode shown => rfl
  | login e login host allowed taken delivered => exact delivered
  | phoneLogin e phoneLogin host allowed taken delivered => exact delivered
  | signUp e signUp host allowed taken delivered => exact delivered
  | phoneSignUp e phoneSignUp host allowed taken delivered => exact delivered
  | socialLogin e requests outcome host allowed taken delivered => exact delivered
  | phoneSocialLogin e requests outcome host allowed taken delivered => exact delivered

theorem drop_of_grows {brought : List String} {completions completions' : List (Option ATCUser)}
    {fetches fetches' : List ATCUser}
    (grows : Grows brought completions fetches completions' fetches') :
    completions' = completions ++ completions'.drop completions.length := by
  obtain ⟨more, rfl, -⟩ := grows.completed
  rw [List.drop_left]

/-- Each new completion of a manager is the next login of the host. -/
theorem interleaves_step (h : step configuration predicates s e = some t)
    {events : List ATCHostViewController.Event}
    (interleaved : Interleaves (completionsOf s) (events.filterMap loginOf)) :
    Interleaves (completionsOf t) ((events ++ hostEvents s e t).filterMap loginOf) := by
  obtain ⟨-, -, effect⟩ := step_cases h
  rw [List.filterMap_append]
  cases effect with
  | host e host noLogin taken =>
    have none : loginOf e = none := by
      cases e with
      | loginCompleted user => exact absurd rfl (noLogin user)
      | _ => rfl
    simp only [hostEvents, List.filterMap_cons_none none, List.filterMap_nil, List.append_nil]
    exact interleaved
  | landingDidTapLogIn shown =>
    rw [(sameManagers_push s _).completions]
    simpa only [hostEvents, List.filterMap_nil, List.append_nil] using interleaved
  | landingDidTapSignUp shown =>
    rw [(sameManagers_push s _).completions]
    simpa only [hostEvents, List.filterMap_nil, List.append_nil] using interleaved
  | didTapForgotPassword shown =>
    rw [(sameManagers_push s _).completions]
    simpa only [hostEvents, List.filterMap_nil, List.append_nil] using interleaved
  | didResetPassword =>
    rw [(sameManagers_pop s).completions]
    simpa only [hostEvents, List.filterMap_nil, List.append_nil] using interleaved
  | didTapBack =>
    rw [(sameManagers_pop s).completions]
    simpa only [hostEvents, List.filterMap_nil, List.append_nil] using interleaved
  | didSelectCountryCode phoneCode shown =>
    simp only [hostEvents, List.filterMap_nil, List.append_nil]
    exact interleaved
  | login e login host allowed taken delivered =>
    simp only [hostEvents, filterMap_loginOf_map, completionsOf]
    rw [drop_of_grows (grows_login taken), List.drop_left]
    exact interleaves_append [] _ _ interleaved
  | phoneLogin e phoneLogin host allowed taken delivered =>
    simp only [hostEvents, filterMap_loginOf_map, completionsOf]
    rw [drop_of_grows (grows_phoneLogin taken), List.drop_left]
    exact interleaves_append [_] _ _ interleaved
  | signUp e signUp host allowed taken delivered =>
    simp only [hostEvents, filterMap_loginOf_map, completionsOf]
    rw [drop_of_grows (grows_signUp taken), List.drop_left]
    exact interleaves_append [_, _] _ _ interleaved
  | phoneSignUp e phoneSignUp host allowed taken delivered =>
    simp only [hostEvents, filterMap_loginOf_map, completionsOf]
    rw [drop_of_grows (grows_phoneSignUp taken), List.drop_left]
    exact interleaves_append [_, _, _] _ _ interleaved
  | socialLogin e requests outcome host allowed taken delivered =>
    simp only [hostEvents, filterMap_loginOf_map, completionsOf, login_handle_completions,
      List.drop_left]
    exact interleaves_append [] _ _ interleaved
  | phoneSocialLogin e requests outcome host allowed taken delivered =>
    simp only [hostEvents, filterMap_loginOf_map, completionsOf, phoneLogin_handle_completions,
      List.drop_left]
    exact interleaves_append [_] _ _ interleaved

end Steps

def loginScreen (configuration : Configuration) : Onboarding.Screen :=
  if configuration.isPhoneAuthEnabled then .phoneLogin else .login

def signUpScreen (configuration : Configuration) : Onboarding.Screen :=
  if configuration.isPhoneAuthEnabled then .phoneSignUp else .signUp

/-- The stacks of the navigation controller. -/
def Navigable (configuration : Configuration) (viewControllers : List Onboarding.Screen) : Prop :=
  viewControllers = [.landing] ∨ viewControllers = [.landing, loginScreen configuration] ∨
    viewControllers = [.landing, loginScreen configuration, .resetPassword] ∨
    viewControllers = [.landing, signUpScreen configuration]

/-- The managers of the other kind of screens are as they were made. -/
def OthersIdle (configuration : Configuration) (start s : System) : Prop :=
  if configuration.isPhoneAuthEnabled then
    s.login = start.login ∧ s.signUp = start.signUp ∧ s.socialLogin = start.socialLogin
  else
    s.phoneLogin = start.phoneLogin ∧ s.phoneSignUp = start.phoneSignUp ∧
      s.phoneSocialLogin = start.phoneSocialLogin

/-- Nothing is in flight for a manager that was just made. -/
structure Fresh (start : System) : Prop where
  login : start.login.signIns = [] ∧ start.login.fetches = []
  phoneLogin : start.phoneLogin.verifications = [] ∧ start.phoneLogin.signIns = [] ∧
    start.phoneLogin.fetches = []
  signUp : start.signUp.creations = []
  phoneSignUp : start.phoneSignUp.verifications = [] ∧ start.phoneSignUp.signIns = [] ∧
    start.phoneSignUp.creations = []
  social : start.socialLogin = .none ∧ start.phoneSocialLogin = .none

section Navigation

variable {configuration : Configuration} {predicates : TextPredicates} {start s t : System}
variable {e : Event}

theorem shown_last {screen : Onboarding.Screen} (shown : s.shows screen = true) :
    s.viewControllers.getLast? = some screen := by
  simp only [System.shows, Bool.and_eq_true, decide_eq_true_eq] at shown
  exact shown.2

theorem shown_kind (navigable : Navigable configuration s.viewControllers)
    {screen : Onboarding.Screen} (shown : s.shows screen = true) :
    screen = .landing ∨ screen = loginScreen configuration ∨ screen = .resetPassword ∨
      screen = signUpScreen configuration := by
  have last := shown_last shown
  rcases navigable with stack | stack | stack | stack
  · rw [stack] at last
    exact Or.inl (Option.some.inj last).symm
  · rw [stack] at last
    exact Or.inr (Or.inl (Option.some.inj last).symm)
  · rw [stack] at last
    exact Or.inr (Or.inr (Or.inl (Option.some.inj last).symm))
  · rw [stack] at last
    exact Or.inr (Or.inr (Or.inr (Option.some.inj last).symm))

/-- The landing screen is in front exactly at the root. -/
theorem root_of_landing (navigable : Navigable configuration s.viewControllers)
    (shown : s.shows .landing = true) : s.viewControllers = [.landing] := by
  have last := shown_last shown
  rcases navigable with stack | stack | stack | stack
  · exact stack
  · rw [stack] at last
    unfold loginScreen at last
    split at last <;> cases last
  · rw [stack] at last
    cases last
  · rw [stack] at last
    unfold signUpScreen at last
    split at last <;> cases last

theorem login_of_shown (navigable : Navigable configuration s.viewControllers)
    (shown : s.shows .login = true ∨ s.shows .phoneLogin = true) :
    s.viewControllers = [.landing, loginScreen configuration] := by
  have last : s.viewControllers.getLast? = some .login ∨
      s.viewControllers.getLast? = some .phoneLogin := shown.imp shown_last shown_last
  rcases navigable with stack | stack | stack | stack
  · rw [stack] at last
    rcases last with last | last <;> cases last
  · exact stack
  · rw [stack] at last
    rcases last with last | last <;> cases last
  · rw [stack] at last
    unfold signUpScreen at last
    split at last <;> rcases last with last | last <;> cases last

theorem push_of_notMem {screen : Onboarding.Screen} (new : screen ∉ s.viewControllers) :
    s.pushViewController screen =
      { s with viewControllers := s.viewControllers ++ [screen] } := by
  unfold System.pushViewController
  rw [if_neg new]

theorem navigable_pop (navigable : Navigable configuration s.viewControllers) :
    Navigable configuration s.popViewController.viewControllers := by
  unfold System.popViewController
  split
  · exact navigable
  · rename_i long
    rcases navigable with stack | stack | stack | stack
    · simp [stack] at long
    · exact Or.inl (by simp [stack])
    · exact Or.inr (Or.inl (by simp [stack]))
    · exact Or.inl (by simp [stack])

theorem navigable_step (navigable : Navigable configuration s.viewControllers)
    (h : step configuration predicates s e = some t) :
    Navigable configuration t.viewControllers ∧ t.pushedTwice = false := by
  obtain ⟨-, once, effect⟩ := step_cases h
  cases effect with
  | landingDidTapLogIn shown =>
    have root := root_of_landing navigable shown
    have new : loginScreen configuration ∉ s.viewControllers := by
      rw [root]
      unfold loginScreen
      split <;> decide
    have pushed := push_of_notMem new
    unfold loginScreen at pushed
    rw [pushed]
    exact ⟨Or.inr (Or.inl (by rw [root]; rfl)), once⟩
  | landingDidTapSignUp shown =>
    have root := root_of_landing navigable shown
    have new : signUpScreen configuration ∉ s.viewControllers := by
      rw [root]
      unfold signUpScreen
      split <;> decide
    have pushed := push_of_notMem new
    unfold signUpScreen at pushed
    rw [pushed]
    exact ⟨Or.inr (Or.inr (Or.inr (by rw [root]; rfl))), once⟩
  | didTapForgotPassword shown =>
    have stack := login_of_shown navigable shown
    have new : .resetPassword ∉ s.viewControllers := by
      rw [stack]
      unfold loginScreen
      split <;> decide
    rw [push_of_notMem new]
    exact ⟨Or.inr (Or.inr (Or.inl (by rw [stack]; rfl))), once⟩
  | didResetPassword =>
    refine ⟨navigable_pop navigable, ?_⟩
    unfold System.popViewController
    split <;> exact once
  | didTapBack =>
    refine ⟨navigable_pop navigable, ?_⟩
    unfold System.popViewController
    split <;> exact once
  | host => exact ⟨navigable, once⟩
  | didSelectCountryCode => exact ⟨navigable, once⟩
  | login => exact ⟨navigable, once⟩
  | phoneLogin => exact ⟨navigable, once⟩
  | signUp => exact ⟨navigable, once⟩
  | phoneSignUp => exact ⟨navigable, once⟩
  | socialLogin => exact ⟨navigable, once⟩
  | phoneSocialLogin => exact ⟨navigable, once⟩

theorem deliver_nil {ρ : Type} (index : Nat) : deliver ([] : List ρ) index = none := rfl

theorem idle_of_sameManagers (idle : OthersIdle configuration start s)
    (same : SameManagers s t) : OthersIdle configuration start t := by
  unfold OthersIdle at idle ⊢
  rw [same.login, same.phoneLogin, same.signUp, same.phoneSignUp, same.socialLogin,
    same.phoneSocialLogin]
  exact idle

/-- A step of the phone managers, which only happens with phone screens. -/
theorem idle_of_classic (idle : OthersIdle configuration start s)
    (phone : configuration.isPhoneAuthEnabled = true) (login : t.login = s.login)
    (signUp : t.signUp = s.signUp) (social : t.socialLogin = s.socialLogin) :
    OthersIdle configuration start t := by
  simp only [OthersIdle, phone, if_true] at idle ⊢
  rw [login, signUp, social]
  exact idle

theorem idle_of_phone (idle : OthersIdle configuration start s)
    (classic : configuration.isPhoneAuthEnabled = false) (phoneLogin : t.phoneLogin = s.phoneLogin)
    (phoneSignUp : t.phoneSignUp = s.phoneSignUp)
    (social : t.phoneSocialLogin = s.phoneSocialLogin) : OthersIdle configuration start t := by
  simp only [OthersIdle, classic, Bool.false_eq_true, if_false] at idle ⊢
  rw [phoneLogin, phoneSignUp, social]
  exact idle

/-- A screen of the other kind is never in front. -/
theorem not_shown (navigable : Navigable configuration s.viewControllers)
    {screen : Onboarding.Screen}
    (other : screen ≠ .landing ∧ screen ≠ loginScreen configuration ∧ screen ≠ .resetPassword ∧
      screen ≠ signUpScreen configuration) : s.shows screen = false := by
  by_contra shown
  obtain ⟨noLanding, noLogin, noReset, noSignUp⟩ := other
  rcases shown_kind navigable (Bool.eq_true_of_not_eq_false shown) with same | same | same | same
  · exact noLanding same
  · exact noLogin same
  · exact noReset same
  · exact noSignUp same

theorem not_shown_phone (navigable : Navigable configuration s.viewControllers)
    (classic : configuration.isPhoneAuthEnabled = false) :
    s.shows .phoneLogin = false ∧ s.shows .phoneSignUp = false :=
  ⟨not_shown navigable (by simp [loginScreen, signUpScreen, classic]),
    not_shown navigable (by simp [loginScreen, signUpScreen, classic])⟩

theorem not_shown_classic (navigable : Navigable configuration s.viewControllers)
    (phone : configuration.isPhoneAuthEnabled = true) :
    s.shows .login = false ∧ s.shows .signUp = false :=
  ⟨not_shown navigable (by simp [loginScreen, signUpScreen, phone]),
    not_shown navigable (by simp [loginScreen, signUpScreen, phone])⟩

/-! Without an open sheet or a request in flight no reply is taken. -/

theorem social_of_none {configuration : SocialLogin.Configuration} {e : SocialLogin.Event}
    (isReply : e.isReply = true) : SocialLogin.step configuration .none e = none := by
  cases e with
  | didTapAppleButton => cases isReply
  | didTapFacebookButton => cases isReply
  | _ => simp [SocialLogin.step, SocialLogin.Requests.none, deliver_nil]

theorem login_of_none {serverConfig : ATCOnboardingServerConfiguration} {hasUserManager : Bool}
    {login : ATCLoginScreenManager.System} {e : ATCLoginScreenManager.Event}
    (signIns : login.signIns = []) (fetches : login.fetches = []) (isReply : e.isReply = true) :
    ATCLoginScreenManager.step serverConfig hasUserManager login e = none := by
  cases e with
  | signInReply index user => simp [ATCLoginScreenManager.step, signIns, deliver_nil]
  | fetchReply index user error => simp [ATCLoginScreenManager.step, fetches, deliver_nil]
  | _ => cases isReply

theorem signUp_of_none {serverConfig : ATCOnboardingServerConfiguration}
    {signUp : ATCSignUpScreenManager.System} {e : ATCSignUpScreenManager.Event}
    (creations : signUp.creations = []) (isReply : e.isReply = true) :
    ATCSignUpScreenManager.step predicates serverConfig signUp e = none := by
  cases e with
  | createUserReply index user error =>
    simp [ATCSignUpScreenManager.step, creations, deliver_nil]
  | _ => cases isReply

theorem phoneLogin_of_none {configuration : ATCPhoneLoginScreenManager.Configuration}
    {viewModel : ATCPhoneLoginScreenViewModel} {phoneLogin : ATCPhoneLoginScreenManager.System}
    {e : ATCPhoneLoginScreenManager.Event} (verifications : phoneLogin.verifications = [])
    (signIns : phoneLogin.signIns = []) (fetches : phoneLogin.fetches = [])
    (isReply : e.isReply = true) :
    ATCPhoneLoginScreenManager.step configuration viewModel phoneLogin e = none := by
  cases e with
  | verifyReply index reply =>
    simp [ATCPhoneLoginScreenManager.step, verifications, deliver_nil]
  | signInReply index user => simp [ATCPhoneLoginScreenManager.step, signIns, deliver_nil]
  | fetchReply index user error => simp [ATCPhoneLoginScreenManager.step, fetches, deliver_nil]
  | _ => cases isReply

theorem phoneSignUp_of_none {configuration : ATCPhoneSignUpScreenManager.Configuration}
    {viewModel : ATCPhoneSignUpScreenViewModel} {phoneSignUp : ATCPhoneSignUpScreenManager.System}
    {e : ATCPhoneSignUpScreenManager.Event} (verifications : phoneSignUp.verifications = [])
    (signIns : phoneSignUp.signIns = []) (creations : phoneSignUp.creations = [])
    (isReply : e.isReply = true) :
    ATCPhoneSignUpScreenManager.step predicates configuration viewModel phoneSignUp e = none := by
  cases e with
  | verifyReply index reply =>
    simp [ATCPhoneSignUpScreenManager.step, verifications, deliver_nil]
  | signInReply index user error => simp [ATCPhoneSignUpScreenManager.step, signIns, deliver_nil]
  | createUserReply index user error =>
    simp [ATCPhoneSignUpScreenManager.step, creations, deliver_nil]
  | _ => cases isReply

/-- With phone screens the classic managers do nothing. -/
theorem classic_of_step (fresh : Fresh start)
    (navigable : Navigable configuration s.viewControllers)
    (idle : OthersIdle configuration start s) (phone : configuration.isPhoneAuthEnabled = true) :
    (∀ e, step configuration predicates s (.login e) = none) ∧
      (∀ e, step configuration predicates s (.signUp e) = none) ∧
      ∀ e, step configuration predicates s (.socialLogin e) = none := by
  obtain ⟨noLogin, noSignUp⟩ := not_shown_classic navigable phone
  simp only [OthersIdle, phone, if_true] at idle
  refine ⟨fun e => ?_, fun e => ?_, fun e => ?_⟩
  · refine Option.eq_none_iff_forall_ne_some.mpr fun t h => ?_
    obtain ⟨-, -, effect⟩ := step_cases h
    cases effect with
    | login _ login host allowed taken delivered =>
      have isReply : e.isReply = true := by simpa [noLogin] using allowed
      rw [idle.1, login_of_none fresh.login.1 fresh.login.2 isReply] at taken
      cases taken
  · refine Option.eq_none_iff_forall_ne_some.mpr fun t h => ?_
    obtain ⟨-, -, effect⟩ := step_cases h
    cases effect with
    | signUp _ signUp host allowed taken delivered =>
      have isReply : e.isReply = true := by simpa [noSignUp] using allowed
      rw [idle.2.1, signUp_of_none fresh.signUp isReply] at taken
      cases taken
  · refine Option.eq_none_iff_forall_ne_some.mpr fun t h => ?_
    obtain ⟨-, -, effect⟩ := step_cases h
    cases effect with
    | socialLogin _ requests outcome host allowed taken delivered =>
      have isReply : e.isReply = true := by simpa [noLogin] using allowed
      rw [idle.2.2, fresh.social.1, social_of_none isReply] at taken
      cases taken

/-- With classic screens the phone managers do nothing. -/
theorem phone_of_step (fresh : Fresh start)
    (navigable : Navigable configuration s.viewControllers)
    (idle : OthersIdle configuration start s)
    (classic : configuration.isPhoneAuthEnabled = false) :
    (∀ e, step configuration predicates s (.phoneLogin e) = none) ∧
      (∀ e, step configuration predicates s (.phoneSignUp e) = none) ∧
      (∀ phoneCode, step configuration predicates s (.didSelectCountryCode phoneCode) = none) ∧
      ∀ e, step configuration predicates s (.phoneSocialLogin e) = none := by
  obtain ⟨noLogin, noSignUp⟩ := not_shown_phone navigable classic
  simp only [OthersIdle, classic, Bool.false_eq_true, if_false] at idle
  refine ⟨fun e => ?_, fun e => ?_, fun phoneCode => ?_, fun e => ?_⟩
  · refine Option.eq_none_iff_forall_ne_some.mpr fun t h => ?_
    obtain ⟨-, -, effect⟩ := step_cases h
    cases effect with
    | phoneLogin _ phoneLogin host allowed taken delivered =>
      have isReply : e.isReply = true := by simpa [noLogin] using allowed
      obtain ⟨verifications, signIns, fetches⟩ := fresh.phoneLogin
      rw [idle.1, phoneLogin_of_none verifications signIns fetches isReply] at taken
      cases taken
  · refine Option.eq_none_iff_forall_ne_some.mpr fun t h => ?_
    obtain ⟨-, -, effect⟩ := step_cases h
    cases effect with
    | phoneSignUp _ phoneSignUp host allowed taken delivered =>
      have isReply : e.isReply = true := by simpa [noSignUp] using allowed
      obtain ⟨verifications, signIns, creations⟩ := fresh.phoneSignUp
      rw [idle.2.1, phoneSignUp_of_none verifications signIns creations isReply] at taken
      cases taken
  · simp [Onboarding.step, noLogin, noSignUp]
  · refine Option.eq_none_iff_forall_ne_some.mpr fun t h => ?_
    obtain ⟨-, -, effect⟩ := step_cases h
    cases effect with
    | phoneSocialLogin _ requests outcome host allowed taken delivered =>
      have isReply : e.isReply = true := by simpa [noLogin] using allowed
      rw [idle.2.2, fresh.social.2, social_of_none isReply] at taken
      cases taken

/-- Only the screens of the configured kind are used. -/
theorem othersIdle_step (fresh : Fresh start)
    (navigable : Navigable configuration s.viewControllers)
    (idle : OthersIdle configuration start s)
    (h : step configuration predicates s e = some t) : OthersIdle configuration start t := by
  have noClassic := fun phone => @classic_of_step configuration predicates start s fresh navigable
    idle phone
  have noPhone := fun classic => @phone_of_step configuration predicates start s fresh navigable
    idle classic
  have taken := h
  obtain ⟨-, -, effect⟩ := step_cases h
  cases effect with
  | landingDidTapLogIn => exact idle_of_sameManagers idle (sameManagers_push s _)
  | landingDidTapSignUp => exact idle_of_sameManagers idle (sameManagers_push s _)
  | didTapForgotPassword => exact idle_of_sameManagers idle (sameManagers_push s _)
  | didResetPassword => exact idle_of_sameManagers idle (sameManagers_pop s)
  | didTapBack => exact idle_of_sameManagers idle (sameManagers_pop s)
  | host => exact idle
  | login e =>
    cases phone : configuration.isPhoneAuthEnabled with
    | true =>
      rw [(noClassic phone).1 e] at taken
      cases taken
    | false => exact idle_of_phone idle phone rfl rfl rfl
  | signUp e =>
    cases phone : configuration.isPhoneAuthEnabled with
    | true =>
      rw [(noClassic phone).2.1 e] at taken
      cases taken
    | false => exact idle_of_phone idle phone rfl rfl rfl
  | socialLogin e =>
    cases phone : configuration.isPhoneAuthEnabled with
    | true =>
      rw [(noClassic phone).2.2 e] at taken
      cases taken
    | false => exact idle_of_phone idle phone rfl rfl rfl
  | phoneLogin e =>
    cases phone : configuration.isPhoneAuthEnabled with
    | true => exact idle_of_classic idle phone rfl rfl rfl
    | false =>
      rw [(noPhone phone).1 e] at taken
      cases taken
  | phoneSignUp e =>
    cases phone : configuration.isPhoneAuthEnabled with
    | true => exact idle_of_classic idle phone rfl rfl rfl
    | false =>
      rw [(noPhone phone).2.1 e] at taken
      cases taken
  | didSelectCountryCode phoneCode =>
    cases phone : configuration.isPhoneAuthEnabled with
    | true => exact idle_of_classic idle phone rfl rfl rfl
    | false =>
      rw [(noPhone phone).2.2.1 phoneCode] at taken
      cases taken
  | phoneSocialLogin e =>
    cases phone : configuration.isPhoneAuthEnabled with
    | true => exact idle_of_classic idle phone rfl rfl rfl
    | false =>
      rw [(noPhone phone).2.2.2 e] at taken
      cases taken

end Navigation

/-- A reply that a manager is waiting for is never refused. -/
structure TakesReplies (configuration : Configuration) (predicates : TextPredicates)
    (s : System) : Prop where
  login : ∀ e : ATCLoginScreenManager.Event, e.isReply = true →
    (ATCLoginScreenManager.step configuration.serverConfig configuration.hasUserManager s.login
      e).isSome = true → (step configuration predicates s (.login e)).isSome = true
  phoneLogin : ∀ e : ATCPhoneLoginScreenManager.Event, e.isReply = true →
    (ATCPhoneLoginScreenManager.step (phoneLoginConfiguration configuration)
      configuration.phoneLoginViewModel s.phoneLogin e).isSome = true →
    (step configuration predicates s (.phoneLogin e)).isSome = true
  signUp : ∀ e : ATCSignUpScreenManager.Event, e.isReply = true →
    (ATCSignUpScreenManager.step predicates configuration.serverConfig s.signUp e).isSome = true →
    (step configuration predicates s (.signUp e)).isSome = true
  phoneSignUp : ∀ e : ATCPhoneSignUpScreenManager.Event, e.isReply = true →
    (ATCPhoneSignUpScreenManager.step predicates (phoneSignUpConfiguration configuration)
      configuration.phoneSignUpViewModel s.phoneSignUp e).isSome = true →
    (step configuration predicates s (.phoneSignUp e)).isSome = true
  socialLogin : ∀ e : SocialLogin.Event, e.isReply = true →
    (SocialLogin.step (classicSocialLogin configuration) s.socialLogin e).isSome = true →
    (step configuration predicates s (.socialLogin e)).isSome = true
  phoneSocialLogin : ∀ e : SocialLogin.Event, e.isReply = true →
    (SocialLogin.step (phoneSocialLogin configuration) s.phoneSocialLogin e).isSome = true →
    (step configuration predicates s (.phoneSocialLogin e)).isSome = true

section Replies

variable {configuration : Configuration} {predicates : TextPredicates} {s : System}

/-- The host takes the completion of a manager, as there is one at most. -/
theorem completion_taken (running : s.host.trapped = none)
    (coordinator : s.host.configuration.onboardingCoordinator.isSome = true)
    {brought : List String} {completions completions' : List (Option ATCUser)}
    {fetches fetches' : List ATCUser}
    (grows : Grows brought completions fetches completions' fetches') :
    ∃ host, s.coordinatorDidComplete completions completions' = some host := by
  obtain ⟨more, rfl, one, -⟩ := grows.completed
  unfold System.coordinatorDidComplete
  rw [List.drop_left]
  cases more with
  | nil => exact ⟨s.host, rfl⟩
  | cons user rest =>
    have noRest : rest = [] := by
      apply List.eq_nil_of_length_eq_zero
      rw [List.length_cons] at one
      omega
    obtain ⟨c, isSome⟩ := Option.isSome_iff_exists.mp coordinator
    simp [noRest, run, ATCHostViewController.step, running, isSome]

theorem takesReplies (running : s.host.trapped = none) (inRange : s.indexOutOfRange = false)
    (once : s.pushedTwice = false)
    (coordinator : s.host.configuration.onboardingCoordinator.isSome = true) :
    TakesReplies configuration predicates s := by
  constructor
  · intro e isReply possible
    obtain ⟨login, taken⟩ := Option.isSome_iff_exists.mp possible
    obtain ⟨host, delivered⟩ := completion_taken running coordinator (grows_login taken)
    simp [Onboarding.step, running, inRange, once, isReply, stepLogin, taken, delivered]
  · intro e isReply possible
    obtain ⟨phoneLogin, taken⟩ := Option.isSome_iff_exists.mp possible
    obtain ⟨host, delivered⟩ := completion_taken running coordinator (grows_phoneLogin taken)
    cases e with
    | verifyReply => simp [Onboarding.step, running, inRange, once,
        ATCPhoneLoginScreenManager.Event.isReply, stepPhoneLogin, taken, delivered]
    | signInReply => simp [Onboarding.step, running, inRange, once,
        ATCPhoneLoginScreenManager.Event.isReply, stepPhoneLogin, taken, delivered]
    | fetchReply => simp [Onboarding.step, running, inRange, once,
        ATCPhoneLoginScreenManager.Event.isReply, stepPhoneLogin, taken, delivered]
    | _ => cases isReply
  · intro e isReply possible
    obtain ⟨signUp, taken⟩ := Option.isSome_iff_exists.mp possible
    obtain ⟨host, delivered⟩ := completion_taken running coordinator (grows_signUp taken)
    simp [Onboarding.step, running, inRange, once, isReply, stepSignUp, taken, delivered]
  · intro e isReply possible
    obtain ⟨phoneSignUp, taken⟩ := Option.isSome_iff_exists.mp possible
    obtain ⟨host, delivered⟩ := completion_taken running coordinator (grows_phoneSignUp taken)
    cases e with
    | verifyReply => simp [Onboarding.step, running, inRange, once,
        ATCPhoneSignUpScreenManager.Event.isReply, stepPhoneSignUp, taken, delivered]
    | signInReply => simp [Onboarding.step, running, inRange, once,
        ATCPhoneSignUpScreenManager.Event.isReply, stepPhoneSignUp, taken, delivered]
    | createUserReply => simp [Onboarding.step, running, inRange, once,
        ATCPhoneSignUpScreenManager.Event.isReply, stepPhoneSignUp, taken, delivered]
    | _ => cases isReply
  · intro e isReply possible
    obtain ⟨next, taken⟩ := Option.isSome_iff_exists.mp possible
    obtain ⟨host, delivered⟩ := completion_taken running coordinator
      (grows_social taken (login_handle_completions s.login))
    simp [Onboarding.step, running, inRange, once, isReply, stepSocialLogin, taken, delivered]
  · intro e isReply possible
    obtain ⟨next, taken⟩ := Option.isSome_iff_exists.mp possible
    obtain ⟨host, delivered⟩ := completion_taken running coordinator
      (grows_social taken (phoneLogin_handle_completions s.phoneLogin))
    simp [Onboarding.step, running, inRange, once, isReply, stepPhoneSocialLogin, taken, delivered]

end Replies

section Runs

variable {configuration : Configuration} {predicates : TextPredicates} {start s t : System}
variable {past : List Event} {e : Event}

/-- An event of the host that is no login. -/
def notLogin : ATCHostViewController.Event → Option ATCHostViewController.Event
  | .loginCompleted _ => none
  | e => some e

theorem filterMap_notLogin_map (users : List (Option ATCUser)) :
    (users.map ATCHostViewController.Event.loginCompleted).filterMap notLogin = [] := by
  rw [List.filterMap_map]
  exact List.filterMap_eq_nil_iff.mpr fun _ _ => rfl

theorem own_events_step (h : step configuration predicates s e = some t) :
    (hostEvents s e t).filterMap notLogin = [e].filterMap ownHostEvent := by
  obtain ⟨-, -, effect⟩ := step_cases h
  cases effect with
  | host e host noLogin taken =>
    cases e with
    | loginCompleted user => exact absurd rfl (noLogin user)
    | _ => rfl
  | login => exact filterMap_notLogin_map _
  | phoneLogin => exact filterMap_notLogin_map _
  | signUp => exact filterMap_notLogin_map _
  | phoneSignUp => exact filterMap_notLogin_map _
  | socialLogin => exact filterMap_notLogin_map _
  | phoneSocialLogin => exact filterMap_notLogin_map _
  | _ => rfl

/-- What a run keeps of the app that was started. -/
structure OnboardingKept (configuration : Configuration) (predicates : TextPredicates)
    (start : System) (past : List Event) (s : System) : Prop where
  reached : run (step configuration predicates) start past = some s
  interleaved : Interleaves (completionsOf s)
    ((trace (step configuration predicates) hostEvents start past).filterMap loginOf)
  own : (trace (step configuration predicates) hostEvents start past).filterMap notLogin =
    past.filterMap ownHostEvent
  navigable : Navigable configuration s.viewControllers
  once : s.pushedTwice = false
  idle : OthersIdle configuration start s

theorem onboardingKept_step (fresh : Fresh start)
    (kept : OnboardingKept configuration predicates start past s)
    (h : step configuration predicates s e = some t) :
    OnboardingKept configuration predicates start (past ++ [e]) t := by
  obtain ⟨navigable, once⟩ := navigable_step kept.navigable h
  refine ⟨(run_concat_eq_some _ _ _ _).mpr ⟨s, kept.reached, h⟩, ?_, ?_, navigable, once,
    othersIdle_step fresh kept.navigable kept.idle h⟩
  · rw [trace_concat kept.reached h]
    exact interleaves_step h kept.interleaved
  · rw [trace_concat kept.reached h, List.filterMap_append, kept.own, own_events_step h,
      List.filterMap_append]

end Runs

theorem fresh_initial (configuration : Configuration) (host : ATCHostConfiguration)
    (defaults : UserDefaults) (users : ATCHostViewController.UserRef → ATCUser)
    (authVerificationID : Option String) :
    Fresh (initial configuration host defaults users authVerificationID) :=
  ⟨⟨rfl, rfl⟩, ⟨rfl, rfl, rfl⟩, rfl, ⟨rfl, rfl, rfl⟩, ⟨rfl, rfl⟩⟩

/-- Whatever the order of taps, of replies and of the host's own events: the host is where some
run of the host alone leads, on its own events and with exactly one completed login for each
login and sign-up that a manager completed, in the order of each manager; no view controller is
pushed twice, the managers of the other kind complete nothing, and while the app runs every
reply that a manager waits for is taken. -/
theorem onboarding_refines_host (configuration : Configuration) (predicates : TextPredicates)
    (host : ATCHostConfiguration) (defaults : UserDefaults)
    (users : ATCHostViewController.UserRef → ATCUser) (authVerificationID : Option String)
    (es : List Event) (s : System)
    (h : run (step configuration predicates)
      (initial configuration host defaults users authVerificationID) es = some s) :
    (∃ events, run ATCHostViewController.step
        (ATCHostViewController.new (hostConfiguration configuration host) defaults users) events =
          some s.host ∧
      events.filterMap notLogin = es.filterMap ownHostEvent ∧
      Interleaves (completionsOf s) (events.filterMap loginOf)) ∧
    Navigable configuration s.viewControllers ∧ s.pushedTwice = false ∧
    (if configuration.isPhoneAuthEnabled then
      s.login.completions = [] ∧ s.signUp.completions = []
      else s.phoneLogin.completions = [] ∧ s.phoneSignUp.completions = []) ∧
    (s.host.trapped = none → s.indexOutOfRange = false →
      TakesReplies configuration predicates s) := by
  have start : OnboardingKept configuration predicates
      (initial configuration host defaults users authVerificationID) []
      (initial configuration host defaults users authVerificationID) := by
    refine ⟨rfl, ?_, rfl, Or.inl rfl, rfl, ?_⟩
    · apply interleaves_nil
      intro part there
      simp only [completionsOf, List.mem_cons, List.not_mem_nil, or_false] at there
      rcases there with rfl | rfl | rfl | rfl <;> rfl
    · unfold OthersIdle
      split <;> exact ⟨rfl, rfl, rfl⟩
  have fresh := fresh_initial configuration host defaults users authVerificationID
  have kept := run_history (OnboardingKept configuration predicates _)
    (fun _ _ _ _ kept h' => onboardingKept_step fresh kept h') start h
  have matched : ∀ s e t, step configuration predicates s e = some t →
      run ATCHostViewController.step s.host (hostEvents s e t) = some t.host :=
    fun _ _ _ => host_matched
  have reached := run_trace System.host matched h
  refine ⟨⟨_, reached, kept.own, kept.interleaved⟩, kept.navigable, kept.once, ?_, ?_⟩
  · have idle := kept.idle
    unfold OthersIdle at idle
    split
    · rename_i phone
      rw [if_pos phone] at idle
      rw [idle.1, idle.2.1]
      exact ⟨rfl, rfl⟩
    · rename_i classic
      rw [if_neg classic] at idle
      rw [idle.1, idle.2.1]
      exact ⟨rfl, rfl⟩
  · intro running inRange
    have vouched : Vouched (fun _ => True) (hostConfiguration configuration host) s.host :=
      vouched_run (vouched_new _ defaults users fun _ _ => trivial) (fun _ _ _ _ => trivial)
        reached
    refine takesReplies running inRange kept.once ?_
    rw [vouched.configured]
    rfl

def sampleOnboarding : Configuration where
  isFirebaseAuthEnabled := true
  isPhoneAuthEnabled := false
  hasUserManager := true
  role := ""
  knownErrorCodes := fun _ => true
  phoneLoginViewModel := ⟨"", "", "", "", "", .phone, none⟩
  phoneSignUpViewModel := ⟨"", .phone, "", "", "", none, ""⟩

def samplePredicates : TextPredicates := ⟨String.length, fun _ _ => true⟩

/-- The app before a start without a persisted user. -/
def sampleStart : System :=
  initial sampleOnboarding ATCHostViewController.sampleConfiguration (fun _ => none)
    (fun _ => ATCHostViewController.sampleUser) none

/-- A login with the classic screen. -/
def classicLogin : List Event :=
  [.host .viewDidLoad, .landingDidTapLogIn, .login (.editContactPoint "ana@example.com"),
    .login .didTapLoginButton, .login (.signInReply 0 (some ⟨"u1", none, none, none, none⟩)),
    .login (.fetchReply 0 none none)]

theorem onboarding_refines_host_login : ∃ s events,
    run (step sampleOnboarding samplePredicates) sampleStart classicLogin = some s ∧
    run ATCHostViewController.step sampleStart.host events = some s.host ∧
    s.login.completions.length = 1 ∧ (events.filterMap loginOf).length = 1 := by
  obtain ⟨s, reached, one, noPhone⟩ : ∃ s,
      run (step sampleOnboarding samplePredicates) sampleStart classicLogin = some s ∧
      s.login.completions.length = 1 ∧ s.signUp.completions = [] :=
    ⟨_, rfl, rfl, rfl⟩
  obtain ⟨⟨events, matched, -, interleaved⟩, -, -, idle, -⟩ :=
    onboarding_refines_host sampleOnboarding samplePredicates _ _ _ _ classicLogin s reached
  have idle : s.phoneLogin.completions = [] ∧ s.phoneSignUp.completions = [] := idle
  refine ⟨s, events, reached, matched, one, ?_⟩
  rw [interleaved.perm.length_eq]
  simp [completionsOf, one, noPhone, idle]

end FinanciaApp.Guarantees
