import FinanciaApp.Source.ATCLoginScreenManager
import FinanciaApp.Source.ATCPhoneLoginScreenManager
import FinanciaApp.Source.HostSystem
import FinanciaApp.Source.SocialLogin

/-!
# The onboarding coordinator between its screens and the host

`Core/Helpers/Onboarding/ATCOnboardingCoordinator.swift`, with the taps of
`ATCLandingScreenManager.swift`: the screen managers, the navigation controller, and the host
that is the delegate of the coordinator. A completed login or sign-up goes from its manager
through the coordinator to the host, also one with Facebook or Apple (`SocialLogin`). The user acts
on the screen in front, while the onboarding view is the front view of the host; replies arrive at
any time. The country code picker sets the code of both phone screens, which share the verification
ID. The branch for Shopify is compiled out.

`Effect` says once what a step can do.
-/

set_option autoImplicit false

namespace FinanciaApp.Source

open Library

/-- The event is a reply. -/
def ATCLoginScreenManager.Event.isReply : ATCLoginScreenManager.Event → Bool
  | .signInReply _ _ => true
  | .fetchReply _ _ _ => true
  | _ => false

def ATCSignUpScreenManager.Event.isReply : ATCSignUpScreenManager.Event → Bool
  | .createUserReply _ _ _ => true
  | _ => false

def ATCPhoneLoginScreenManager.Event.isReply : ATCPhoneLoginScreenManager.Event → Bool
  | .verifyReply _ _ => true
  | .signInReply _ _ => true
  | .fetchReply _ _ _ => true
  | _ => false

namespace Onboarding

/-- What the coordinator and its managers are made with; `role` is the raw value, and
`knownErrorCodes` are the values that `AuthErrorCode` has. -/
structure Configuration where
  isFirebaseAuthEnabled : Bool
  isPhoneAuthEnabled : Bool
  hasUserManager : Bool
  role : String
  knownErrorCodes : Int → Bool
  phoneLoginViewModel : ATCPhoneLoginScreenViewModel
  phoneSignUpViewModel : ATCPhoneSignUpScreenViewModel

/-- The view controllers of the navigation controller. -/
inductive Screen where
  | landing
  | login
  | phoneLogin
  | signUp
  | phoneSignUp
  | resetPassword
deriving DecidableEq, Repr

/-- `viewControllers` is the stack from its root to its top; a view controller that is pushed
twice traps, and so does an index out of range in a login with Facebook or Apple. -/
structure System where
  host : ATCHostViewController.App
  viewControllers : List Screen
  pushedTwice : Bool
  indexOutOfRange : Bool
  login : ATCLoginScreenManager.System
  phoneLogin : ATCPhoneLoginScreenManager.System
  signUp : ATCSignUpScreenManager.System
  phoneSignUp : ATCPhoneSignUpScreenManager.System
  socialLogin : SocialLogin.Requests
  phoneSocialLogin : SocialLogin.Requests

inductive Event where
  | host (e : ATCHostViewController.Event)
  | landingDidTapLogIn
  | landingDidTapSignUp
  | didTapForgotPassword
  | didResetPassword
  | didTapBack
  | didSelectCountryCode (phoneCode : String)
  | login (e : ATCLoginScreenManager.Event)
  | phoneLogin (e : ATCPhoneLoginScreenManager.Event)
  | signUp (e : ATCSignUpScreenManager.Event)
  | phoneSignUp (e : ATCPhoneSignUpScreenManager.Event)
  | socialLogin (e : SocialLogin.Event)
  | phoneSocialLogin (e : SocialLogin.Event)

section

variable (configuration : Configuration) (predicates : TextPredicates)

def Configuration.serverConfig : ATCOnboardingServerConfiguration :=
  ⟨configuration.isFirebaseAuthEnabled, configuration.role⟩

/-- The host with this coordinator. -/
def hostConfiguration (host : ATCHostConfiguration) : ATCHostConfiguration :=
  { host with
    onboardingCoordinator :=
      some ⟨configuration.isFirebaseAuthEnabled, configuration.hasUserManager⟩ }

/-- The host before its view loads, and every manager with its text fields empty. -/
def initial (host : ATCHostConfiguration) (defaults : UserDefaults)
    (users : ATCHostViewController.UserRef → ATCUser) (authVerificationID : Option String) :
    System where
  host := ATCHostViewController.new (hostConfiguration configuration host) defaults users
  viewControllers := [.landing]
  pushedTwice := false
  indexOutOfRange := false
  login := ⟨some "", some "", [], [], [], []⟩
  phoneLogin := ATCPhoneLoginScreenManager.loginScreenDidLoadView
    configuration.phoneLoginViewModel authVerificationID
  signUp := ⟨some "", some "", some "", [], [], [], []⟩
  phoneSignUp := ATCPhoneSignUpScreenManager.signUpScreenDidLoadView
    configuration.phoneSignUpViewModel authVerificationID
  socialLogin := .none
  phoneSocialLogin := .none

namespace System

variable (s : System)

/-- The screen is in front of the user. -/
def shows (screen : Screen) : Bool :=
  s.host.subviews.getLast? = some .onboarding && s.viewControllers.getLast? = some screen

def pushViewController (screen : Screen) : System :=
  if screen ∈ s.viewControllers then
    { s with pushedTwice := true }
  else
    { s with viewControllers := s.viewControllers ++ [screen] }

/-- The root stays. -/
def popViewController : System :=
  if s.viewControllers.length ≤ 1 then s
  else { s with viewControllers := s.viewControllers.dropLast }

/-- The completed logins of a manager that are new reach the host. -/
def coordinatorDidComplete (before after : List (Option ATCUser)) :
    Option ATCHostViewController.App :=
  run ATCHostViewController.step s.host ((after.drop before.length).map .loginCompleted)

end System

def stepLogin (s : System) (e : ATCLoginScreenManager.Event) : Option System :=
  (ATCLoginScreenManager.step configuration.serverConfig configuration.hasUserManager s.login
    e).bind fun login =>
      (s.coordinatorDidComplete s.login.completions login.completions).map fun host =>
        { s with login := login, host := host }

def phoneLoginConfiguration : ATCPhoneLoginScreenManager.Configuration :=
  ⟨configuration.isFirebaseAuthEnabled, configuration.hasUserManager⟩

/-- Both phone screens keep the verification ID under one key of the user defaults. -/
def stepPhoneLogin (s : System) (e : ATCPhoneLoginScreenManager.Event) : Option System :=
  (ATCPhoneLoginScreenManager.step (phoneLoginConfiguration configuration)
    configuration.phoneLoginViewModel s.phoneLogin e).bind fun phoneLogin =>
      (s.coordinatorDidComplete s.phoneLogin.completions phoneLogin.completions).map fun host =>
        { s with
          phoneLogin := phoneLogin
          phoneSignUp :=
            { s.phoneSignUp with authVerificationID := phoneLogin.authVerificationID }
          host := host }

def stepSignUp (s : System) (e : ATCSignUpScreenManager.Event) : Option System :=
  (ATCSignUpScreenManager.step predicates configuration.serverConfig s.signUp e).bind fun signUp =>
    (s.coordinatorDidComplete s.signUp.completions signUp.completions).map fun host =>
      { s with signUp := signUp, host := host }

def phoneSignUpConfiguration : ATCPhoneSignUpScreenManager.Configuration :=
  ⟨configuration.isFirebaseAuthEnabled, configuration.role⟩

def stepPhoneSignUp (s : System) (e : ATCPhoneSignUpScreenManager.Event) : Option System :=
  (ATCPhoneSignUpScreenManager.step predicates (phoneSignUpConfiguration configuration)
    configuration.phoneSignUpViewModel s.phoneSignUp e).bind fun phoneSignUp =>
      (s.coordinatorDidComplete s.phoneSignUp.completions phoneSignUp.completions).map fun host =>
        { s with
          phoneSignUp := phoneSignUp
          phoneLogin :=
            { s.phoneLogin with authVerificationID := phoneSignUp.authVerificationID }
          host := host }

/-- The classic manager shows the error of `fetchUser`. -/
def classicSocialLogin : SocialLogin.Configuration where
  isFirebaseAuthEnabled := configuration.isFirebaseAuthEnabled
  hasUserManager := configuration.hasUserManager
  showsFetchError := true
  known := configuration.knownErrorCodes

/-- The phone manager ignores it. -/
def phoneSocialLogin : SocialLogin.Configuration where
  isFirebaseAuthEnabled := configuration.isFirebaseAuthEnabled
  hasUserManager := configuration.hasUserManager
  showsFetchError := false
  known := configuration.knownErrorCodes

def stepSocialLogin (s : System) (e : SocialLogin.Event) : Option System :=
  (SocialLogin.step (classicSocialLogin configuration) s.socialLogin e).bind fun next =>
    (s.coordinatorDidComplete s.login.completions (s.login.handle next.2).completions).map
      fun host =>
        { s with
          login := s.login.handle next.2
          socialLogin := next.1
          indexOutOfRange := next.2.traps
          host := host }

def stepPhoneSocialLogin (s : System) (e : SocialLogin.Event) : Option System :=
  (SocialLogin.step (phoneSocialLogin configuration) s.phoneSocialLogin e).bind fun next =>
    (s.coordinatorDidComplete s.phoneLogin.completions
        (s.phoneLogin.handle next.2).completions).map fun host =>
      { s with
        phoneLogin := s.phoneLogin.handle next.2
        phoneSocialLogin := next.1
        indexOutOfRange := next.2.traps
        host := host }

/-- A login reaches the host from a manager only, and a country code comes from the picker. -/
def step (s : System) (e : Event) : Option System :=
  if s.host.trapped.isSome || s.indexOutOfRange || s.pushedTwice then
    none
  else
    match e with
    | .host (.loginCompleted _) => none
    | .host e => (ATCHostViewController.step s.host e).map fun host => { s with host := host }
    | .landingDidTapLogIn =>
      if s.shows .landing then
        some (s.pushViewController
          (if configuration.isPhoneAuthEnabled then .phoneLogin else .login))
      else none
    | .landingDidTapSignUp =>
      if s.shows .landing then
        some (s.pushViewController
          (if configuration.isPhoneAuthEnabled then .phoneSignUp else .signUp))
      else none
    | .didTapForgotPassword =>
      if s.shows .login || s.shows .phoneLogin then some (s.pushViewController .resetPassword)
      else none
    | .didResetPassword =>
      if s.shows .resetPassword then some s.popViewController else none
    | .didTapBack =>
      if s.host.subviews.getLast? = some .onboarding then some s.popViewController else none
    | .didSelectCountryCode phoneCode =>
      if s.shows .phoneLogin || s.shows .phoneSignUp then
        (stepPhoneLogin configuration s (.didSelectCountryCode phoneCode)).bind fun s =>
          stepPhoneSignUp configuration predicates s (.didSelectCountryCode phoneCode)
      else none
    | .login e => if e.isReply || s.shows .login then stepLogin configuration s e else none
    | .phoneLogin (.didSelectCountryCode _) => none
    | .phoneLogin e =>
      if e.isReply || s.shows .phoneLogin then stepPhoneLogin configuration s e else none
    | .signUp e =>
      if e.isReply || s.shows .signUp then stepSignUp configuration predicates s e else none
    | .phoneSignUp (.didSelectCountryCode _) => none
    | .phoneSignUp e =>
      if e.isReply || s.shows .phoneSignUp then stepPhoneSignUp configuration predicates s e
      else none
    | .socialLogin e =>
      if e.isReply || s.shows .login then stepSocialLogin configuration s e else none
    | .phoneSocialLogin e =>
      if e.isReply || s.shows .phoneLogin then stepPhoneSocialLogin configuration s e else none

/-- A country code that is selected. -/
def System.selectCountryCode (s : System) (phoneCode : String) : System :=
  { s with
    phoneLogin := { s.phoneLogin with phoneCodeString := some phoneCode }
    phoneSignUp :=
      { s.phoneSignUp with
        phoneCodeString := some phoneCode
        authVerificationID := s.phoneLogin.authVerificationID } }

/-- Everything a step can do. -/
inductive Effect (s : System) : Event → System → Prop where
  | host (e : ATCHostViewController.Event) (host : ATCHostViewController.App)
      (noLogin : ∀ user, e ≠ .loginCompleted user)
      (taken : ATCHostViewController.step s.host e = some host) :
      Effect s (.host e) { s with host := host }
  | landingDidTapLogIn (shown : s.shows .landing = true) :
      Effect s .landingDidTapLogIn (s.pushViewController
        (if configuration.isPhoneAuthEnabled then .phoneLogin else .login))
  | landingDidTapSignUp (shown : s.shows .landing = true) :
      Effect s .landingDidTapSignUp (s.pushViewController
        (if configuration.isPhoneAuthEnabled then .phoneSignUp else .signUp))
  | didTapForgotPassword (shown : s.shows .login = true ∨ s.shows .phoneLogin = true) :
      Effect s .didTapForgotPassword (s.pushViewController .resetPassword)
  | didResetPassword : Effect s .didResetPassword s.popViewController
  | didTapBack : Effect s .didTapBack s.popViewController
  | didSelectCountryCode (phoneCode : String)
      (shown : s.shows .phoneLogin = true ∨ s.shows .phoneSignUp = true) :
      Effect s (.didSelectCountryCode phoneCode) (s.selectCountryCode phoneCode)
  | login (e : ATCLoginScreenManager.Event) (login : ATCLoginScreenManager.System)
      (host : ATCHostViewController.App) (allowed : e.isReply = true ∨ s.shows .login = true)
      (taken : ATCLoginScreenManager.step configuration.serverConfig configuration.hasUserManager
        s.login e = some login)
      (delivered : s.coordinatorDidComplete s.login.completions login.completions = some host) :
      Effect s (.login e) { s with login := login, host := host }
  | phoneLogin (e : ATCPhoneLoginScreenManager.Event)
      (phoneLogin : ATCPhoneLoginScreenManager.System) (host : ATCHostViewController.App)
      (allowed : e.isReply = true ∨ s.shows .phoneLogin = true)
      (taken : ATCPhoneLoginScreenManager.step (phoneLoginConfiguration configuration)
        configuration.phoneLoginViewModel s.phoneLogin e = some phoneLogin)
      (delivered :
        s.coordinatorDidComplete s.phoneLogin.completions phoneLogin.completions = some host) :
      Effect s (.phoneLogin e)
        { s with
          phoneLogin := phoneLogin
          phoneSignUp :=
            { s.phoneSignUp with authVerificationID := phoneLogin.authVerificationID }
          host := host }
  | signUp (e : ATCSignUpScreenManager.Event) (signUp : ATCSignUpScreenManager.System)
      (host : ATCHostViewController.App) (allowed : e.isReply = true ∨ s.shows .signUp = true)
      (taken : ATCSignUpScreenManager.step predicates configuration.serverConfig s.signUp e =
        some signUp)
      (delivered : s.coordinatorDidComplete s.signUp.completions signUp.completions = some host) :
      Effect s (.signUp e) { s with signUp := signUp, host := host }
  | phoneSignUp (e : ATCPhoneSignUpScreenManager.Event)
      (phoneSignUp : ATCPhoneSignUpScreenManager.System) (host : ATCHostViewController.App)
      (allowed : e.isReply = true ∨ s.shows .phoneSignUp = true)
      (taken : ATCPhoneSignUpScreenManager.step predicates (phoneSignUpConfiguration configuration)
        configuration.phoneSignUpViewModel s.phoneSignUp e = some phoneSignUp)
      (delivered :
        s.coordinatorDidComplete s.phoneSignUp.completions phoneSignUp.completions = some host) :
      Effect s (.phoneSignUp e)
        { s with
          phoneSignUp := phoneSignUp
          phoneLogin :=
            { s.phoneLogin with authVerificationID := phoneSignUp.authVerificationID }
          host := host }
  | socialLogin (e : SocialLogin.Event) (requests : SocialLogin.Requests)
      (outcome : SocialLogin.Outcome) (host : ATCHostViewController.App)
      (allowed : e.isReply = true ∨ s.shows .login = true)
      (taken : SocialLogin.step (classicSocialLogin configuration) s.socialLogin e =
        some (requests, outcome))
      (delivered : s.coordinatorDidComplete s.login.completions
        (s.login.handle outcome).completions = some host) :
      Effect s (.socialLogin e)
        { s with
          login := s.login.handle outcome
          socialLogin := requests
          indexOutOfRange := outcome.traps
          host := host }
  | phoneSocialLogin (e : SocialLogin.Event) (requests : SocialLogin.Requests)
      (outcome : SocialLogin.Outcome) (host : ATCHostViewController.App)
      (allowed : e.isReply = true ∨ s.shows .phoneLogin = true)
      (taken : SocialLogin.step (phoneSocialLogin configuration) s.phoneSocialLogin e =
        some (requests, outcome))
      (delivered : s.coordinatorDidComplete s.phoneLogin.completions
        (s.phoneLogin.handle outcome).completions = some host) :
      Effect s (.phoneSocialLogin e)
        { s with
          phoneLogin := s.phoneLogin.handle outcome
          phoneSocialLogin := requests
          indexOutOfRange := outcome.traps
          host := host }

variable {configuration predicates}

theorem coordinatorDidComplete_same (s : System) (completions : List (Option ATCUser)) :
    s.coordinatorDidComplete completions completions = some s.host := by
  simp [System.coordinatorDidComplete, run]

theorem stepPhoneLogin_cases {s t : System} {e : ATCPhoneLoginScreenManager.Event}
    (allowed : e.isReply = true ∨ s.shows .phoneLogin = true)
    (h : stepPhoneLogin configuration s e = some t) :
    Effect configuration predicates s (.phoneLogin e) t := by
  obtain ⟨phoneLogin, taken, h⟩ := Option.bind_eq_some_iff.mp h
  obtain ⟨host, delivered, rfl⟩ := Option.map_eq_some_iff.mp h
  exact .phoneLogin e phoneLogin host allowed taken delivered

theorem stepPhoneSignUp_cases {s t : System} {e : ATCPhoneSignUpScreenManager.Event}
    (allowed : e.isReply = true ∨ s.shows .phoneSignUp = true)
    (h : stepPhoneSignUp configuration predicates s e = some t) :
    Effect configuration predicates s (.phoneSignUp e) t := by
  obtain ⟨phoneSignUp, taken, h⟩ := Option.bind_eq_some_iff.mp h
  obtain ⟨host, delivered, rfl⟩ := Option.map_eq_some_iff.mp h
  exact .phoneSignUp e phoneSignUp host allowed taken delivered

theorem didSelectCountryCode_cases {s t : System} {phoneCode : String}
    (h : ((stepPhoneLogin configuration s (.didSelectCountryCode phoneCode)).bind fun s =>
      stepPhoneSignUp configuration predicates s (.didSelectCountryCode phoneCode)) = some t) :
    t = s.selectCountryCode phoneCode := by
  simp only [stepPhoneLogin, stepPhoneSignUp, ATCPhoneLoginScreenManager.step,
    ATCPhoneSignUpScreenManager.step, Option.bind_some, coordinatorDidComplete_same,
    Option.map_some, Option.some.injEq] at h
  exact h.symm

theorem step_cases {s t : System} {e : Event}
    (h : step configuration predicates s e = some t) :
    (s.host.trapped = none ∧ s.indexOutOfRange = false) ∧ s.pushedTwice = false ∧
      Effect configuration predicates s e t := by
  unfold step at h
  split at h
  · cases h
  · rename_i running
    simp only [Bool.or_eq_true, not_or, Bool.not_eq_true, Option.isSome_eq_false_iff,
      Option.isNone_iff_eq_none] at running
    refine ⟨running.1, running.2, ?_⟩
    split at h
    · cases h
    · rename_i e noLogin
      obtain ⟨host, taken, rfl⟩ := Option.map_eq_some_iff.mp h
      exact .host e host (fun user same => noLogin user same) taken
    · split at h
      · rename_i shown
        cases h
        exact .landingDidTapLogIn shown
      · cases h
    · split at h
      · rename_i shown
        cases h
        exact .landingDidTapSignUp shown
      · cases h
    · split at h
      · rename_i shown
        cases h
        exact .didTapForgotPassword (by simpa using shown)
      · cases h
    · split at h
      · cases h
        exact .didResetPassword
      · cases h
    · split at h
      · cases h
        exact .didTapBack
      · cases h
    · split at h
      · rename_i shown
        rw [didSelectCountryCode_cases h]
        exact .didSelectCountryCode _ (by simpa using shown)
      · cases h
    · split at h
      · rename_i allowed
        obtain ⟨login, taken, h⟩ := Option.bind_eq_some_iff.mp h
        obtain ⟨host, delivered, rfl⟩ := Option.map_eq_some_iff.mp h
        exact .login _ login host (by simpa using allowed) taken delivered
      · cases h
    · cases h
    · split at h
      · rename_i allowed
        exact stepPhoneLogin_cases (by simpa using allowed) h
      · cases h
    · split at h
      · rename_i allowed
        obtain ⟨signUp, taken, h⟩ := Option.bind_eq_some_iff.mp h
        obtain ⟨host, delivered, rfl⟩ := Option.map_eq_some_iff.mp h
        exact .signUp _ signUp host (by simpa using allowed) taken delivered
      · cases h
    · cases h
    · split at h
      · rename_i allowed
        exact stepPhoneSignUp_cases (by simpa using allowed) h
      · cases h
    · split at h
      · rename_i allowed
        obtain ⟨next, taken, h⟩ := Option.bind_eq_some_iff.mp h
        obtain ⟨host, delivered, rfl⟩ := Option.map_eq_some_iff.mp h
        exact .socialLogin _ next.1 next.2 host (by simpa using allowed) taken delivered
      · cases h
    · split at h
      · rename_i allowed
        obtain ⟨next, taken, h⟩ := Option.bind_eq_some_iff.mp h
        obtain ⟨host, delivered, rfl⟩ := Option.map_eq_some_iff.mp h
        exact .phoneSocialLogin _ next.1 next.2 host (by simpa using allowed) taken delivered
      · cases h

end

end Onboarding

end FinanciaApp.Source
