import FinanciaApp.Library.InFlight
import FinanciaApp.Source.PhoneScreens

/-!
# The phone login screen

`Core/Helpers/Onboarding/ATCPhoneLoginScreenManager.swift:54-342`. A tap on the primary
button sends one of three requests, and each reply runs the closure of its request on
whatever the screen is by then: the progress HUD is a box in the middle of the screen and
blocks nothing around it. Texts are as before localization. Fonts, colors, placeholders,
haptics and the HUD are not modelled, and the logins with Facebook and Apple are a model of their
own (`SocialLogin`).
-/

set_option autoImplicit false

namespace FinanciaApp.Source

open Library

structure ATCPhoneLoginScreenViewModel where
  loginString : String
  sendCodeString : String
  submitCodeString : String
  phoneNumberLoginString : String
  emailLoginString : String
  contactPoint : ContactPoint
  phoneCodeString : Option String
  deriving DecidableEq, Repr

def ATCPhoneLoginScreenViewModel.strings (viewModel : ATCPhoneLoginScreenViewModel) :
    ContactStrings where
  primary := viewModel.loginString
  sendCode := viewModel.sendCodeString
  submitCode := viewModel.submitCodeString
  usePhoneNumber := viewModel.phoneNumberLoginString
  useEmail := viewModel.emailLoginString

namespace ATCPhoneLoginScreenManager

/-- What the handlers read of the server configuration, and whether there is a user
manager. -/
structure Configuration where
  isFirebaseAuthEnabled : Bool
  hasUserManager : Bool
  deriving DecidableEq, Repr

inductive SignIn where
  | credential (verificationID verificationCode : String)
  | email (email password : String)
  deriving DecidableEq, Repr

/-- A `fetchUser` request: whether the sign-in before was by code, and the user to fall
back to. -/
structure Fetch where
  byCode : Bool
  atcUser : ATCUser

/-- The screen with its text fields, the verification ID in the user defaults, the requests
in flight, and the alerts and completed logins so far. -/
structure System where
  screen : ContactScreen
  phoneCodeString : Option String
  phoneNumber : Option String
  email : Option String
  password : Option String
  authVerificationID : Option String
  requestedCodes : Nat
  verifications : List PhoneVerification
  signIns : List SignIn
  fetches : List Fetch
  alerts : List String
  completions : List (Option ATCUser)

/-- `loginScreenDidLoadView`, on empty text fields. -/
def loginScreenDidLoadView (viewModel : ATCPhoneLoginScreenViewModel)
    (authVerificationID : Option String) : System :=
  let isLoginWithEmail := viewModel.contactPoint = .email
  { screen :=
      { contactPoint := viewModel.contactPoint
        emailHidden := !isLoginWithEmail
        passwordHidden := !isLoginWithEmail
        phoneNumberHidden := isLoginWithEmail
        otpHidden := true
        primaryTitle := viewModel.loginString
        contactPointTitle := viewModel.phoneNumberLoginString
        otpTexts := List.replicate otpCount "" }
    phoneCodeString := viewModel.phoneCodeString
    phoneNumber := some ""
    email := some ""
    password := some ""
    authVerificationID := authVerificationID
    requestedCodes := 0
    verifications := []
    signIns := []
    fetches := []
    alerts := []
    completions := [] }

/-- The default title of `showLoginError`. -/
def loginError : String :=
  "Las credenciales de acceso son incorrectas. Por favor vuelva a intentar"

def System.showLoginError (s : System) (title : String) : System :=
  { s with alerts := s.alerts ++ [title] }

/-- The user that a login falls back to. -/
def atcUserOf (user : FirebaseUser) : ATCUser :=
  ATCUser.new user.uid (some (user.displayName.getD "")) (some "") (some (user.photoURL.getD ""))
    (user.email.getD "") "" none none (some []) false none none false none "" false []

section Handlers

variable (configuration : Configuration) (viewModel : ATCPhoneLoginScreenViewModel)

def didTapContactPointButton (s : System) : System :=
  { s with screen := s.screen.toggleContactPoint viewModel.strings }

def didTapLoginButton (s : System) : System :=
  if configuration.isFirebaseAuthEnabled then
    match s.screen.contactPoint with
    | .phone =>
      match s.phoneCodeString, s.phoneNumber with
      | some phoneCodeString, some phoneNumber =>
        if phoneNumber ≠ "" then
          { s with
            requestedCodes := s.requestedCodes + 1
            verifications :=
              s.verifications ++ [⟨phoneCodeString ++ phoneNumber, s.requestedCodes⟩] }
        else
          s.showLoginError loginError
      | _, _ => s.showLoginError loginError
    | .phoneWithOtp =>
      if s.screen.verificationCode ≠ "" then
        { s with
          signIns := s.signIns ++
            [.credential (s.authVerificationID.getD "") s.screen.verificationCode] }
      else
        s.showLoginError loginError
    | .email =>
      match s.email, s.password with
      | some email, some password => { s with signIns := s.signIns ++ [.email email password] }
      | _, _ => s.showLoginError loginError
  else
    { s with completions := s.completions ++ [none] }

/-- The closure of `verifyPhoneNumber`. -/
def verifyCompletion (reply : Except String (Option String)) (s : System) : System :=
  match reply with
  | .error message => s.showLoginError message
  | .ok verificationID =>
    { s with
      authVerificationID := verificationID
      screen := s.screen.showOtp viewModel.strings }

/-- The two closures of `signIn`. -/
def signInCompletion (signIn : SignIn) (user : Option FirebaseUser) (s : System) : System :=
  match user with
  | some user =>
    if configuration.hasUserManager then
      let byCode := match signIn with
        | .credential _ _ => true
        | .email _ _ => false
      { s with fetches := s.fetches ++ [⟨byCode, atcUserOf user⟩] }
    else
      s
  | none => s.showLoginError loginError

/-- The two closures of `fetchUser`. -/
def fetchCompletion (fetch : Fetch) (user : Option ATCUser) (error : Option String) (s : System) :
    System :=
  match error with
  | some message => s.showLoginError message
  | none =>
    let completed := { s with completions := s.completions ++ [some (user.getD fetch.atcUser)] }
    if fetch.byCode then
      { completed with screen := s.screen.backToPhone viewModel.strings }
    else
      completed

end Handlers

/-- The text fields are edited, or a country code is selected, at any time. -/
inductive Event where
  | didTapContactPointButton
  | didTapLoginButton
  | editPhoneNumber (text : String)
  | editEmail (text : String)
  | editPassword (text : String)
  | editOtp (texts : List String)
  | didSelectCountryCode (phoneCode : String)
  | verifyReply (index : Nat) (reply : Except String (Option String))
  | signInReply (index : Nat) (user : Option FirebaseUser)
  | fetchReply (index : Nat) (user : Option ATCUser) (error : Option String)

section Steps

variable (configuration : Configuration) (viewModel : ATCPhoneLoginScreenViewModel)

def step (s : System) : Event → Option System
  | .didTapContactPointButton => some (didTapContactPointButton viewModel s)
  | .didTapLoginButton => some (didTapLoginButton configuration s)
  | .editPhoneNumber text => some { s with phoneNumber := some text }
  | .editEmail text => some { s with email := some text }
  | .editPassword text => some { s with password := some text }
  | .editOtp texts =>
    if texts.length = s.screen.otpTexts.length then
      some { s with screen := { s.screen with otpTexts := texts } }
    else none
  | .didSelectCountryCode phoneCode => some { s with phoneCodeString := some phoneCode }
  | .verifyReply index reply =>
    (deliver s.verifications index).map fun answered =>
      verifyCompletion viewModel reply { s with verifications := answered.2 }
  | .signInReply index user =>
    (deliver s.signIns index).map fun answered =>
      signInCompletion configuration answered.1 user { s with signIns := answered.2 }
  | .fetchReply index user error =>
    (deliver s.fetches index).map fun answered =>
      fetchCompletion viewModel answered.1 user error { s with fetches := answered.2 }

/-- What a step does to the screen. -/
inductive ScreenEffect (s : System) : Event → ContactScreen → Prop where
  | toggled :
      ScreenEffect s .didTapContactPointButton (s.screen.toggleContactPoint viewModel.strings)
  | codeSent (index : Nat) (verificationID : Option String) :
      ScreenEffect s (.verifyReply index (.ok verificationID)) (s.screen.showOtp viewModel.strings)
  | loggedIn (index : Nat) (user : Option ATCUser) (fetch : Fetch) (rest : List Fetch)
      (answered : deliver s.fetches index = some (fetch, rest)) (byCode : fetch.byCode = true) :
      ScreenEffect s (.fetchReply index user none) (s.screen.backToPhone viewModel.strings)
  | otpEdited (texts : List String) :
      ScreenEffect s (.editOtp texts) { s.screen with otpTexts := texts }
  | same (e : Event) (noToggle : e ≠ .didTapContactPointButton)
      (noCode : ∀ index verificationID, e ≠ .verifyReply index (.ok verificationID))
      (noLogin : ∀ index user fetch rest, e = .fetchReply index user none →
        deliver s.fetches index = some (fetch, rest) → fetch.byCode = false) :
      ScreenEffect s e s.screen

theorem didTapLoginButton_screen (s : System) :
    (didTapLoginButton configuration s).screen = s.screen := by
  unfold didTapLoginButton
  split
  · split
    · split
      · split <;> rfl
      · rfl
    · split <;> rfl
    · split <;> rfl
  · rfl

theorem signInCompletion_screen (signIn : SignIn) (user : Option FirebaseUser) (s : System) :
    (signInCompletion configuration signIn user s).screen = s.screen := by
  unfold signInCompletion
  split
  · split <;> rfl
  · rfl

theorem step_screenEffect {s t : System} {e : Event}
    (taken : step configuration viewModel s e = some t) :
    ScreenEffect viewModel s e t.screen := by
  cases e with
  | didTapContactPointButton =>
    cases taken
    exact .toggled
  | didTapLoginButton =>
    cases taken
    rw [didTapLoginButton_screen]
    exact .same _ (by simp) (by simp) (by simp)
  | editOtp texts =>
    simp only [step] at taken
    split at taken
    · cases taken
      exact .otpEdited texts
    · cases taken
  | verifyReply index reply =>
    obtain ⟨⟨verification, rest⟩, -, rfl⟩ := Option.map_eq_some_iff.mp taken
    cases reply with
    | error message => exact .same _ (by simp) (by simp) (by simp)
    | ok verificationID => exact .codeSent index verificationID
  | signInReply index user =>
    obtain ⟨⟨signIn, rest⟩, -, rfl⟩ := Option.map_eq_some_iff.mp taken
    rw [signInCompletion_screen]
    exact .same _ (by simp) (by simp) (by simp)
  | fetchReply index user error =>
    obtain ⟨⟨fetch, rest⟩, answered, rfl⟩ := Option.map_eq_some_iff.mp taken
    cases error with
    | some message => exact .same _ (by simp) (by simp) (by simp)
    | none =>
      cases byCode : fetch.byCode with
      | true =>
        simp only [fetchCompletion, byCode]
        exact .loggedIn index user fetch rest answered byCode
      | false =>
        simp only [fetchCompletion, byCode]
        refine .same _ (by simp) (by simp) ?_
        intro index' user' fetch' rest' isReply answered'
        cases isReply
        rw [answered, Option.some.injEq, Prod.mk.injEq] at answered'
        rw [← answered'.1]
        exact byCode
  | _ =>
    cases taken
    exact .same _ (by simp) (by simp) (by simp)

end Steps

end ATCPhoneLoginScreenManager

end FinanciaApp.Source
