import FinanciaApp.Library.InFlight
import FinanciaApp.Source.ATCFacebookAPIManager
import FinanciaApp.Source.ATCFirebaseLoginManager
import FinanciaApp.Source.ATCPhoneLoginScreenManager

/-!
# The logins with Facebook and Apple

`didTapFacebookButton`, `didLoginWithFacebook` and `loginScreen(_:didFetchAppleUserWith:…)` of
`Core/Helpers/Onboarding/ATCLoginScreenManager.swift:109-139,205-255` and
`ATCPhoneLoginScreenManager.swift:168-194,344-394`, with the Apple button of their screens
(`UI/ATCClassicLoginScreenViewController.swift:66-123`) and what they call in
`ATCFirebaseLoginManager.swift` and `ATCFacebookAPIManager.swift`. The two managers differ in
what they do with an error of `fetchUser`. A step tells the `Outcome` that the manager shows or
delivers. Requests are answered at any time and in any order; permissions and the HUD are not
modelled.
-/

set_option autoImplicit false

namespace FinanciaApp.Source

open Library

namespace SocialLogin

/-- `showsFetchError` is where the two managers differ; `known` is as in `AuthErrorCode`. -/
structure Configuration where
  isFirebaseAuthEnabled : Bool
  hasUserManager : Bool
  showsFetchError : Bool
  known : Int → Bool

/-- The sheets of Apple and Facebook that are open, the requests in flight (a `fetchUser` request
with the user to fall back to, those to Facebook with the access token), and the users saved to
the server so far. -/
structure Requests where
  appleSheets : Nat
  appleSignIns : List ATCFirebaseLoginManager.Request
  appleFetches : List ATCUser
  facebookSheets : Nat
  facebookSignIns : List String
  facebookUsers : List String
  saved : List ATCUser

def Requests.none : Requests := ⟨0, [], [], 0, [], [], []⟩

/-- What the manager does after a step: `showLoginError`, with the default title or another one,
the call of its delegate, or the trap of `providerData[0]`. -/
inductive Outcome where
  | nothing
  | showLoginError (title : Option String)
  | didCompleteLogin (user : ATCUser)
  | indexOutOfRange

def Outcome.traps : Outcome → Bool
  | .indexOutOfRange => true
  | _ => false

inductive Event where
  | didTapAppleButton
  | didFetchAppleUserWith (firstName lastName email : Option String) (password : String)
  | appleSheetFailed
  | appleSignInReply (index : Nat) (reply : ATCFirebaseLoginManager.Reply)
  | appleFetchReply (index : Nat) (user : Option ATCUser) (error : Option String)
  | didTapFacebookButton
  | facebookLogInReply (hasToken : Bool) (current : Option String)
  | facebookSignInReply (index : Nat) (user : Option ATCFirebaseLoginManager.User)
  | facebookUserReply (index : Nat) (result : Option JSONValue)

/-- The event is no tap. -/
def Event.isReply : Event → Bool
  | .didTapAppleButton => false
  | .didTapFacebookButton => false
  | _ => true

section Handlers

variable (configuration : Configuration) (r : Requests)

def didFetchAppleUserWith (email : Option String) (password : String) : Requests :=
  match email with
  | some email =>
    { r with
      appleSignIns :=
        r.appleSignIns ++ [.signIn (ATCFirebaseLoginManager.signIn email password)] }
  | none => r

/-- What a call of `ATCFirebaseLoginManager.signIn` has come to: it goes on, or it ends with the
closure of the login with Apple, or without it. -/
def appleSignInCompletion (call : ATCFirebaseLoginManager.System) : Requests × Outcome :=
  if call.trapped then
    (r, .indexOutOfRange)
  else
    let going := { r with appleSignIns := r.appleSignIns ++ call.pending.toList }
    match call.completions with
    | [] => (going, .nothing)
    | (_, some message) :: _ => (going, .showLoginError message)
    | (none, none) :: _ => (going, .showLoginError .none)
    | (some atcUser, none) :: _ =>
      if atcUser.uid.isSome then
        ({ going with
            saved := r.saved ++ [atcUser]
            appleFetches :=
              if configuration.hasUserManager then r.appleFetches ++ [atcUser]
              else r.appleFetches },
          .nothing)
      else
        (going, .showLoginError .none)

/-- The closure of `fetchUser`. -/
def appleFetchCompletion (atcUser : ATCUser) (user : Option ATCUser) (error : Option String) :
    Outcome :=
  match error with
  | some message =>
    if configuration.showsFetchError then .showLoginError message
    else .didCompleteLogin (user.getD atcUser)
  | none => .didCompleteLogin (user.getD atcUser)

def didLoginWithFacebook (current : Option String) : Requests × Outcome :=
  match current with
  | some accessToken =>
    if configuration.isFirebaseAuthEnabled then
      ({ r with facebookSignIns := r.facebookSignIns ++ [accessToken] }, .nothing)
    else
      ({ r with facebookUsers := r.facebookUsers ++ [accessToken] }, .nothing)
  | none => (r, .showLoginError .none)

/-- The closure of `login(credential:)`. -/
def facebookSignInCompletion (user : Option ATCFirebaseLoginManager.User) : Requests × Outcome :=
  match user with
  | some user =>
    match ATCFirebaseLoginManager.atcUser user with
    | some atcUser => ({ r with saved := r.saved ++ [atcUser] }, .didCompleteLogin atcUser)
    | none => (r, .indexOutOfRange)
  | none => (r, .showLoginError .none)

/-- The closure of `requestFacebookUser`, if it is called. -/
def facebookUserCompletion (facebookUser : Option ATCFacebookUser) : Outcome :=
  match facebookUser with
  | some facebookUser =>
    match facebookUser.email with
    | some email =>
      .didCompleteLogin (ATCUser.new (facebookUser.id.getD "")
        (some (facebookUser.firstName.getD "")) (some (facebookUser.lastName.getD ""))
        (some (facebookUser.profilePicture.getD "")) email "" none none (some []) false none none
        false none "" false [])
    | none => .showLoginError .none
  | none => .nothing

def step : Event → Option (Requests × Outcome)
  | .didTapAppleButton => some ({ r with appleSheets := r.appleSheets + 1 }, .nothing)
  | .didFetchAppleUserWith _ _ email password =>
    if r.appleSheets = 0 then none
    else
      some (didFetchAppleUserWith { r with appleSheets := r.appleSheets - 1 } email password,
        .nothing)
  | .appleSheetFailed =>
    if r.appleSheets = 0 then none
    else some ({ r with appleSheets := r.appleSheets - 1 }, .nothing)
  | .appleSignInReply index reply =>
    (deliver r.appleSignIns index).bind fun answered =>
      (ATCFirebaseLoginManager.step configuration.known ⟨some answered.1, [], false⟩ reply).map
        fun call => appleSignInCompletion configuration { r with appleSignIns := answered.2 } call
  | .appleFetchReply index user error =>
    (deliver r.appleFetches index).map fun answered =>
      ({ r with appleFetches := answered.2 },
        appleFetchCompletion configuration answered.1 user error)
  | .didTapFacebookButton => some ({ r with facebookSheets := r.facebookSheets + 1 }, .nothing)
  | .facebookLogInReply hasToken current =>
    if r.facebookSheets = 0 then none
    else
      let closed := { r with facebookSheets := r.facebookSheets - 1 }
      some (if hasToken then didLoginWithFacebook configuration closed current
        else (closed, .nothing))
  | .facebookSignInReply index user =>
    (deliver r.facebookSignIns index).map fun answered =>
      facebookSignInCompletion { r with facebookSignIns := answered.2 } user
  | .facebookUserReply index result =>
    (deliver r.facebookUsers index).map fun answered =>
      ({ r with facebookUsers := answered.2 },
        facebookUserCompletion (ATCFacebookAPIManager.requestFacebookUser result))

end Handlers

end SocialLogin

def ATCLoginScreenManager.System.handle (s : ATCLoginScreenManager.System) :
    SocialLogin.Outcome → ATCLoginScreenManager.System
  | .nothing => s
  | .showLoginError title => s.showLoginError (title.getD ATCLoginScreenManager.loginError)
  | .didCompleteLogin user => { s with completions := s.completions ++ [some user] }
  | .indexOutOfRange => s

def ATCPhoneLoginScreenManager.System.handle (s : ATCPhoneLoginScreenManager.System) :
    SocialLogin.Outcome → ATCPhoneLoginScreenManager.System
  | .nothing => s
  | .showLoginError title => s.showLoginError (title.getD ATCPhoneLoginScreenManager.loginError)
  | .didCompleteLogin user => { s with completions := s.completions ++ [some user] }
  | .indexOutOfRange => s

end FinanciaApp.Source
