import FinanciaApp.Source.ATCSignUpScreenManager

/-!
# The classic login screen

`Core/Helpers/Onboarding/ATCLoginScreenManager.swift:137-218`, with the sign-in of
`Core/Helpers/ATCFirebaseLoginManager.swift:26-34` that its login with Apple uses. The
branch for Shopify is compiled out. Texts are as before localization; haptics and the HUD are not
modelled, and the logins with Facebook and Apple are a model of their own (`SocialLogin`).
-/

set_option autoImplicit false

namespace FinanciaApp.Source

open Library

/-- What `ATCFirebaseLoginManager.signIn` sends. -/
def ATCFirebaseLoginManager.signIn (email pass : String) : Credentials :=
  ⟨atcTrimmed email, atcTrimmed pass⟩

namespace ATCLoginScreenManager

/-- The text fields, the requests in flight (a `fetchUser` request with the user to fall
back to), and the alerts and completed logins so far. -/
structure System where
  contactPointText : Option String
  passwordText : Option String
  signIns : List Credentials
  fetches : List ATCUser
  alerts : List String
  completions : List (Option ATCUser)

/-- The default title of `showLoginError`. -/
def loginError : String :=
  "Las credenciales de acceso son incorrectas. Por favor vuelva a intentar"

def System.showLoginError (s : System) (title : String) : System :=
  { s with alerts := s.alerts ++ [title] }

/-- The user that a login falls back to. -/
def atcUserOf (user : FirebaseUser) : ATCUser :=
  ATCUser.new user.uid (some (user.displayName.getD "")) (some "") (some (user.photoURL.getD ""))
    (user.email.getD "") "" none none (some []) false none none false none "" false []

section Handlers

variable (serverConfig : ATCOnboardingServerConfiguration) (hasUserManager : Bool)

def didTapLoginButton (s : System) : System :=
  if serverConfig.isFirebaseAuthEnabled then
    match s.contactPointText, s.passwordText with
    | some email, some password => { s with signIns := s.signIns ++ [⟨email, password⟩] }
    | _, _ => s.showLoginError loginError
  else
    { s with completions := s.completions ++ [none] }

/-- The closure of `signIn`. -/
def signInCompletion (user : Option FirebaseUser) (s : System) : System :=
  match user with
  | some user => if hasUserManager then { s with fetches := s.fetches ++ [atcUserOf user] } else s
  | none => s.showLoginError loginError

/-- The closure of `fetchUser`. -/
def fetchCompletion (atcUser : ATCUser) (user : Option ATCUser) (error : Option String)
    (s : System) : System :=
  match error with
  | some message => s.showLoginError message
  | none => { s with completions := s.completions ++ [some (user.getD atcUser)] }

end Handlers

inductive Event where
  | editContactPoint (text : String)
  | editPassword (text : String)
  | didTapLoginButton
  | signInReply (index : Nat) (user : Option FirebaseUser)
  | fetchReply (index : Nat) (user : Option ATCUser) (error : Option String)

def step (serverConfig : ATCOnboardingServerConfiguration) (hasUserManager : Bool) (s : System) :
    Event → Option System
  | .editContactPoint text => some { s with contactPointText := some text }
  | .editPassword text => some { s with passwordText := some text }
  | .didTapLoginButton => some (didTapLoginButton serverConfig s)
  | .signInReply index user =>
    (deliver s.signIns index).map fun answered =>
      signInCompletion hasUserManager user { s with signIns := answered.2 }
  | .fetchReply index user error =>
    (deliver s.fetches index).map fun answered =>
      fetchCompletion answered.1 user error { s with fetches := answered.2 }

end ATCLoginScreenManager

end FinanciaApp.Source
