import FinanciaApp.Source.ATCLoginScreenManager

/-!
# Signing in with an e-mail

`signIn` of `Core/Helpers/ATCFirebaseLoginManager.swift:26-58`. A call has at most one request
in flight, which the next reply answers. Texts are as before localization.
-/

set_option autoImplicit false

namespace FinanciaApp.Source.ATCFirebaseLoginManager

open Library

/-- A `User` of FirebaseAuth, with the photo URLs of its `providerData`. -/
structure User where
  uid : String
  displayName : Option String
  email : Option String
  providerData : List (Option String)
  deriving DecidableEq, Repr

/-- The cases of `AuthErrorCode` that `signIn` tells apart. -/
inductive AuthErrorCode where
  | userNotFound
  | wrongPassword
  | other (rawValue : Int)
  deriving DecidableEq, Repr

/-- `AuthErrorCode(rawValue:)` with the values of `FIRAuthErrors.h`; which values it knows is
left open. -/
def AuthErrorCode.ofRawValue (known : Int → Bool) (rawValue : Int) : Option AuthErrorCode :=
  if known rawValue then
    some (if rawValue = 17011 then .userNotFound
      else if rawValue = 17009 then .wrongPassword
      else .other rawValue)
  else
    none

/-- `atcUser(for:)` of a user; `none` is the trap of `providerData[0]`. -/
def atcUser (fUser : User) : Option ATCUser :=
  fUser.providerData.head?.map fun photoURL =>
    ATCUser.new fUser.uid (some (fUser.displayName.getD "")) (some "") (some (photoURL.getD ""))
      (fUser.email.getD "") "" none none (some []) false none none false none "" false []

/-- The message for a wrong password. -/
def emailExists : String :=
  "E-mail already exists. Did you sign up with a different method (email, facebook, apple)?"

inductive Request where
  | signIn (sent : Credentials)
  | createUser (sent : Credentials)
  deriving DecidableEq, Repr

/-- A reply of the backend, with the `_code` of its error. -/
inductive Reply where
  | signIn (result : Except Int User)
  | createUser (error : Option Int)

/-- The request in flight, and the calls of `completionBlock` so far. -/
structure System where
  pending : Option Request
  completions : List (Option ATCUser × Option String)
  trapped : Bool

namespace System

def sending (s : System) (request : Request) : System :=
  { s with pending := some request }

def completing (s : System) (user : Option ATCUser) (errorMessage : Option String) : System :=
  { s with completions := s.completions ++ [(user, errorMessage)] }

def trap (s : System) : System :=
  { s with trapped := true }

end System

/-- A call of `signIn`. -/
def start (email pass : String) : System where
  pending := some (.signIn (signIn email pass))
  completions := []
  trapped := false

/-- The closure of the sign-in with `sent`. -/
def signInCompletion (known : Int → Bool) (sent : Credentials) (result : Except Int User)
    (s : System) : System :=
  match result with
  | .error code =>
    match AuthErrorCode.ofRawValue known code with
    | some .userNotFound => s.sending (.createUser sent)
    | some .wrongPassword => s.completing none (some emailExists)
    | some (.other _) => s
    | none => s.completing none none
  | .ok user =>
    match atcUser user with
    | some user => s.completing (some user) none
    | none => s.trap

/-- The closure of `createUser` with `sent`. -/
def createUserCompletion (sent : Credentials) (error : Option Int) (s : System) : System :=
  match error with
  | none => s.sending (.signIn (signIn sent.email sent.password))
  | some _ => s

/-- A reply answers a request of its kind. -/
def step (known : Int → Bool) (s : System) (reply : Reply) : Option System :=
  match s.pending, reply with
  | some (.signIn sent), .signIn result =>
    some (signInCompletion known sent result { s with pending := none })
  | some (.createUser sent), .createUser error =>
    some (createUserCompletion sent error { s with pending := none })
  | _, _ => none

theorem step_cases {known : Int → Bool} {s t : System} {reply : Reply}
    (stepped : step known s reply = some t) :
    (∃ sent result, s.pending = some (.signIn sent) ∧ reply = .signIn result ∧
      t = signInCompletion known sent result { s with pending := none }) ∨
    (∃ sent error, s.pending = some (.createUser sent) ∧ reply = .createUser error ∧
      t = createUserCompletion sent error { s with pending := none }) := by
  unfold step at stepped
  split at stepped
  · rename_i sent result pending
    exact Or.inl ⟨sent, result, pending, rfl, (Option.some_inj.mp stepped).symm⟩
  · rename_i sent error pending
    exact Or.inr ⟨sent, error, pending, rfl, (Option.some_inj.mp stepped).symm⟩
  · cases stepped

end FinanciaApp.Source.ATCFirebaseLoginManager
