import FinanciaApp.Source.ATCPhoneSignUpScreenManager
import FinanciaApp.Source.StringExtensions

/-!
# The classic sign-up screen

`Core/Helpers/Onboarding/ATCSignUpScreenManager.swift:100-215`. The e-mail and the password
are trimmed before they are validated and sent; the name is neither. The branch for Shopify
is compiled out. Texts are as before localization; haptics and the HUD are not modelled.
-/

set_option autoImplicit false

namespace FinanciaApp.Source

open Library

/-- What goes to FirebaseAuth with `createUser` and with `signIn`. -/
structure Credentials where
  email : String
  password : String
  deriving DecidableEq, Repr

/-- What the classic screens read of `ATCOnboardingServerConfigurationProtocol`; `role` is
the raw value. -/
structure ATCOnboardingServerConfiguration where
  isFirebaseAuthEnabled : Bool
  role : String
  deriving DecidableEq, Repr

namespace ATCSignUpScreenManager

/-- The text fields, the `createUser` requests in flight, the users saved to the server,
and the alerts and completed sign-ups so far. -/
structure System where
  nameText : Option String
  emailText : Option String
  passwordText : Option String
  creations : List Credentials
  saved : List ATCUser
  alerts : List String
  completions : List (Option ATCUser)

def System.showSignUpError (s : System) (text : String) : System :=
  { s with alerts := s.alerts ++ [text] }

/-- The text of `showGenericSignUpError`. -/
def genericSignUpError : String :=
  "Hubo un error en el proceso de registro. Por favor, cheque todos los campos y vuelva a intentar"

/-- The text for a failed reply without an error. -/
def tryAgainLater : String := "There was an error. Please try again later"

def emailRegEx : String := "[A-Z0-9a-z._%+-]+@[A-Za-z0-9.-]+\\.[A-Za-z]\x7b2,64\x7d"

def passRegEx : String := "^(?=.*[a-z])(?=.*[$@$#!%*?&.])(?=.*[A-Z]).\x7b6,\x7d$"

/-- `isValid`: the text of the error it shows, or `none` for `true`. -/
def isValid (predicates : TextPredicates) (email pass firstName : String) : Option String :=
  if predicates.count firstName < 2 then
    some "El nombre debe ser más largo que 2 caracteres."
  else if predicates.count email < 2 then
    some "El e-mail debe estar vacío."
  else if !predicates.evaluate emailRegEx email then
    some "El e-mail debe tener un formato correcto."
  else if !predicates.evaluate passRegEx pass then
    some ("La contraseña debe tener al menos 6 caracteres, al menos un dígito, " ++
      "al menos una minúscula, al menos una mayúscula y al menos un caracter no alfanumérico")
  else
    none

/-- What an accepted form satisfies. -/
structure Accepted (predicates : TextPredicates) (email pass firstName : String) : Prop where
  named : 2 ≤ predicates.count firstName
  filled : 2 ≤ predicates.count email
  emailFormat : predicates.evaluate emailRegEx email = true
  passFormat : predicates.evaluate passRegEx pass = true

theorem isValid_eq_none_iff (predicates : TextPredicates) (email pass firstName : String) :
    isValid predicates email pass firstName = none ↔
      Accepted predicates email pass firstName := by
  constructor
  · intro valid
    unfold isValid at valid
    split at valid
    · cases valid
    · split at valid
      · cases valid
      · split at valid
        · cases valid
        · split at valid
          · cases valid
          · constructor
            · omega
            · omega
            · simp_all
            · simp_all
  · intro accepted
    have named : ¬ predicates.count firstName < 2 := Nat.not_lt.mpr accepted.named
    have filled : ¬ predicates.count email < 2 := Nat.not_lt.mpr accepted.filled
    simp [isValid, named, filled, accepted.emailFormat, accepted.passFormat]

section Handlers

variable (predicates : TextPredicates) (serverConfig : ATCOnboardingServerConfiguration)

def didTapSignUpButton (s : System) : System :=
  if serverConfig.isFirebaseAuthEnabled then
    match s.emailText, s.passwordText, s.nameText with
    | some email, some password, some firstName =>
      let trimmedEmail := atcTrimmed email
      let trimmedPass := atcTrimmed password
      match isValid predicates trimmedEmail trimmedPass firstName with
      | some text => s.showSignUpError text
      | none => { s with creations := s.creations ++ [⟨trimmedEmail, trimmedPass⟩] }
    | _, _, _ => s.showSignUpError genericSignUpError
  else
    { s with completions := s.completions ++ [none] }

/-- The user of a completed sign-up, with the name as it is in the text field by then. -/
def atcUserOf (s : System) (user : FirebaseUser) : ATCUser :=
  ATCUser.new user.uid (some ((user.displayName.or s.nameText).getD "")) (some "")
    (some (user.photoURL.getD "")) (user.email.getD "") "" none none (some []) false none none
    false none serverConfig.role false []

/-- The closure of `createUser`. -/
def createUserCompletion (user : Option FirebaseUser) (error : Option String) (s : System) :
    System :=
  match user with
  | some user =>
    let atcUser := atcUserOf serverConfig s user
    { s with
      saved := s.saved ++ [atcUser]
      completions := s.completions ++ [some atcUser] }
  | none => s.showSignUpError (error.getD tryAgainLater)

end Handlers

inductive Event where
  | editName (text : String)
  | editEmail (text : String)
  | editPassword (text : String)
  | didTapSignUpButton
  | createUserReply (index : Nat) (user : Option FirebaseUser) (error : Option String)

def step (predicates : TextPredicates) (serverConfig : ATCOnboardingServerConfiguration)
    (s : System) : Event → Option System
  | .editName text => some { s with nameText := some text }
  | .editEmail text => some { s with emailText := some text }
  | .editPassword text => some { s with passwordText := some text }
  | .didTapSignUpButton => some (didTapSignUpButton predicates serverConfig s)
  | .createUserReply index user error =>
    (deliver s.creations index).map fun answered =>
      createUserCompletion serverConfig user error { s with creations := answered.2 }

end ATCSignUpScreenManager

end FinanciaApp.Source
