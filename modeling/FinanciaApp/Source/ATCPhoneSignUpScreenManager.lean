import FinanciaApp.Library.InFlight
import FinanciaApp.Source.PhoneScreens

/-!
# The phone sign-up screen

`Core/Helpers/Onboarding/ATCPhoneSignUpScreenManager.swift:49-358`. The e-mail and password
fields are shown by the nib; `signUpScreenDidLoadView` hides the phone number in e-mail
mode, and the OTP fields. `String.count` and the evaluation of a `SELF MATCHES` predicate
are parameters. Texts are as before localization. Fonts, colors, placeholders, haptics and
the HUD are not modelled.
-/

set_option autoImplicit false

namespace FinanciaApp.Source

open Library

structure ATCPhoneSignUpScreenViewModel where
  signUpString : String
  contactPoint : ContactPoint
  phoneNumberSignUpString : String
  emailSignUpString : String
  sendCodeString : String
  phoneCodeString : Option String
  submitCodeString : String
  deriving DecidableEq, Repr

def ATCPhoneSignUpScreenViewModel.strings (viewModel : ATCPhoneSignUpScreenViewModel) :
    ContactStrings where
  primary := viewModel.signUpString
  sendCode := viewModel.sendCodeString
  submitCode := viewModel.submitCodeString
  usePhoneNumber := viewModel.phoneNumberSignUpString
  useEmail := viewModel.emailSignUpString

/-- `String.count` and `NSPredicate(format: "SELF MATCHES %@", regEx).evaluate(with: text)`. -/
structure TextPredicates where
  count : String → Nat
  evaluate : (regEx text : String) → Bool

namespace ATCPhoneSignUpScreenManager

/-- What the handlers read of the server configuration; `role` is the raw value. -/
structure Configuration where
  isFirebaseAuthEnabled : Bool
  role : String
  deriving DecidableEq, Repr

/-- A `signIn(with:)` request. -/
structure SignIn where
  verificationID : String
  verificationCode : String
  deriving DecidableEq, Repr

/-- A `createUser` request. -/
structure Creation where
  email : String
  password : String
  deriving DecidableEq, Repr

/-- The screen with its text fields, the verification ID in the user defaults, the requests
in flight, the users saved to the server, and the alerts and completed sign-ups so far. -/
structure System where
  screen : ContactScreen
  phoneCodeString : Option String
  firstName : Option String
  lastName : Option String
  phoneNumber : Option String
  email : Option String
  password : Option String
  authVerificationID : Option String
  requestedCodes : Nat
  verifications : List PhoneVerification
  signIns : List SignIn
  creations : List Creation
  saved : List ATCUser
  alerts : List String
  completions : List (Option ATCUser)

/-- `signUpScreenDidLoadView`, on empty text fields. -/
def signUpScreenDidLoadView (viewModel : ATCPhoneSignUpScreenViewModel)
    (authVerificationID : Option String) : System :=
  let isSignUpWithEmail := viewModel.contactPoint = .email
  { screen :=
      { contactPoint := viewModel.contactPoint
        emailHidden := false
        passwordHidden := false
        phoneNumberHidden := isSignUpWithEmail
        otpHidden := true
        primaryTitle := viewModel.signUpString
        contactPointTitle := viewModel.phoneNumberSignUpString
        otpTexts := List.replicate otpCount "" }
    phoneCodeString := viewModel.phoneCodeString
    firstName := some ""
    lastName := some ""
    phoneNumber := some ""
    email := some ""
    password := some ""
    authVerificationID := authVerificationID
    requestedCodes := 0
    verifications := []
    signIns := []
    creations := []
    saved := []
    alerts := []
    completions := [] }

/-- The text of `showGenericSignUpError`. -/
def genericSignUpError : String :=
  "Hubo un error en el proceso de registro. Por favor, cheque todos los campos y vuelva a intentar"

/-- The text for a failed reply without an error. -/
def tryAgainLater : String := "There was an error. Please try again later"

def System.showSignUpError (s : System) (text : String) : System :=
  { s with alerts := s.alerts ++ [text] }

def emailRegEx : String := "[A-Z0-9a-z._%+-]+@[A-Za-z0-9.-]+\\.[A-Za-z]\x7b2,64\x7d"

def passRegEx : String := "^(?=.*[A-Z])(?=.*[!@#$&*])(?=.*[0-9])(?=.*[a-z]).\x7b6\x7d$"

/-- `isValid`: the text of the error it shows, or `none` for `true`. -/
def isValid (predicates : TextPredicates) (email pass firstName : String) : Option String :=
  if predicates.count firstName < 2 then
    some "El nombre debe ser más largo que 2 caracteres."
  else if predicates.count email < 2 then
    some "El e-mail no debe estar vacío."
  else if !predicates.evaluate emailRegEx email then
    some "El e-mail debe tener un formato correcto."
  else if !predicates.evaluate passRegEx pass then
    some ("La contraseña debe tener al menos 6 caracteres, al menos un dígito, " ++
      "al menos una minúscula, al menos una mayúscula y al menos un caracter no alfanumérico")
  else
    none

section Handlers

variable (predicates : TextPredicates) (configuration : Configuration)
variable (viewModel : ATCPhoneSignUpScreenViewModel)

def didTapContactPointButton (s : System) : System :=
  { s with screen := s.screen.toggleContactPoint viewModel.strings }

def didTapSignUpButton (s : System) : System :=
  if configuration.isFirebaseAuthEnabled then
    match s.screen.contactPoint with
    | .phone =>
      match s.phoneCodeString, s.phoneNumber with
      | some phoneCodeString, some phoneNumber =>
        if phoneNumber ≠ "" then
          { s with
            requestedCodes := s.requestedCodes + 1
            verifications :=
              s.verifications ++ [⟨phoneCodeString ++ phoneNumber, s.requestedCodes⟩] }
        else
          s.showSignUpError genericSignUpError
      | _, _ => s.showSignUpError genericSignUpError
    | .phoneWithOtp =>
      if s.screen.verificationCode ≠ "" then
        { s with
          signIns := s.signIns ++ [⟨s.authVerificationID.getD "", s.screen.verificationCode⟩] }
      else
        s.showSignUpError genericSignUpError
    | .email =>
      match s.email, s.password, s.firstName with
      | some email, some password, some firstName =>
        match isValid predicates email password firstName with
        | some text => s.showSignUpError text
        | none => { s with creations := s.creations ++ [⟨email, password⟩] }
      | _, _, _ => s.showSignUpError genericSignUpError
  else
    { s with completions := s.completions ++ [none] }

/-- The closure of `verifyPhoneNumber`. -/
def verifyCompletion (reply : Except String (Option String)) (s : System) : System :=
  match reply with
  | .error message => s.showSignUpError message
  | .ok verificationID =>
    { s with
      authVerificationID := verificationID
      screen := s.screen.showOtp viewModel.strings }

/-- The user of a completed sign-up, with the names as they are in the text fields by then. -/
def atcUserOf (s : System) (user : FirebaseUser) (phoneNumber : String) : ATCUser :=
  ATCUser.new user.uid (some ((user.displayName.or s.firstName).getD ""))
    (some ((user.displayName.or s.lastName).getD "")) (some (user.photoURL.getD ""))
    (user.email.getD "") phoneNumber none none (some []) false none none false none
    configuration.role false []

/-- What the closures of `signIn` and of `createUser` do with a user. -/
def completeSignUp (atcUser : ATCUser) (s : System) : System :=
  { s with
    saved := s.saved ++ [atcUser]
    completions := s.completions ++ [some atcUser]
    screen := s.screen.backToPhone viewModel.strings }

/-- The closure of `signIn`. -/
def signInCompletion (user : Option FirebaseUser) (error : Option String) (s : System) : System :=
  match user with
  | some user =>
    completeSignUp viewModel (atcUserOf configuration s user (user.phoneNumber.getD "")) s
  | none => s.showSignUpError (error.getD tryAgainLater)

/-- The closure of `createUser`. -/
def createUserCompletion (user : Option FirebaseUser) (error : Option String) (s : System) :
    System :=
  match user with
  | some user => completeSignUp viewModel (atcUserOf configuration s user "") s
  | none => s.showSignUpError (error.getD tryAgainLater)

end Handlers

/-- The text fields are edited, or a country code is selected, at any time. -/
inductive Event where
  | didTapContactPointButton
  | didTapSignUpButton
  | editFirstName (text : String)
  | editLastName (text : String)
  | editPhoneNumber (text : String)
  | editEmail (text : String)
  | editPassword (text : String)
  | editOtp (texts : List String)
  | didSelectCountryCode (phoneCode : String)
  | verifyReply (index : Nat) (reply : Except String (Option String))
  | signInReply (index : Nat) (user : Option FirebaseUser) (error : Option String)
  | createUserReply (index : Nat) (user : Option FirebaseUser) (error : Option String)

/-- The event is a reply. -/
def Event.isReply : Event → Bool
  | .verifyReply _ _ => true
  | .signInReply _ _ _ => true
  | .createUserReply _ _ _ => true
  | _ => false

/-- A request was sent and is not answered. -/
def System.waiting (s : System) : Prop :=
  s.verifications ≠ [] ∨ s.signIns ≠ [] ∨ s.creations ≠ []

instance (s : System) : Decidable s.waiting :=
  inferInstanceAs (Decidable (s.verifications ≠ [] ∨ s.signIns ≠ [] ∨ s.creations ≠ []))

section Steps

variable (predicates : TextPredicates) (configuration : Configuration)
variable (viewModel : ATCPhoneSignUpScreenViewModel)

def step (s : System) : Event → Option System
  | .didTapContactPointButton => some (didTapContactPointButton viewModel s)
  | .didTapSignUpButton => some (didTapSignUpButton predicates configuration s)
  | .editFirstName text => some { s with firstName := some text }
  | .editLastName text => some { s with lastName := some text }
  | .editPhoneNumber text => some { s with phoneNumber := some text }
  | .editEmail text => some { s with email := some text }
  | .editPassword text => some { s with password := some text }
  | .editOtp texts =>
    if texts.length = s.screen.otpTexts.length then
      some { s with screen := { s.screen with otpTexts := texts } }
    else none
  | .didSelectCountryCode phoneCode => some { s with phoneCodeString := some phoneCode }
  | .verifyReply index reply =>
    (deliver s.verifications index).map fun answered =>
      verifyCompletion viewModel reply { s with verifications := answered.2 }
  | .signInReply index user error =>
    (deliver s.signIns index).map fun answered =>
      signInCompletion configuration viewModel user error { s with signIns := answered.2 }
  | .createUserReply index user error =>
    (deliver s.creations index).map fun answered =>
      createUserCompletion configuration viewModel user error { s with creations := answered.2 }

/-- What a tap on the primary button does: it sends the request of the mode, or none. -/
inductive TapEffect (s : System) : System → Prop where
  | none (t : System) (screen : t.screen = s.screen)
      (requests : t.verifications = s.verifications ∧ t.signIns = s.signIns ∧
        t.creations = s.creations) : TapEffect s t
  | verification (verification : PhoneVerification) (mode : s.screen.contactPoint = .phone) :
      TapEffect s
        { s with
          requestedCodes := s.requestedCodes + 1
          verifications := s.verifications ++ [verification] }
  | signIn (signIn : SignIn) (mode : s.screen.contactPoint = .phoneWithOtp) :
      TapEffect s { s with signIns := s.signIns ++ [signIn] }
  | creation (creation : Creation) (mode : s.screen.contactPoint = .email) :
      TapEffect s { s with creations := s.creations ++ [creation] }

theorem didTapSignUpButton_effect (s : System) :
    TapEffect s (didTapSignUpButton predicates configuration s) := by
  unfold didTapSignUpButton
  split
  · split
    · rename_i mode
      split
      · split
        · exact .verification _ mode
        · exact .none _ rfl ⟨rfl, rfl, rfl⟩
      · exact .none _ rfl ⟨rfl, rfl, rfl⟩
    · rename_i mode
      split
      · exact .signIn _ mode
      · exact .none _ rfl ⟨rfl, rfl, rfl⟩
    · rename_i mode
      split
      · split
        · exact .none _ rfl ⟨rfl, rfl, rfl⟩
        · exact .creation _ mode
      · exact .none _ rfl ⟨rfl, rfl, rfl⟩
  · exact .none _ rfl ⟨rfl, rfl, rfl⟩

/-- Every request is answered before the next event. -/
def sequentialStep (s : System) (e : Event) : Option System :=
  if s.waiting ∧ e.isReply = false then none else step predicates configuration viewModel s e

end Steps

end ATCPhoneSignUpScreenManager

end FinanciaApp.Source
