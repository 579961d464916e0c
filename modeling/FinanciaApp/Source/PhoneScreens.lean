import Mathlib.Logic.Basic
import FinanciaApp.Source.ATCPersistentStore

/-!
# The contact point of the phone screens

The login and the sign-up screen with a phone number
(`Core/Helpers/Onboarding/ATCPhoneLoginScreenManager.swift` and
`ATCPhoneSignUpScreenManager.swift`) have the same four input groups, the same two titled
buttons and the same three changes of the contact point. `ContactScreen` is what they
have in common; the managers differ in the strings of their view models. All outlets are
connected in the nibs, so the `if let`s on outlets always succeed.
-/

set_option autoImplicit false

namespace FinanciaApp.Source

inductive ContactPoint where
  | email
  | phone
  | phoneWithOtp
  deriving DecidableEq, Repr

/-- `kPhoneVerificationConfig.otpCount`. -/
def otpCount : Nat := 6

/-- What a reply of FirebaseAuth tells about its user. -/
structure FirebaseUser where
  uid : String
  displayName : Option String
  email : Option String
  photoURL : Option String
  phoneNumber : Option String
  deriving DecidableEq, Repr

/-- A `verifyPhoneNumber` request; requests are numbered in the order of the taps. -/
structure PhoneVerification where
  phoneNumber : String
  number : Nat
  deriving DecidableEq, Repr

/-- The strings that the handlers set as titles. -/
structure ContactStrings where
  primary : String
  sendCode : String
  submitCode : String
  usePhoneNumber : String
  useEmail : String
  deriving DecidableEq, Repr

/-- The contact point of the view model, `isHidden` of the four input groups, the titles of
the primary and the contact-point button, and the texts of the OTP fields. -/
structure ContactScreen where
  contactPoint : ContactPoint
  emailHidden : Bool
  passwordHidden : Bool
  phoneNumberHidden : Bool
  otpHidden : Bool
  primaryTitle : String
  contactPointTitle : String
  otpTexts : List String
  deriving DecidableEq, Repr

namespace ContactScreen

/-- The text that the OTP fields spell. -/
def verificationCode (screen : ContactScreen) : String :=
  screen.otpTexts.foldl (fun code text => code ++ text) ""

section Changes

variable (strings : ContactStrings) (screen : ContactScreen)

/-- The contact-point button. -/
def toggleContactPoint : ContactScreen :=
  let isWithEmail := screen.contactPoint = .email
  let toggled :=
    { screen with
      emailHidden := isWithEmail
      passwordHidden := isWithEmail
      phoneNumberHidden := !isWithEmail
      otpHidden := true }
  match screen.contactPoint with
  | .email =>
    { toggled with
      contactPointTitle := strings.useEmail
      primaryTitle := strings.sendCode
      contactPoint := .phone }
  | .phone =>
    { toggled with
      contactPointTitle := strings.usePhoneNumber
      primaryTitle := strings.primary
      contactPoint := .email }
  | .phoneWithOtp =>
    { toggled with
      contactPointTitle := strings.usePhoneNumber
      primaryTitle := strings.primary
      otpTexts := screen.otpTexts.map fun _ => ""
      contactPoint := .email }

/-- A code was sent: the phone number makes way for the OTP fields. -/
def showOtp : ContactScreen :=
  { screen with
    contactPoint := .phoneWithOtp
    otpHidden := false
    phoneNumberHidden := true
    primaryTitle := strings.submitCode }

/-- After a completed login or sign-up: the OTP fields make way for the phone number. -/
def backToPhone : ContactScreen :=
  { screen with
    contactPoint := .phone
    otpHidden := true
    phoneNumberHidden := false
    primaryTitle := strings.sendCode }

end Changes

/-- The title of the primary button for a contact point. -/
def titleOf (strings : ContactStrings) : ContactPoint → String
  | .email => strings.primary
  | .phone => strings.sendCode
  | .phoneWithOtp => strings.submitCode

/-- Exactly the input group of the contact point is shown, with its title. -/
structure Matches (strings : ContactStrings) (screen : ContactScreen) : Prop where
  email : screen.emailHidden = true ↔ screen.contactPoint ≠ .email
  password : screen.passwordHidden = true ↔ screen.contactPoint ≠ .email
  phoneNumber : screen.phoneNumberHidden = true ↔ screen.contactPoint ≠ .phone
  otp : screen.otpHidden = true ↔ screen.contactPoint ≠ .phoneWithOtp
  title : screen.primaryTitle = titleOf strings screen.contactPoint

/-- The contact-point button leaves a matching screen, whatever the screen was. -/
theorem matches_toggleContactPoint (strings : ContactStrings) (screen : ContactScreen) :
    (screen.toggleContactPoint strings).Matches strings := by
  cases mode : screen.contactPoint with
  | email => constructor <;> simp [toggleContactPoint, mode, titleOf]
  | phone => constructor <;> simp [toggleContactPoint, mode, titleOf]
  | phoneWithOtp => constructor <;> simp [toggleContactPoint, mode, titleOf]

/-- The OTP fields replace the phone number, not the e-mail. -/
theorem matches_showOtp_iff {strings : ContactStrings} {screen : ContactScreen}
    (h : screen.Matches strings) :
    (screen.showOtp strings).Matches strings ↔ screen.contactPoint ≠ .email := by
  constructor
  · intro shown
    exact h.email.mp (shown.email.mpr (by simp [showOtp]))
  · intro notEmail
    have emailHidden := h.email.mpr notEmail
    have passwordHidden := h.password.mpr notEmail
    constructor <;> simp [showOtp, titleOf, emailHidden, passwordHidden]

/-- Nor does the phone number replace the e-mail. -/
theorem matches_backToPhone_iff {strings : ContactStrings} {screen : ContactScreen}
    (h : screen.Matches strings) :
    (screen.backToPhone strings).Matches strings ↔ screen.contactPoint ≠ .email := by
  constructor
  · intro shown
    exact h.email.mp (shown.email.mpr (by simp [backToPhone]))
  · intro notEmail
    have emailHidden := h.email.mpr notEmail
    have passwordHidden := h.password.mpr notEmail
    constructor <;> simp [backToPhone, titleOf, emailHidden, passwordHidden]

end ContactScreen

end FinanciaApp.Source
