import FinanciaApp.Library.Runs
import FinanciaApp.Source.ATCPhoneLoginScreenManager

/-!
# The login screen and its mode

The contact-point button sets all four input groups and the title from the mode alone. The
reply to a sent code and the one to the user fetch after it set the mode, the title and two
of the groups, and take the e-mail fields to be hidden. They are, unless the button was
tapped while the request was in flight.
-/

set_option autoImplicit false

namespace FinanciaApp.Guarantees

open Library Source Source.ATCPhoneLoginScreenManager

section

variable (configuration : Configuration) (viewModel : ATCPhoneLoginScreenViewModel)

/-- The screen after a step matches the mode. -/
def LoginScreenMatches (_s : System) (_e : Event) (t : System) : Prop :=
  t.screen.Matches viewModel.strings

/-- A sent code, and a user fetched after a sign-in by code, find no e-mail mode. -/
structure AnsweredOffEmail (s : System) (e : Event) : Prop where
  code : ∀ index verificationID, e = .verifyReply index (.ok verificationID) →
    s.screen.contactPoint ≠ .email
  fetched : ∀ index user fetch rest, e = .fetchReply index user none →
    deliver s.fetches index = some (fetch, rest) → fetch.byCode = true →
    s.screen.contactPoint ≠ .email

variable {configuration} {viewModel}

theorem loginScreenMatches_step_iff (s : System) (e : Event) (t : System)
    (h : s.screen.Matches viewModel.strings)
    (taken : step configuration viewModel s e = some t) :
    LoginScreenMatches viewModel s e t ↔ AnsweredOffEmail s e := by
  have effect := step_screenEffect configuration viewModel taken
  unfold LoginScreenMatches
  generalize t.screen = screen at effect
  cases effect with
  | toggled =>
    exact iff_of_true (ContactScreen.matches_toggleContactPoint _ _) ⟨by simp, by simp⟩
  | codeSent index verificationID =>
    rw [ContactScreen.matches_showOtp_iff h]
    exact ⟨fun off => ⟨fun _ _ _ => off, by simp⟩, fun met => met.code index verificationID rfl⟩
  | loggedIn index user fetch rest answered byCode =>
    rw [ContactScreen.matches_backToPhone_iff h]
    exact ⟨fun off => ⟨by simp, fun _ _ _ _ _ _ _ => off⟩,
      fun met => met.fetched index user fetch rest rfl answered byCode⟩
  | otpEdited texts =>
    have kept : ContactScreen.Matches viewModel.strings { s.screen with otpTexts := texts } :=
      ⟨h.email, h.password, h.phoneNumber, h.otp, h.title⟩
    exact iff_of_true kept ⟨by simp, by simp⟩
  | same e noToggle noCode noLogin =>
    refine iff_of_true h ⟨fun index verificationID isReply => ?_, ?_⟩
    · exact absurd isReply (noCode index verificationID)
    · intro index user fetch rest isReply answered byCode
      rw [noLogin index user fetch rest isReply answered] at byCode
      cases byCode

/-- From a login screen in e-mail mode, for every configuration and every interleaving: the
screen matches the mode in every state exactly when no sent code and no user fetched after
a sign-in by code is answered in e-mail mode. -/
theorem login_screen_matches_iff (configuration : Configuration)
    (viewModel : ATCPhoneLoginScreenViewModel) (startsWithEmail : viewModel.contactPoint = .email)
    (authVerificationID : Option String) (es : List Event) :
    (loginScreenDidLoadView viewModel authVerificationID).screen.Matches viewModel.strings ∧
      (AlongRun (step configuration viewModel) (LoginScreenMatches viewModel)
          (loginScreenDidLoadView viewModel authVerificationID) es ↔
        AlongRun (step configuration viewModel) (fun s e _ => AnsweredOffEmail s e)
          (loginScreenDidLoadView viewModel authVerificationID) es) := by
  have start :
      (loginScreenDidLoadView viewModel authVerificationID).screen.Matches viewModel.strings := by
    constructor <;> simp [loginScreenDidLoadView, startsWithEmail, ContactScreen.titleOf,
      ATCPhoneLoginScreenViewModel.strings]
  refine ⟨start, ?_⟩
  refine alongRun_iff_of_invariant (fun s => s.screen.Matches viewModel.strings)
    loginScreenMatches_step_iff ?_ start
  intro s e t h taken met
  exact (loginScreenMatches_step_iff s e t h taken).mpr met

end

/-- The view model that the app configures. -/
def phoneLoginViewModel : ATCPhoneLoginScreenViewModel where
  loginString := "Log In"
  sendCodeString := "Send Code"
  submitCodeString := "Submit Code"
  phoneNumberLoginString := "Login with phone number"
  emailLoginString := "Sign in with E-mail"
  contactPoint := .email
  phoneCodeString := some "+1"

/-- A code is sent, and the user goes back to the e-mail before the reply. -/
def toggledWhileSending : List Event :=
  [.didTapContactPointButton, .editPhoneNumber "5551234", .didTapLoginButton,
    .didTapContactPointButton, .verifyReply 0 (.ok (some "id"))]

theorem login_screen_matches_iff_toggled_while_sending :
    (loginScreenDidLoadView phoneLoginViewModel none).screen.Matches phoneLoginViewModel.strings ∧
      (AlongRun (step ⟨true, true⟩ phoneLoginViewModel) (LoginScreenMatches phoneLoginViewModel)
          (loginScreenDidLoadView phoneLoginViewModel none) toggledWhileSending ↔
        AlongRun (step ⟨true, true⟩ phoneLoginViewModel) (fun s e _ => AnsweredOffEmail s e)
          (loginScreenDidLoadView phoneLoginViewModel none) toggledWhileSending) :=
  login_screen_matches_iff ⟨true, true⟩ phoneLoginViewModel rfl none toggledWhileSending

/-- The e-mail fields stay on the screen beside the OTP fields. -/
theorem otp_beside_email :
    ¬ ∀ (viewModel : ATCPhoneLoginScreenViewModel) (es : List Event),
      viewModel.contactPoint = .email →
      AlongRun (step ⟨true, true⟩ viewModel) (LoginScreenMatches viewModel)
        (loginScreenDidLoadView viewModel none) es := by
  intro claim
  have along := claim phoneLoginViewModel toggledWhileSending rfl
  have shown := (((((along _ rfl).2 _ rfl).2 _ rfl).2 _ rfl).2 _ rfl).1
  exact absurd (shown.email.mpr (by decide)) (by decide)

end FinanciaApp.Guarantees
