import FinanciaApp.Library.Runs
import FinanciaApp.Source.ATCPhoneSignUpScreenManager

/-!
# The sign-up screen and its mode, one request at a time

In a sequential run the request in flight tells the mode. The closures of the three
requests set the mode, the title, the phone number and the OTP fields; the closure of
`createUser`, copied from the one of `signIn`, does so in e-mail mode and forgets the
e-mail and password fields.
-/

set_option autoImplicit false

namespace FinanciaApp.Guarantees

open Library Source Source.ATCPhoneSignUpScreenManager

section

variable (predicates : TextPredicates) (configuration : Configuration)
variable (viewModel : ATCPhoneSignUpScreenViewModel)

/-- The screen after a step matches the mode. -/
def SignUpScreenMatches (_s : System) (_e : Event) (t : System) : Prop :=
  t.screen.Matches viewModel.strings

/-- The event is no successful reply to `createUser`. -/
def NoUserCreated (e : Event) : Prop :=
  ∀ index user error, e ≠ .createUserReply index (some user) error

/-- At most one request is in flight, and it is the one of the mode. -/
structure RequestOfMode (s : System) : Prop where
  alone : s.verifications.length + s.signIns.length + s.creations.length ≤ 1
  verifying : s.verifications ≠ [] → s.screen.contactPoint = .phone
  signingIn : s.signIns ≠ [] → s.screen.contactPoint = .phoneWithOtp
  creating : s.creations ≠ [] → s.screen.contactPoint = .email

variable {predicates} {configuration} {viewModel} {s t : System} {e : Event}

theorem requestOfMode_of_idle (verifications : s.verifications = []) (signIns : s.signIns = [])
    (creations : s.creations = []) : RequestOfMode s where
  alone := by simp [verifications, signIns, creations]
  verifying waiting := absurd verifications waiting
  signingIn waiting := absurd signIns waiting
  creating waiting := absurd creations waiting

theorem idle_of_not_waiting (idle : ¬ s.waiting) :
    s.verifications = [] ∧ s.signIns = [] ∧ s.creations = [] := by
  simpa [System.waiting, not_or] using idle

/-- A tap sends at most the request of the mode. -/
theorem requestOfMode_tap (idle : ¬ s.waiting) (effect : TapEffect s t) :
    t.screen = s.screen ∧ RequestOfMode t := by
  obtain ⟨verifications, signIns, creations⟩ := idle_of_not_waiting idle
  cases effect with
  | none t screen requests =>
    exact ⟨screen, requestOfMode_of_idle (requests.1.trans verifications)
      (requests.2.1.trans signIns) (requests.2.2.trans creations)⟩
  | verification verification mode =>
    refine ⟨rfl, ?_, fun _ => mode, fun waiting => ?_, fun waiting => ?_⟩
    · simp [verifications, signIns, creations]
    · exact absurd signIns waiting
    · exact absurd creations waiting
  | signIn signIn mode =>
    refine ⟨rfl, ?_, fun waiting => ?_, fun _ => mode, fun waiting => ?_⟩
    · simp [verifications, signIns, creations]
    · exact absurd verifications waiting
    · exact absurd creations waiting
  | creation creation mode =>
    refine ⟨rfl, ?_, fun waiting => ?_, fun waiting => ?_, fun _ => mode⟩
    · simp [verifications, signIns, creations]
    · exact absurd verifications waiting
    · exact absurd signIns waiting

/-- Events that are no replies come while nothing is in flight and keep the screen matched. -/
theorem signUp_idle_step (h : s.screen.Matches viewModel.strings) (idle : ¬ s.waiting)
    (noReply : e.isReply = false) (taken : step predicates configuration viewModel s e = some t) :
    t.screen.Matches viewModel.strings ∧ RequestOfMode t := by
  obtain ⟨verifications, signIns, creations⟩ := idle_of_not_waiting idle
  cases e with
  | didTapContactPointButton =>
    cases taken
    exact ⟨ContactScreen.matches_toggleContactPoint _ _,
      requestOfMode_of_idle verifications signIns creations⟩
  | didTapSignUpButton =>
    cases taken
    obtain ⟨screen, requests⟩ :=
      requestOfMode_tap idle (didTapSignUpButton_effect predicates configuration s)
    rw [screen]
    exact ⟨h, requests⟩
  | editOtp texts =>
    simp only [step] at taken
    split at taken
    · cases taken
      exact ⟨⟨h.email, h.password, h.phoneNumber, h.otp, h.title⟩,
        requestOfMode_of_idle verifications signIns creations⟩
    · cases taken
  | verifyReply index reply => cases noReply
  | signInReply index user error => cases noReply
  | createUserReply index user error => cases noReply
  | _ =>
    cases taken
    exact ⟨h, requestOfMode_of_idle verifications signIns creations⟩

/-- The answered request was the only one, so its mode is the mode. -/
theorem RequestOfMode.verified (h : RequestOfMode s) {index : Nat}
    {verification : PhoneVerification} {rest : List PhoneVerification}
    (answered : deliver s.verifications index = some (verification, rest)) :
    rest = [] ∧ s.signIns = [] ∧ s.creations = [] ∧ s.screen.contactPoint = .phone := by
  obtain ⟨left, signIns, creations⟩ := deliver_alone h.alone answered
  exact ⟨left, signIns, creations, h.verifying (List.ne_nil_of_mem (deliver_mem answered))⟩

theorem RequestOfMode.signedIn (h : RequestOfMode s) {index : Nat} {signIn : SignIn}
    {rest : List SignIn} (answered : deliver s.signIns index = some (signIn, rest)) :
    rest = [] ∧ s.verifications = [] ∧ s.creations = [] ∧
      s.screen.contactPoint = .phoneWithOtp := by
  have alone := h.alone
  rw [Nat.add_comm s.verifications.length] at alone
  obtain ⟨left, verifications, creations⟩ := deliver_alone alone answered
  exact ⟨left, verifications, creations, h.signingIn (List.ne_nil_of_mem (deliver_mem answered))⟩

theorem RequestOfMode.created (h : RequestOfMode s) {index : Nat} {creation : Creation}
    {rest : List Creation} (answered : deliver s.creations index = some (creation, rest)) :
    rest = [] ∧ s.verifications = [] ∧ s.signIns = [] ∧ s.screen.contactPoint = .email := by
  have alone := h.alone
  rw [Nat.add_comm, ← Nat.add_assoc] at alone
  obtain ⟨left, verifications, signIns⟩ := deliver_alone alone answered
  exact ⟨left, verifications, signIns, h.creating (List.ne_nil_of_mem (deliver_mem answered))⟩

/-- A reply leaves nothing in flight, and leaves a matching screen unless a user was created. -/
theorem signUp_reply_step (h : s.screen.Matches viewModel.strings) (requests : RequestOfMode s)
    (isReply : e.isReply = true) (taken : step predicates configuration viewModel s e = some t) :
    (t.screen.Matches viewModel.strings ↔ NoUserCreated e) ∧ RequestOfMode t := by
  cases e with
  | verifyReply index reply =>
    obtain ⟨⟨verification, rest⟩, answered, rfl⟩ := Option.map_eq_some_iff.mp taken
    obtain ⟨left, signIns, creations, mode⟩ := requests.verified answered
    have met : NoUserCreated (.verifyReply index reply) := by simp [NoUserCreated]
    cases reply with
    | error message => exact ⟨iff_of_true h met, requestOfMode_of_idle left signIns creations⟩
    | ok verificationID =>
      refine ⟨iff_of_true ?_ met, requestOfMode_of_idle left signIns creations⟩
      exact (ContactScreen.matches_showOtp_iff h).mpr (by simp [mode])
  | signInReply index user error =>
    obtain ⟨⟨signIn, rest⟩, answered, rfl⟩ := Option.map_eq_some_iff.mp taken
    obtain ⟨left, verifications, creations, mode⟩ := requests.signedIn answered
    have met : NoUserCreated (.signInReply index user error) := by simp [NoUserCreated]
    cases user with
    | none => exact ⟨iff_of_true h met, requestOfMode_of_idle verifications left creations⟩
    | some user =>
      refine ⟨iff_of_true ?_ met, requestOfMode_of_idle verifications left creations⟩
      exact (ContactScreen.matches_backToPhone_iff h).mpr (by simp [mode])
  | createUserReply index user error =>
    obtain ⟨⟨creation, rest⟩, answered, rfl⟩ := Option.map_eq_some_iff.mp taken
    obtain ⟨left, verifications, signIns, mode⟩ := requests.created answered
    cases user with
    | none =>
      exact ⟨iff_of_true h (by simp [NoUserCreated]),
        requestOfMode_of_idle verifications signIns left⟩
    | some user =>
      -- the e-mail fields are still on the screen
      refine ⟨iff_of_false ?_ fun met => met index user error rfl,
        requestOfMode_of_idle verifications signIns left⟩
      intro shown
      exact (ContactScreen.matches_backToPhone_iff h).mp shown mode
  | _ => cases isReply

theorem signUp_sequential_step (h : s.screen.Matches viewModel.strings)
    (requests : RequestOfMode s)
    (taken : sequentialStep predicates configuration viewModel s e = some t) :
    (t.screen.Matches viewModel.strings ↔ NoUserCreated e) ∧ RequestOfMode t := by
  unfold sequentialStep at taken
  split at taken
  · cases taken
  · rename_i inOrder
    cases isReply : e.isReply with
    | true => exact signUp_reply_step h requests isReply taken
    | false =>
      have idle : ¬ s.waiting := fun waiting => inOrder ⟨waiting, isReply⟩
      obtain ⟨shown, requests'⟩ := signUp_idle_step h idle isReply taken
      refine ⟨iff_of_true shown fun index user error created => ?_, requests'⟩
      rw [created] at isReply
      cases isReply

/-- From a sign-up screen in e-mail mode and for every sequential run: the screen matches
the mode in every state exactly when no reply to `createUser` is successful. -/
theorem sign_up_screen_matches_iff (predicates : TextPredicates) (configuration : Configuration)
    (viewModel : ATCPhoneSignUpScreenViewModel) (startsWithEmail : viewModel.contactPoint = .email)
    (authVerificationID : Option String) (es : List Event) :
    (signUpScreenDidLoadView viewModel authVerificationID).screen.Matches viewModel.strings ∧
      (AlongRun (sequentialStep predicates configuration viewModel)
          (SignUpScreenMatches viewModel) (signUpScreenDidLoadView viewModel authVerificationID)
          es ↔
        AlongRun (sequentialStep predicates configuration viewModel)
          (fun _ e _ => NoUserCreated e) (signUpScreenDidLoadView viewModel authVerificationID)
          es) := by
  have start :
      (signUpScreenDidLoadView viewModel authVerificationID).screen.Matches viewModel.strings := by
    constructor <;> simp [signUpScreenDidLoadView, startsWithEmail, ContactScreen.titleOf,
      ATCPhoneSignUpScreenViewModel.strings]
  refine ⟨start, alongRun_iff_of_invariant
    (fun s => s.screen.Matches viewModel.strings ∧ RequestOfMode s) ?_ ?_
    ⟨start, requestOfMode_of_idle rfl rfl rfl⟩⟩
  · intro s e t h taken
    exact (signUp_sequential_step h.1 h.2 taken).1
  · intro s e t h taken met
    obtain ⟨shown, requests⟩ := signUp_sequential_step h.1 h.2 taken
    exact ⟨shown.mpr met, requests⟩

end

/-- The view model that the app configures. -/
def phoneSignUpViewModel : ATCPhoneSignUpScreenViewModel where
  signUpString := "Sign Up"
  contactPoint := .email
  phoneNumberSignUpString := "Sign up with phone number"
  emailSignUpString := "Sign up with E-mail"
  sendCodeString := "Send Code"
  phoneCodeString := some "+1"
  submitCodeString := "Submit Code"

/-- Counts characters, and takes every text to match. -/
def lenientPredicates : TextPredicates := ⟨String.length, fun _ _ => true⟩

/-- A user signs up by e-mail. -/
def signedUpByEmail : List Event :=
  [.editFirstName "Ana", .editEmail "ana@example.com", .editPassword "aA1!xx",
    .didTapSignUpButton, .createUserReply 0 (some ⟨"u1", none, none, none, none⟩) none]

theorem sign_up_screen_matches_iff_by_email :
    (signUpScreenDidLoadView phoneSignUpViewModel none).screen.Matches
        phoneSignUpViewModel.strings ∧
      (AlongRun (sequentialStep lenientPredicates ⟨true, "user"⟩ phoneSignUpViewModel)
          (SignUpScreenMatches phoneSignUpViewModel)
          (signUpScreenDidLoadView phoneSignUpViewModel none) signedUpByEmail ↔
        AlongRun (sequentialStep lenientPredicates ⟨true, "user"⟩ phoneSignUpViewModel)
          (fun _ e _ => NoUserCreated e)
          (signUpScreenDidLoadView phoneSignUpViewModel none) signedUpByEmail) :=
  sign_up_screen_matches_iff lenientPredicates ⟨true, "user"⟩ phoneSignUpViewModel rfl none
    signedUpByEmail

/-- After the sign-up the e-mail fields are on the screen beside the phone number. -/
theorem phone_number_beside_email :
    ¬ ∀ (viewModel : ATCPhoneSignUpScreenViewModel) (es : List Event),
      viewModel.contactPoint = .email →
      AlongRun (sequentialStep lenientPredicates ⟨true, "user"⟩ viewModel)
        (SignUpScreenMatches viewModel) (signUpScreenDidLoadView viewModel none) es := by
  intro claim
  have along := claim phoneSignUpViewModel signedUpByEmail rfl
  have shown := (((((along _ rfl).2 _ rfl).2 _ rfl).2 _ rfl).2 _ rfl).1
  exact absurd (shown.email.mpr (by decide)) (by decide)

end FinanciaApp.Guarantees
