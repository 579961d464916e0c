import FinanciaApp.Library.Runs
import FinanciaApp.Source.ATCLoginScreenManager

/-!
# A login after a sign-up

The classic sign-up screen creates the account with the trimmed e-mail and the trimmed
password; the classic login screen sends what its text fields hold. The two agree exactly
on texts that trimming leaves alone. `ATCFirebaseLoginManager.signIn`, which the same login
screen uses with Apple, trims like the sign-up.
-/

set_option autoImplicit false

namespace FinanciaApp.Guarantees

open Library Source

section

variable (predicates : TextPredicates) (serverConfig : ATCOnboardingServerConfiguration)

/-- A tap on the sign-up button sends `created`. -/
structure SendsCreation (s : ATCSignUpScreenManager.System) (email pass : String)
    (created : Credentials) : Prop where
  enabled : serverConfig.isFirebaseAuthEnabled = true
  named : ∃ firstName, s.nameText = some firstName ∧
    ATCSignUpScreenManager.Accepted predicates (atcTrimmed email) (atcTrimmed pass) firstName
  trimmed : created = ⟨atcTrimmed email, atcTrimmed pass⟩

variable {predicates} {serverConfig}

theorem creations_didTapSignUpButton_iff {s : ATCSignUpScreenManager.System}
    {email pass : String} (emailText : s.emailText = some email)
    (passwordText : s.passwordText = some pass) (created : Credentials) :
    (ATCSignUpScreenManager.didTapSignUpButton predicates serverConfig s).creations =
        s.creations ++ [created] ↔
      SendsCreation predicates serverConfig s email pass created := by
  unfold ATCSignUpScreenManager.didTapSignUpButton
  constructor
  · intro sent
    split at sent
    · rename_i enabled
      split at sent
      · rename_i email' pass' firstName isEmail isPass isName
        cases emailText.symm.trans isEmail
        cases passwordText.symm.trans isPass
        dsimp only at sent
        split at sent
        · simp [ATCSignUpScreenManager.System.showSignUpError] at sent
        · rename_i valid
          have accepted := (ATCSignUpScreenManager.isValid_eq_none_iff _ _ _ _).mp valid
          have same := List.append_cancel_left sent
          exact ⟨enabled, ⟨firstName, isName, accepted⟩, (List.singleton_inj.mp same).symm⟩
      · simp [ATCSignUpScreenManager.System.showSignUpError] at sent
    · simp at sent
  · rintro ⟨enabled, ⟨firstName, isName, accepted⟩, rfl⟩
    have valid := (ATCSignUpScreenManager.isValid_eq_none_iff _ _ _ _).mpr accepted
    simp [enabled, emailText, passwordText, isName, valid]

/-- The same texts, through the sibling sign-in: always the credentials of the account. -/
theorem sibling_signIn_eq_created {s : ATCSignUpScreenManager.System} {email pass : String}
    {created : Credentials} (sends : SendsCreation predicates serverConfig s email pass created) :
    ATCFirebaseLoginManager.signIn email pass = created :=
  sends.trimmed.symm

theorem signIns_didTapLoginButton {l : ATCLoginScreenManager.System} {email pass : String}
    (enabled : serverConfig.isFirebaseAuthEnabled = true)
    (contactPointText : l.contactPointText = some email)
    (passwordText : l.passwordText = some pass) :
    (ATCLoginScreenManager.didTapLoginButton serverConfig l).signIns =
      l.signIns ++ [⟨email, pass⟩] := by
  simp [ATCLoginScreenManager.didTapLoginButton, enabled, contactPointText, passwordText]

end

/-- The e-mail and the password are typed, and the sign-up button is tapped. -/
def signUpWith (email pass : String) : List ATCSignUpScreenManager.Event :=
  [.editEmail email, .editPassword pass, .didTapSignUpButton]

/-- The e-mail and the password are typed, and the login button is tapped. -/
def loginWith (email pass : String) : List ATCLoginScreenManager.Event :=
  [.editContactPoint email, .editPassword pass, .didTapLoginButton]

/-- For all predicates, every configuration, whatever the two screens did before and all
texts: after a sign-up that is accepted and creates an account, the login with the same
texts sends the credentials of the account exactly when neither text starts or ends with
whitespace or a newline. -/
theorem login_sends_created_iff (predicates : TextPredicates)
    (serverConfig : ATCOnboardingServerConfiguration) (hasUserManager : Bool)
    (s s' : ATCSignUpScreenManager.System) (l : ATCLoginScreenManager.System)
    (email pass : String) (created : Credentials)
    (signedUp : run (ATCSignUpScreenManager.step predicates serverConfig) s
      (signUpWith email pass) = some s')
    (accepted : s'.creations = s.creations ++ [created]) :
    (run (ATCLoginScreenManager.step serverConfig hasUserManager) l
        (loginWith email pass)).map ATCLoginScreenManager.System.signIns =
        some (l.signIns ++ [created]) ↔
      CleanEnds isWhitespaceOrNewline email.toList ∧
        CleanEnds isWhitespaceOrNewline pass.toList := by
  obtain rfl := Option.some.inj signedUp
  have sends := (creations_didTapSignUpButton_iff rfl rfl created).mp accepted
  have sent : (run (ATCLoginScreenManager.step serverConfig hasUserManager) l
      (loginWith email pass)).map ATCLoginScreenManager.System.signIns =
        some (l.signIns ++ [⟨email, pass⟩]) :=
    congrArg some (signIns_didTapLoginButton sends.enabled rfl rfl)
  calc (run (ATCLoginScreenManager.step serverConfig hasUserManager) l
        (loginWith email pass)).map ATCLoginScreenManager.System.signIns =
        some (l.signIns ++ [created])
      ↔ (⟨email, pass⟩ : Credentials) = created := by
        rw [sent, Option.some.injEq, List.append_cancel_left_eq, List.singleton_inj]
    _ ↔ atcTrimmed email = email ∧ atcTrimmed pass = pass := by
        rw [sends.trimmed, Credentials.mk.injEq, eq_comm, @eq_comm _ pass]
    _ ↔ _ := by
        rw [atcTrimmed_eq_self_iff, atcTrimmed_eq_self_iff]

/-- Texts without whitespace around them. -/
theorem login_sends_created_iff_clean :
    (run (ATCLoginScreenManager.step ⟨true, "user"⟩ true)
        ⟨some "", some "", [], [], [], []⟩
        (loginWith "ana@example.com" "aA1!xx")).map ATCLoginScreenManager.System.signIns =
        some ([] ++ [⟨"ana@example.com", "aA1!xx"⟩]) ↔
      CleanEnds isWhitespaceOrNewline "ana@example.com".toList ∧
        CleanEnds isWhitespaceOrNewline "aA1!xx".toList :=
  login_sends_created_iff ⟨String.length, fun _ _ => true⟩ ⟨true, "user"⟩ true
    ⟨some "Ana", some "", some "", [], [], [], []⟩ _ _ "ana@example.com" "aA1!xx" _ rfl
    (by decide +kernel)

/-- A space behind the e-mail, as autofill leaves it, keeps the new account from being
logged in to. -/
theorem trailing_space_is_not_logged_in :
    ¬ ∀ (s s' : ATCSignUpScreenManager.System) (l : ATCLoginScreenManager.System)
      (email pass : String) (created : Credentials),
      run (ATCSignUpScreenManager.step ⟨String.length, fun _ _ => true⟩ ⟨true, "user"⟩) s
        (signUpWith email pass) = some s' →
      s'.creations = s.creations ++ [created] →
      (run (ATCLoginScreenManager.step ⟨true, "user"⟩ true) l
        (loginWith email pass)).map ATCLoginScreenManager.System.signIns =
        some (l.signIns ++ [created]) := by
  intro claim
  have sent := claim ⟨some "Ana", some "", some "", [], [], [], []⟩ _
    ⟨some "", some "", [], [], [], []⟩ "ana@example.com " "aA1!xx"
    ⟨"ana@example.com", "aA1!xx"⟩ rfl (by decide +kernel)
  exact absurd sent (by decide +kernel)

end FinanciaApp.Guarantees
