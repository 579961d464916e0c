import FinanciaApp.Guarantees.HostUsers
import FinanciaApp.Source.ATCOnboardingCoordinator

/-!
# What an event of a screen manager completes

`ATCLoginScreenManager.swift`, `ATCPhoneLoginScreenManager.swift`, `ATCSignUpScreenManager.swift`
and `ATCPhoneSignUpScreenManager.swift`, with the logins with Facebook and Apple. An event completes
one login or sign-up at most (`Grows`), and the user of it has an ID that this event brings from the
server, or one that an earlier reply told and that the login falls back to.
-/

set_option autoImplicit false

namespace FinanciaApp.Guarantees

open Library Source Source.Onboarding

/-- What an event of a manager does to its completions and to the users it falls back to, where
it brings some user IDs. -/
structure Grows (brought : List String) (completions : List (Option ATCUser))
    (fetches : List ATCUser) (completions' : List (Option ATCUser)) (fetches' : List ATCUser) :
    Prop where
  completed : ∃ more, completions' = completions ++ more ∧ more.length ≤ 1 ∧
    ∀ user, some user ∈ more →
      identity user ∈ brought ∨ ∃ fetch ∈ fetches, identity user = identity fetch
  fetched : ∀ fetch ∈ fetches', fetch ∈ fetches ∨ identity fetch ∈ brought

theorem grows_none (brought : List String) (completions : List (Option ATCUser))
    {fetches fetches' : List ATCUser} (subset : ∀ fetch ∈ fetches', fetch ∈ fetches) :
    Grows brought completions fetches completions fetches' where
  completed := ⟨[], (List.append_nil _).symm, Nat.zero_le _, fun _ there => by cases there⟩
  fetched := fun fetch there => Or.inl (subset fetch there)

/-- A completion without a user. -/
theorem grows_guest (brought : List String) (completions : List (Option ATCUser))
    (fetches : List ATCUser) :
    Grows brought completions fetches (completions ++ [none]) fetches where
  completed := ⟨[none], rfl, Nat.le_refl _, fun user there => by simp at there⟩
  fetched := fun _ => Or.inl

theorem grows_user {brought : List String} (completions : List (Option ATCUser))
    {fetches fetches' : List ATCUser} {user : ATCUser}
    (known : identity user ∈ brought ∨ ∃ fetch ∈ fetches, identity user = identity fetch)
    (subset : ∀ fetch ∈ fetches', fetch ∈ fetches) :
    Grows brought completions fetches (completions ++ [some user]) fetches' where
  completed := by
    refine ⟨[some user], rfl, Nat.le_refl _, fun other there => ?_⟩
    cases List.mem_singleton.mp there
    exact known
  fetched := fun fetch there => Or.inl (subset fetch there)

theorem grows_fetch {brought : List String} (completions : List (Option ATCUser))
    (fetches : List ATCUser) {fetch : ATCUser} (known : identity fetch ∈ brought) :
    Grows brought completions fetches completions (fetches ++ [fetch]) where
  completed := ⟨[], (List.append_nil _).symm, Nat.zero_le _, fun _ there => by cases there⟩
  fetched := by
    intro other there
    rcases List.mem_append.mp there with old | new
    · exact Or.inl old
    · rw [List.mem_singleton.mp new]
      exact Or.inr known

/-- The user IDs that the server tells with a reply. -/
def loginBrings : ATCLoginScreenManager.Event → List String
  | .signInReply _ (some user) => [user.uid]
  | .fetchReply _ (some user) none => [identity user]
  | _ => []

def signUpBrings : ATCSignUpScreenManager.Event → List String
  | .createUserReply _ (some user) _ => [user.uid]
  | _ => []

def phoneLoginBrings : ATCPhoneLoginScreenManager.Event → List String
  | .signInReply _ (some user) => [user.uid]
  | .fetchReply _ (some user) none => [identity user]
  | _ => []

def phoneSignUpBrings : ATCPhoneSignUpScreenManager.Event → List String
  | .signInReply _ (some user) _ => [user.uid]
  | .createUserReply _ (some user) _ => [user.uid]
  | _ => []

def socialBrings : SocialLogin.Event → List String
  | .appleSignInReply _ (.signIn (.ok user)) => [user.uid]
  | .appleFetchReply _ (some user) _ => [identity user]
  | .facebookSignInReply _ (some user) => [user.uid]
  | _ => []

section Managers

theorem grows_login {serverConfig : ATCOnboardingServerConfiguration} {hasUserManager : Bool}
    {s t : ATCLoginScreenManager.System} {e : ATCLoginScreenManager.Event}
    (h : ATCLoginScreenManager.step serverConfig hasUserManager s e = some t) :
    Grows (loginBrings e) s.completions s.fetches t.completions t.fetches := by
  cases e with
  | editContactPoint text =>
    cases h
    exact grows_none _ _ fun _ => id
  | editPassword text =>
    cases h
    exact grows_none _ _ fun _ => id
  | didTapLoginButton =>
    cases h
    unfold ATCLoginScreenManager.didTapLoginButton
    split
    · split
      · exact grows_none _ _ fun _ => id
      · exact grows_none _ _ fun _ => id
    · exact grows_guest _ _ _
  | signInReply index user =>
    obtain ⟨⟨credentials, rest⟩, -, rfl⟩ := Option.map_eq_some_iff.mp h
    cases user with
    | none => exact grows_none _ _ fun _ => id
    | some user =>
      simp only [ATCLoginScreenManager.signInCompletion]
      split
      · exact grows_fetch _ _ List.mem_cons_self
      · exact grows_none _ _ fun _ => id
  | fetchReply index user error =>
    obtain ⟨⟨fetch, rest⟩, answered, rfl⟩ := Option.map_eq_some_iff.mp h
    have subset := deliver_rest_subset answered
    cases error with
    | some message => exact grows_none _ _ subset
    | none =>
      refine grows_user _ ?_ subset
      cases user with
      | none => exact Or.inr ⟨fetch, deliver_mem answered, rfl⟩
      | some user => exact Or.inl List.mem_cons_self

theorem grows_signUp {predicates : TextPredicates}
    {serverConfig : ATCOnboardingServerConfiguration} {s t : ATCSignUpScreenManager.System}
    {e : ATCSignUpScreenManager.Event}
    (h : ATCSignUpScreenManager.step predicates serverConfig s e = some t) :
    Grows (signUpBrings e) s.completions [] t.completions [] := by
  cases e with
  | didTapSignUpButton =>
    cases h
    unfold ATCSignUpScreenManager.didTapSignUpButton
    split
    · split
      · dsimp only
        split
        · exact grows_none _ _ fun _ => id
        · exact grows_none _ _ fun _ => id
      · exact grows_none _ _ fun _ => id
    · exact grows_guest _ _ _
  | createUserReply index user error =>
    obtain ⟨⟨credentials, rest⟩, -, rfl⟩ := Option.map_eq_some_iff.mp h
    cases user with
    | none => exact grows_none _ _ fun _ => id
    | some user => exact grows_user _ (Or.inl List.mem_cons_self) fun _ => id
  | editName text =>
    cases h
    exact grows_none _ _ fun _ => id
  | editEmail text =>
    cases h
    exact grows_none _ _ fun _ => id
  | editPassword text =>
    cases h
    exact grows_none _ _ fun _ => id

theorem grows_phoneLogin {configuration : ATCPhoneLoginScreenManager.Configuration}
    {viewModel : ATCPhoneLoginScreenViewModel} {s t : ATCPhoneLoginScreenManager.System}
    {e : ATCPhoneLoginScreenManager.Event}
    (h : ATCPhoneLoginScreenManager.step configuration viewModel s e = some t) :
    Grows (phoneLoginBrings e) s.completions
      (s.fetches.map ATCPhoneLoginScreenManager.Fetch.atcUser) t.completions
      (t.fetches.map ATCPhoneLoginScreenManager.Fetch.atcUser) := by
  cases e with
  | didTapLoginButton =>
    cases h
    unfold ATCPhoneLoginScreenManager.didTapLoginButton
    split
    · split
      · split
        · split
          · exact grows_none _ _ fun _ => id
          · exact grows_none _ _ fun _ => id
        · exact grows_none _ _ fun _ => id
      · split
        · exact grows_none _ _ fun _ => id
        · exact grows_none _ _ fun _ => id
      · split
        · exact grows_none _ _ fun _ => id
        · exact grows_none _ _ fun _ => id
    · exact grows_guest _ _ _
  | verifyReply index reply =>
    obtain ⟨⟨verification, rest⟩, -, rfl⟩ := Option.map_eq_some_iff.mp h
    cases reply <;> exact grows_none _ _ fun _ => id
  | signInReply index user =>
    obtain ⟨⟨credentials, rest⟩, -, rfl⟩ := Option.map_eq_some_iff.mp h
    cases user with
    | none => exact grows_none _ _ fun _ => id
    | some user =>
      simp only [ATCPhoneLoginScreenManager.signInCompletion]
      split
      · simp only [List.map_append, List.map_cons, List.map_nil]
        exact grows_fetch _ _ List.mem_cons_self
      · exact grows_none _ _ fun _ => id
  | fetchReply index user error =>
    obtain ⟨⟨fetch, rest⟩, answered, rfl⟩ := Option.map_eq_some_iff.mp h
    have subset : ∀ user ∈ rest.map ATCPhoneLoginScreenManager.Fetch.atcUser,
        user ∈ s.fetches.map ATCPhoneLoginScreenManager.Fetch.atcUser :=
      List.map_subset _ (deliver_rest_subset answered)
    cases error with
    | some message => exact grows_none _ _ subset
    | none =>
      have known : identity (user.getD fetch.atcUser) ∈
            phoneLoginBrings (.fetchReply index user none) ∨
          ∃ known ∈ s.fetches.map ATCPhoneLoginScreenManager.Fetch.atcUser,
            identity (user.getD fetch.atcUser) = identity known := by
        cases user with
        | none =>
          exact Or.inr ⟨fetch.atcUser, List.mem_map_of_mem (deliver_mem answered), rfl⟩
        | some user => exact Or.inl List.mem_cons_self
      simp only [ATCPhoneLoginScreenManager.fetchCompletion]
      split
      · exact grows_user _ known subset
      · exact grows_user _ known subset
  | editOtp texts =>
    simp only [ATCPhoneLoginScreenManager.step] at h
    split at h
    · cases h
      exact grows_none _ _ fun _ => id
    · cases h
  | _ =>
    cases h
    exact grows_none _ _ fun _ => id

theorem grows_phoneSignUp {predicates : TextPredicates}
    {configuration : ATCPhoneSignUpScreenManager.Configuration}
    {viewModel : ATCPhoneSignUpScreenViewModel} {s t : ATCPhoneSignUpScreenManager.System}
    {e : ATCPhoneSignUpScreenManager.Event}
    (h : ATCPhoneSignUpScreenManager.step predicates configuration viewModel s e = some t) :
    Grows (phoneSignUpBrings e) s.completions [] t.completions [] := by
  cases e with
  | didTapSignUpButton =>
    cases h
    unfold ATCPhoneSignUpScreenManager.didTapSignUpButton
    split
    · split
      · split
        · split
          · exact grows_none _ _ fun _ => id
          · exact grows_none _ _ fun _ => id
        · exact grows_none _ _ fun _ => id
      · split
        · exact grows_none _ _ fun _ => id
        · exact grows_none _ _ fun _ => id
      · split
        · split
          · exact grows_none _ _ fun _ => id
          · exact grows_none _ _ fun _ => id
        · exact grows_none _ _ fun _ => id
    · exact grows_guest _ _ _
  | verifyReply index reply =>
    obtain ⟨⟨verification, rest⟩, -, rfl⟩ := Option.map_eq_some_iff.mp h
    cases reply <;> exact grows_none _ _ fun _ => id
  | signInReply index user error =>
    obtain ⟨⟨credentials, rest⟩, -, rfl⟩ := Option.map_eq_some_iff.mp h
    cases user with
    | none => exact grows_none _ _ fun _ => id
    | some user => exact grows_user _ (Or.inl List.mem_cons_self) fun _ => id
  | createUserReply index user error =>
    obtain ⟨⟨credentials, rest⟩, -, rfl⟩ := Option.map_eq_some_iff.mp h
    cases user with
    | none => exact grows_none _ _ fun _ => id
    | some user => exact grows_user _ (Or.inl List.mem_cons_self) fun _ => id
  | editOtp texts =>
    simp only [ATCPhoneSignUpScreenManager.step] at h
    split at h
    · cases h
      exact grows_none _ _ fun _ => id
    · cases h
  | _ =>
    cases h
    exact grows_none _ _ fun _ => id

end Managers

section SocialLogins

variable {configuration : SocialLogin.Configuration} {r r' : SocialLogin.Requests}
variable {e : SocialLogin.Event} {outcome : SocialLogin.Outcome}

/-- A login with Facebook or Apple completes with a user whose ID the event brings or that it falls
back to, and falls back to no other users. -/
structure Vouches (brought : List String) (r : SocialLogin.Requests)
    (next : SocialLogin.Requests × SocialLogin.Outcome) : Prop where
  completed : ∀ user, next.2 = .didCompleteLogin user →
    identity user ∈ brought ∨ ∃ fetch ∈ r.appleFetches, identity user = identity fetch
  fetched : ∀ fetch ∈ next.1.appleFetches, fetch ∈ r.appleFetches ∨ identity fetch ∈ brought

theorem vouches_none (brought : List String) {next : SocialLogin.Requests × SocialLogin.Outcome}
    (incomplete : ∀ user, next.2 ≠ .didCompleteLogin user)
    (same : next.1.appleFetches = r.appleFetches) : Vouches brought r next where
  completed := fun user isUser => absurd isUser (incomplete user)
  fetched := fun _ there => Or.inl (same ▸ there)

/-- The user that FirebaseAuth tells of keeps the ID. -/
theorem identity_atcUser {user : ATCFirebaseLoginManager.User} {atcUser : ATCUser}
    (isUser : ATCFirebaseLoginManager.atcUser user = some atcUser) :
    identity atcUser = user.uid := by
  obtain ⟨photoURL, -, rfl⟩ := Option.map_eq_some_iff.mp isUser
  rfl

theorem vouches_appleSignIn {request : ATCFirebaseLoginManager.Request}
    {call : ATCFirebaseLoginManager.System} {reply : ATCFirebaseLoginManager.Reply} (index : Nat)
    (stepped : ATCFirebaseLoginManager.step configuration.known ⟨some request, [], false⟩ reply =
      some call) :
    Vouches (socialBrings (.appleSignInReply index reply)) r
      (SocialLogin.appleSignInCompletion configuration r call) := by
  rcases ATCFirebaseLoginManager.step_cases stepped with
    ⟨sent, result, -, rfl, rfl⟩ | ⟨sent, error, -, rfl, rfl⟩
  · unfold ATCFirebaseLoginManager.signInCompletion
    cases result with
    | error code =>
      dsimp only
      split <;> exact vouches_none _ (fun _ => nofun) rfl
    | ok user =>
      dsimp only
      split
      · rename_i atcUser isUser
        have known : identity atcUser = user.uid := identity_atcUser isUser
        simp only [SocialLogin.appleSignInCompletion, ATCFirebaseLoginManager.System.completing,
          List.nil_append, Bool.false_eq_true, if_false]
        split
        · refine ⟨fun _ => nofun, fun fetch there => ?_⟩
          dsimp only at there
          split at there
          · rcases List.mem_append.mp there with old | new
            · exact Or.inl old
            · rw [List.mem_singleton.mp new, known]
              exact Or.inr List.mem_cons_self
          · exact Or.inl there
        · exact vouches_none _ (fun _ => nofun) rfl
      · exact vouches_none _ (fun _ => nofun) rfl
  · cases error <;> exact vouches_none _ (fun _ => nofun) rfl

theorem appleFetchCompletion_user {atcUser completed : ATCUser} {user : Option ATCUser}
    {error : Option String}
    (h : SocialLogin.appleFetchCompletion configuration atcUser user error =
      .didCompleteLogin completed) : completed = user.getD atcUser := by
  unfold SocialLogin.appleFetchCompletion at h
  split at h
  · split at h
    · cases h
    · cases h
      rfl
  · cases h
    rfl

theorem vouches_step {next : SocialLogin.Requests × SocialLogin.Outcome}
    (h : SocialLogin.step configuration r e = some next) : Vouches (socialBrings e) r next := by
  cases e with
  | didTapAppleButton =>
    cases h
    exact vouches_none _ (fun _ => nofun) rfl
  | didFetchAppleUserWith firstName lastName email password =>
    simp only [SocialLogin.step] at h
    split at h
    · cases h
    · cases h
      cases email <;> exact vouches_none _ (fun _ => nofun) rfl
  | appleSheetFailed =>
    simp only [SocialLogin.step] at h
    split at h
    · cases h
    · cases h
      exact vouches_none _ (fun _ => nofun) rfl
  | appleSignInReply index reply =>
    obtain ⟨⟨request, rest⟩, -, h⟩ := Option.bind_eq_some_iff.mp h
    obtain ⟨call, stepped, rfl⟩ := Option.map_eq_some_iff.mp h
    have vouches := vouches_appleSignIn (r := { r with appleSignIns := rest }) index stepped
    exact ⟨vouches.completed, vouches.fetched⟩
  | appleFetchReply index user error =>
    obtain ⟨⟨fetch, rest⟩, answered, rfl⟩ := Option.map_eq_some_iff.mp h
    refine ⟨fun completed isUser => ?_, fun other there =>
      Or.inl (deliver_rest_subset answered other there)⟩
    rw [appleFetchCompletion_user isUser]
    cases user with
    | none => exact Or.inr ⟨fetch, deliver_mem answered, rfl⟩
    | some user => exact Or.inl List.mem_cons_self
  | didTapFacebookButton =>
    cases h
    exact vouches_none _ (fun _ => nofun) rfl
  | facebookLogInReply hasToken current =>
    simp only [SocialLogin.step] at h
    split at h
    · cases h
    · cases h
      cases hasToken with
      | false => exact vouches_none _ (fun _ => nofun) rfl
      | true =>
        unfold SocialLogin.didLoginWithFacebook
        cases current with
        | none => exact vouches_none _ (fun _ => nofun) rfl
        | some accessToken =>
          dsimp only
          split_ifs <;> exact vouches_none _ (fun _ => nofun) rfl
  | facebookSignInReply index user =>
    obtain ⟨⟨accessToken, rest⟩, -, rfl⟩ := Option.map_eq_some_iff.mp h
    unfold SocialLogin.facebookSignInCompletion
    cases user with
    | none => exact vouches_none _ (fun _ => nofun) rfl
    | some user =>
      dsimp only
      split
      · rename_i atcUser isUser
        refine ⟨fun completed same => ?_, fun fetch there => Or.inl there⟩
        cases same
        rw [identity_atcUser isUser]
        exact Or.inl List.mem_cons_self
      · exact vouches_none _ (fun _ => nofun) rfl
  | facebookUserReply index result =>
    obtain ⟨⟨accessToken, rest⟩, -, rfl⟩ := Option.map_eq_some_iff.mp h
    -- Facebook's reply never has an e-mail
    refine vouches_none _ (fun user => ?_) rfl
    unfold SocialLogin.facebookUserCompletion
    cases requested : ATCFacebookAPIManager.requestFacebookUser result with
    | none => exact nofun
    | some facebookUser =>
      simp [ATCFacebookAPIManager.requestFacebookUser_email requested]

/-- The completions that an outcome adds to those of its manager. -/
def completedBy : SocialLogin.Outcome → List (Option ATCUser)
  | .didCompleteLogin user => [some user]
  | _ => []

theorem login_handle_completions (s : ATCLoginScreenManager.System) :
    (s.handle outcome).completions = s.completions ++ completedBy outcome := by
  cases outcome <;> simp [ATCLoginScreenManager.System.handle, completedBy,
    ATCLoginScreenManager.System.showLoginError]

theorem phoneLogin_handle_completions (s : ATCPhoneLoginScreenManager.System) :
    (s.handle outcome).completions = s.completions ++ completedBy outcome := by
  cases outcome <;> simp [ATCPhoneLoginScreenManager.System.handle, completedBy,
    ATCPhoneLoginScreenManager.System.showLoginError]

theorem grows_social {completions completions' : List (Option ATCUser)}
    (h : SocialLogin.step configuration r e = some (r', outcome))
    (handled : completions' = completions ++ completedBy outcome) :
    Grows (socialBrings e) completions r.appleFetches completions' r'.appleFetches := by
  have vouches := vouches_step h
  refine ⟨⟨completedBy outcome, handled, ?_, fun user there => ?_⟩, vouches.fetched⟩
  · cases outcome <;> simp [completedBy]
  · cases outcome with
    | didCompleteLogin completed =>
      cases List.mem_singleton.mp there
      exact vouches.completed _ rfl
    | _ => cases there

end SocialLogins

end FinanciaApp.Guarantees
