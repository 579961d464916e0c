import FinanciaApp.Guarantees.OnboardingCompletions

/-!
# Who is persisted after onboarding

`ATCOnboardingCoordinator.swift:105-204` between the managers and the host. Whatever the user
taps and whenever replies come back, the user that the app has persisted is the one it had
persisted at its start or has the ID of a user that the server told of in some reply; and the
server told of nobody before a sign-in succeeded, unless somebody was persisted to begin with. A
login with Facebook alone would be persisted without the server, but none completes: of Facebook's
reply nothing is read.
-/

set_option autoImplicit false

namespace FinanciaApp.Guarantees

open Library Source Source.Onboarding ATCPersistentStore

/-- FirebaseAuth signs a user in with the credential of Facebook, or with that of Apple. -/
def socialSignsIn : SocialLogin.Event → Bool
  | .appleSignInReply _ (.signIn (.ok _)) => true
  | .facebookSignInReply _ (some _) => true
  | _ => false

/-- FirebaseAuth signs a user in, or creates one. -/
def signsIn : Event → Bool
  | .login (.signInReply _ (some _)) => true
  | .signUp (.createUserReply _ (some _) _) => true
  | .phoneLogin (.signInReply _ (some _)) => true
  | .phoneSignUp (.signInReply _ (some _) _) => true
  | .phoneSignUp (.createUserReply _ (some _) _) => true
  | .socialLogin e => socialSignsIn e
  | .phoneSocialLogin e => socialSignsIn e
  | _ => false

/-- The user IDs that the server tells with a reply. -/
def broughtIDs : Event → List String
  | .host (.resyncReply _ (some newUser)) => [identity newUser]
  | .login e => loginBrings e
  | .phoneLogin e => phoneLoginBrings e
  | .signUp e => signUpBrings e
  | .phoneSignUp e => phoneSignUpBrings e
  | .socialLogin e => socialBrings e
  | .phoneSocialLogin e => socialBrings e
  | _ => []

/-- The event may bring user IDs of a kind: all of them if it signs a user in, and all of them
if there is some ID of that kind already. -/
def Admits (vouched : String → Prop) (e : Event) : Prop :=
  ∀ id ∈ broughtIDs e, (signsIn e = true ∨ ∃ known, vouched known) → vouched id

/-- Every user of the host and every user that a manager falls back to has an ID of a kind. -/
structure UsersKept (vouched : String → Prop) (c : ATCHostConfiguration) (s : System) : Prop where
  host : Vouched vouched c s.host
  login : ∀ fetch ∈ s.login.fetches, vouched (identity fetch)
  phoneLogin : ∀ fetch ∈ s.phoneLogin.fetches.map ATCPhoneLoginScreenManager.Fetch.atcUser,
    vouched (identity fetch)
  socialLogin : ∀ fetch ∈ s.socialLogin.appleFetches, vouched (identity fetch)
  phoneSocialLogin : ∀ fetch ∈ s.phoneSocialLogin.appleFetches, vouched (identity fetch)

section Steps

variable {configuration : Configuration} {predicates : TextPredicates} {s t : System} {e : Event}
variable {vouched : String → Prop} {c : ATCHostConfiguration}

/-- New completions bring users of the kind to the host. -/
theorem host_of_grows {brought : List String} {completions completions' : List (Option ATCUser)}
    {fetches fetches' : List ATCUser} (inv : Vouched vouched c s.host)
    (grows : Grows brought completions fetches completions' fetches')
    (known : ∀ fetch ∈ fetches, vouched (identity fetch)) (isVouched : ∀ id ∈ brought, vouched id)
    {host : ATCHostViewController.App}
    (delivered : s.coordinatorDidComplete completions completions' = some host) :
    Vouched vouched c host := by
  obtain ⟨more, rfl, -, users⟩ := grows.completed
  unfold System.coordinatorDidComplete at delivered
  rw [List.drop_left] at delivered
  refine vouched_run inv (fun e there id isID => ?_) delivered
  obtain ⟨user, isMore, rfl⟩ := List.mem_map.mp there
  obtain ⟨user, rfl, rfl⟩ := Option.map_eq_some_iff.mp isID
  rcases users user isMore with new | ⟨fetch, isFetch, same⟩
  · exact isVouched _ new
  · rw [same]
    exact known fetch isFetch

theorem fetches_of_grows {brought : List String} {completions completions' : List (Option ATCUser)}
    {fetches fetches' : List ATCUser}
    (grows : Grows brought completions fetches completions' fetches')
    (known : ∀ fetch ∈ fetches, vouched (identity fetch))
    (isVouched : ∀ id ∈ brought, vouched id) : ∀ fetch ∈ fetches', vouched (identity fetch) := by
  intro fetch there
  exact (grows.fetched fetch there).elim (known fetch) (isVouched _)

/-- A resync is answered for a user that the host has already. -/
theorem admitted_host {e : ATCHostViewController.Event} {host : ATCHostViewController.App}
    (inv : Vouched vouched c s.host) (admits : Admits vouched (.host e))
    (noLogin : ∀ user, e ≠ .loginCompleted user)
    (taken : ATCHostViewController.step s.host e = some host) :
    ∀ id, broughtID e = some id → vouched id := by
  intro id isID
  obtain ⟨-, handled⟩ := ATCHostViewController.step_cases taken
  cases handled with
  | resyncReply index newUser user rest answered =>
    obtain ⟨newUser, rfl, rfl⟩ := Option.map_eq_some_iff.mp isID
    have bound := inv.resyncs user (deliver_mem answered)
    exact admits _ List.mem_cons_self (Or.inr ⟨_, inv.users user bound⟩)
  | loginCompleted user => exact absurd rfl (noLogin user)
  | _ => cases isID

theorem admitted_login {e : ATCLoginScreenManager.Event} {login : ATCLoginScreenManager.System}
    (kept : UsersKept vouched c s) (admits : Admits vouched (.login e))
    (taken : ATCLoginScreenManager.step configuration.serverConfig configuration.hasUserManager
      s.login e = some login) : ∀ id ∈ loginBrings e, vouched id := by
  intro id there
  refine admits id there ?_
  cases e with
  | signInReply index user =>
    cases user with
    | none => cases there
    | some user => exact Or.inl rfl
  | fetchReply index user error =>
    obtain ⟨⟨fetch, rest⟩, answered, -⟩ := Option.map_eq_some_iff.mp taken
    exact Or.inr ⟨_, kept.login fetch (deliver_mem answered)⟩
  | _ => cases there

theorem admitted_phoneLogin {e : ATCPhoneLoginScreenManager.Event}
    {phoneLogin : ATCPhoneLoginScreenManager.System} (kept : UsersKept vouched c s)
    (admits : Admits vouched (.phoneLogin e))
    (taken : ATCPhoneLoginScreenManager.step (phoneLoginConfiguration configuration)
      configuration.phoneLoginViewModel s.phoneLogin e = some phoneLogin) :
    ∀ id ∈ phoneLoginBrings e, vouched id := by
  intro id there
  refine admits id there ?_
  cases e with
  | signInReply index user =>
    cases user with
    | none => cases there
    | some user => exact Or.inl rfl
  | fetchReply index user error =>
    obtain ⟨⟨fetch, rest⟩, answered, -⟩ := Option.map_eq_some_iff.mp taken
    exact Or.inr ⟨_, kept.phoneLogin _ (List.mem_map_of_mem (deliver_mem answered))⟩
  | _ => cases there

theorem admitted_signUp {e : ATCSignUpScreenManager.Event} (admits : Admits vouched (.signUp e)) :
    ∀ id ∈ signUpBrings e, vouched id := by
  intro id there
  refine admits id there (Or.inl ?_)
  cases e with
  | createUserReply index user error =>
    cases user with
    | none => cases there
    | some user => rfl
  | _ => cases there

theorem admitted_phoneSignUp {e : ATCPhoneSignUpScreenManager.Event}
    (admits : Admits vouched (.phoneSignUp e)) : ∀ id ∈ phoneSignUpBrings e, vouched id := by
  intro id there
  refine admits id there (Or.inl ?_)
  cases e with
  | signInReply index user error =>
    cases user with
    | none => cases there
    | some user => rfl
  | createUserReply index user error =>
    cases user with
    | none => cases there
    | some user => rfl
  | _ => cases there

/-- The IDs that a login with Facebook or Apple brings, if it may bring those of a kind. -/
theorem admitted_social {configuration : SocialLogin.Configuration} {r : SocialLogin.Requests}
    {e : SocialLogin.Event} {next : SocialLogin.Requests × SocialLogin.Outcome}
    (kept : ∀ fetch ∈ r.appleFetches, vouched (identity fetch))
    (admits : ∀ id ∈ socialBrings e, (socialSignsIn e = true ∨ ∃ known, vouched known) → vouched id)
    (taken : SocialLogin.step configuration r e = some next) :
    ∀ id ∈ socialBrings e, vouched id := by
  intro id there
  refine admits id there ?_
  cases e with
  | appleSignInReply index reply =>
    cases reply with
    | signIn result =>
      cases result with
      | error code => cases there
      | ok user => exact Or.inl rfl
    | createUser error => cases there
  | appleFetchReply index user error =>
    obtain ⟨⟨fetch, rest⟩, answered, -⟩ := Option.map_eq_some_iff.mp taken
    exact Or.inr ⟨_, kept fetch (deliver_mem answered)⟩
  | facebookSignInReply index user =>
    cases user with
    | none => cases there
    | some user => exact Or.inl rfl
  | _ => cases there

theorem login_handle_fetches (s : ATCLoginScreenManager.System) (outcome : SocialLogin.Outcome) :
    (s.handle outcome).fetches = s.fetches := by
  cases outcome <;> rfl

theorem phoneLogin_handle_fetches (s : ATCPhoneLoginScreenManager.System)
    (outcome : SocialLogin.Outcome) : (s.handle outcome).fetches = s.fetches := by
  cases outcome <;> rfl

theorem usersKept_same (kept : UsersKept vouched c s) (same : SameManagers s t) :
    UsersKept vouched c t := by
  refine ⟨?_, ?_, ?_, ?_, ?_⟩
  · rw [same.host]
    exact kept.host
  · rw [same.login]
    exact kept.login
  · rw [same.phoneLogin]
    exact kept.phoneLogin
  · rw [same.socialLogin]
    exact kept.socialLogin
  · rw [same.phoneSocialLogin]
    exact kept.phoneSocialLogin

theorem usersKept_step (admits : Admits vouched e) (kept : UsersKept vouched c s)
    (h : step configuration predicates s e = some t) : UsersKept vouched c t := by
  obtain ⟨-, -, effect⟩ := step_cases h
  cases effect with
  | landingDidTapLogIn => exact usersKept_same kept (sameManagers_push s _)
  | landingDidTapSignUp => exact usersKept_same kept (sameManagers_push s _)
  | didTapForgotPassword => exact usersKept_same kept (sameManagers_push s _)
  | didResetPassword => exact usersKept_same kept (sameManagers_pop s)
  | didTapBack => exact usersKept_same kept (sameManagers_pop s)
  | didSelectCountryCode => exact { kept with }
  | host e host noLogin taken =>
    have brought := admitted_host kept.host admits noLogin taken
    exact { kept with host := vouched_step kept.host brought taken }
  | login e login host allowed taken delivered =>
    have grows := grows_login taken
    have brought := admitted_login kept admits taken
    exact { kept with
      host := host_of_grows kept.host grows kept.login brought delivered
      login := fetches_of_grows grows kept.login brought }
  | phoneLogin e phoneLogin host allowed taken delivered =>
    have grows := grows_phoneLogin taken
    have brought := admitted_phoneLogin kept admits taken
    exact { kept with
      host := host_of_grows kept.host grows kept.phoneLogin brought delivered
      phoneLogin := fetches_of_grows grows kept.phoneLogin brought }
  | signUp e signUp host allowed taken delivered =>
    have host := host_of_grows kept.host (grows_signUp taken)
      (fun _ there => by cases there) (admitted_signUp admits) delivered
    exact { kept with host := host }
  | phoneSignUp e phoneSignUp host allowed taken delivered =>
    have host := host_of_grows kept.host (grows_phoneSignUp taken)
      (fun _ there => by cases there) (admitted_phoneSignUp admits) delivered
    exact { kept with host := host }
  | socialLogin e requests outcome host allowed taken delivered =>
    have grows := grows_social taken (login_handle_completions s.login)
    have brought := admitted_social kept.socialLogin admits taken
    exact { kept with
      host := host_of_grows kept.host grows kept.socialLogin brought delivered
      login := (login_handle_fetches s.login outcome).symm ▸ kept.login
      socialLogin := fetches_of_grows grows kept.socialLogin brought }
  | phoneSocialLogin e requests outcome host allowed taken delivered =>
    have grows := grows_social taken (phoneLogin_handle_completions s.phoneLogin)
    have brought := admitted_social kept.phoneSocialLogin admits taken
    exact { kept with
      host := host_of_grows kept.host grows kept.phoneSocialLogin brought delivered
      phoneLogin := (phoneLogin_handle_fetches s.phoneLogin outcome).symm ▸ kept.phoneLogin
      phoneSocialLogin := fetches_of_grows grows kept.phoneSocialLogin brought }

end Steps

/-- From any start, whatever the order of events: a user that is persisted has the ID of the one
persisted at the start or one that some reply of the server told; and if nobody was persisted at
the start, some reply of FirebaseAuth has signed a user in. -/
theorem persisted_user_vouched (configuration : Configuration) (predicates : TextPredicates)
    (host : ATCHostConfiguration) (defaults : UserDefaults)
    (users : ATCHostViewController.UserRef → ATCUser) (authVerificationID : Option String)
    (es : List Event) (s : System)
    (h : run (step configuration predicates)
      (initial configuration host defaults users authVerificationID) es = some s)
    (user : ATCUser) (persisted : userIfLoggedInUser s.host.defaults = some user) :
    (∃ first, userIfLoggedInUser defaults = some first ∧ identity user = identity first) ∨
      ((∃ e ∈ es, identity user ∈ broughtIDs e) ∧
        ((∃ first, userIfLoggedInUser defaults = some first) ∨ ∃ e ∈ es, signsIn e = true)) := by
  let vouched (id : String) : Prop :=
    (∃ first, userIfLoggedInUser defaults = some first ∧ id = identity first) ∨
      ((∃ e ∈ es, id ∈ broughtIDs e) ∧
        ((∃ first, userIfLoggedInUser defaults = some first) ∨ ∃ e ∈ es, signsIn e = true))
  have admits : ∀ e ∈ es, Admits vouched e := by
    intro e there id brought reason
    refine Or.inr ⟨⟨e, there, brought⟩, ?_⟩
    rcases reason with signedIn | ⟨known, ⟨first, isFirst, -⟩ | ⟨-, reason⟩⟩
    · exact Or.inr ⟨e, there, signedIn⟩
    · exact Or.inl ⟨first, isFirst⟩
    · exact reason
  have start : UsersKept vouched (hostConfiguration configuration host)
      (initial configuration host defaults users authVerificationID) :=
    ⟨vouched_new _ defaults users fun first isFirst => Or.inl ⟨first, isFirst, rfl⟩,
      fun _ there => (by cases there), fun _ there => (by cases there),
      fun _ there => (by cases there), fun _ there => (by cases there)⟩
  have kept := run_invariant_on (Admits vouched)
    (UsersKept vouched (hostConfiguration configuration host))
    (fun _ _ _ admits' kept' h' => usersKept_step admits' kept' h') admits start h
  exact kept.host.persisted user persisted

theorem persisted_user_vouched_login : ∃ s user,
    run (step sampleOnboarding samplePredicates) sampleStart classicLogin = some s ∧
    userIfLoggedInUser s.host.defaults = some user ∧
    ∃ e ∈ classicLogin, identity user ∈ broughtIDs e := by
  have nobody : ¬∃ first, userIfLoggedInUser (fun _ => none) = some first := by
    intro ⟨first, isFirst⟩
    cases isFirst
  have vouched := persisted_user_vouched sampleOnboarding samplePredicates
    ATCHostViewController.sampleConfiguration (fun _ => none)
    (fun _ => ATCHostViewController.sampleUser) none classicLogin _ rfl _ rfl
  refine ⟨_, _, rfl, rfl, ?_⟩
  rcases vouched with ⟨first, isFirst, -⟩ | ⟨brought, -⟩
  · exact absurd ⟨first, isFirst⟩ nobody
  · exact brought

end FinanciaApp.Guarantees
