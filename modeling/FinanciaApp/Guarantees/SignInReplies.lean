import FinanciaApp.Library.Runs
import FinanciaApp.Source.ATCFirebaseLoginManager

/-!
# The replies to a sign-in

A sign-in for an unknown user creates the account and signs in again, as often as the backend
asks for it. The closure leaves two kinds of replies without a word: an error other than the two
it names, and a failed creation. An error with an unknown code passes for a success. Nothing
makes it call twice.
-/

set_option autoImplicit false

namespace FinanciaApp.Guarantees

open Library Source Source.ATCFirebaseLoginManager

/-- The result of a sign-in among the replies. -/
def signInResult : Reply → Option (Except Int User)
  | .signIn result => some result
  | .createUser _ => none

def LastSignInSucceeded (replies : List Reply) : Prop :=
  ∃ user, (replies.filterMap signInResult).getLast? = some (.ok user)

/-- One call of `completionBlock`: with a user if the last sign-in succeeded, and with a message
otherwise. -/
def CompletesOnce (replies : List Reply) (s : System) : Prop :=
  ∃ user errorMessage, s.completions = [(user, errorMessage)] ∧
    (LastSignInSucceeded replies → user.isSome = true) ∧
    (¬LastSignInSucceeded replies → errorMessage.isSome = true)

section Replies

variable (known : Int → Bool)

/-- The replies that the closures handle: a user with provider data, the two named errors, and
an account created. -/
def Handled : Reply → Prop
  | .signIn (.ok user) => user.providerData ≠ []
  | .signIn (.error code) =>
    AuthErrorCode.ofRawValue known code = some .userNotFound ∨
      AuthErrorCode.ofRawValue known code = some .wrongPassword
  | .createUser error => error = none

/-- While a request is in flight nothing has been called and all replies were handled; after
the last reply the completion is the right one if and only if they all were. -/
structure Underway (past : List Reply) (s : System) : Prop where
  waiting : s.pending ≠ none → s.completions = [] ∧ ∀ reply ∈ past, Handled known reply
  ended : s.pending = none → (CompletesOnce past s ↔ ∀ reply ∈ past, Handled known reply)

variable {known} {past : List Reply} {s t : System} {reply : Reply}

/-! ## The last reply -/

theorem lastSignInSucceeded_concat (result : Except Int User) :
    LastSignInSucceeded (past ++ [.signIn result]) ↔ ∃ user, result = .ok user := by
  simp [LastSignInSucceeded, signInResult]

/-- A user ends the sign-in well. -/
theorem completesOnce_user (user : User) (completed : s.completions = []) (atcUser : ATCUser) :
    CompletesOnce (past ++ [.signIn (.ok user)]) (s.completing (some atcUser) none) := by
  refine ⟨some atcUser, none, by rw [System.completing, completed]; rfl, fun _ => rfl, ?_⟩
  intro failed
  exact absurd ((lastSignInSucceeded_concat _).mpr ⟨user, rfl⟩) failed

/-- After an error exactly a message will do. -/
theorem completesOnce_error (code : Int) (completed : s.completions = [])
    (errorMessage : Option String) :
    CompletesOnce (past ++ [.signIn (.error code)]) (s.completing none errorMessage) ↔
      errorMessage.isSome = true := by
  have failed : ¬LastSignInSucceeded (past ++ [.signIn (.error code)]) := by
    rw [lastSignInSucceeded_concat]
    rintro ⟨_, same⟩
    cases same
  have called : (s.completing none errorMessage).completions = [(none, errorMessage)] := by
    rw [System.completing, completed]
    rfl
  constructor
  · rintro ⟨_, _, same, -, told⟩
    rw [called, List.singleton_inj, Prod.mk.injEq] at same
    rw [same.2]
    exact told failed
  · intro told
    exact ⟨none, errorMessage, called, fun succeeded => absurd succeeded failed, fun _ => told⟩

theorem not_completesOnce (completed : s.completions = []) : ¬CompletesOnce past s := by
  rintro ⟨_, _, called, -⟩
  rw [completed] at called
  cases called

/-! ## One reply -/

/-- A reply that leaves a request in flight was handled and called nothing; one that leaves
none completes the sign-in if and only if it was handled. -/
def Settles (known : Int → Bool) (reply : Reply) (t : System) : Prop :=
  (t.pending ≠ none → t.completions = [] ∧ Handled known reply) ∧
    (t.pending = none → ∀ past, CompletesOnce (past ++ [reply]) t ↔ Handled known reply)

theorem settles_sending (completed : t.completions = []) (handled : Handled known reply)
    (request : Request) : Settles known reply (t.sending request) := by
  refine ⟨fun _ => ⟨completed, handled⟩, fun none_pending => ?_⟩
  cases none_pending

theorem settles_silent (pending : t.pending = none) (completed : t.completions = [])
    (unhandled : ¬Handled known reply) : Settles known reply t :=
  ⟨fun waiting => absurd pending waiting,
    fun _ _ => iff_of_false (not_completesOnce completed) unhandled⟩

theorem settles_signIn (sent : Credentials) (result : Except Int User) (pending : s.pending = none)
    (completed : s.completions = []) :
    Settles known (.signIn result) (signInCompletion known sent result s) := by
  cases result with
  | error code =>
    cases found : AuthErrorCode.ofRawValue known code with
    | none =>
      have unhandled : ¬Handled known (.signIn (.error code)) := by simp [Handled, found]
      simp only [signInCompletion, found]
      refine ⟨fun waiting => absurd pending waiting, fun _ past => ?_⟩
      exact iff_of_false (fun called => Bool.noConfusion
        ((completesOnce_error code completed none).mp called)) unhandled
    | some errCode =>
      cases errCode with
      | userNotFound =>
        simp only [signInCompletion, found]
        have handled : Handled known (.signIn (.error code)) := Or.inl found
        exact settles_sending completed handled (.createUser sent)
      | wrongPassword =>
        simp only [signInCompletion, found]
        refine ⟨fun waiting => absurd pending waiting, fun _ past => ?_⟩
        exact iff_of_true ((completesOnce_error code completed _).mpr rfl) (Or.inr found)
      | other rawValue =>
        simp only [signInCompletion, found]
        exact settles_silent pending completed (by simp [Handled, found])
  | ok user =>
    cases data : user.providerData with
    | nil =>
      have trapped : atcUser user = none := by rw [atcUser, data]; rfl
      simp only [signInCompletion, trapped]
      exact settles_silent pending completed fun handled => handled data
    | cons photoURL rest =>
      obtain ⟨converted, conversion⟩ : ∃ converted, atcUser user = some converted := by
        rw [atcUser, data]
        exact ⟨_, rfl⟩
      have handled : Handled known (.signIn (.ok user)) := by simp [Handled, data]
      simp only [signInCompletion, conversion]
      exact ⟨fun waiting => absurd pending waiting,
        fun _ _ => iff_of_true (completesOnce_user user completed converted) handled⟩

theorem settles_createUser (sent : Credentials) (error : Option Int) (pending : s.pending = none)
    (completed : s.completions = []) :
    Settles known (.createUser error) (createUserCompletion sent error s) := by
  cases error with
  | none =>
    have handled : Handled known (.createUser none) := rfl
    exact settles_sending completed handled _
  | some code => exact settles_silent pending completed (Option.some_ne_none code)

theorem settles_step (completed : s.completions = []) (stepped : step known s reply = some t) :
    Settles known reply t := by
  obtain ⟨sent, result, -, rfl, rfl⟩ | ⟨sent, error, -, rfl, rfl⟩ := step_cases stepped
  · exact settles_signIn sent result rfl completed
  · exact settles_createUser sent error rfl completed

theorem pending_of_step (stepped : step known s reply = some t) : s.pending ≠ none := by
  obtain ⟨_, _, pending, -⟩ | ⟨_, _, pending, -⟩ := step_cases stepped
  · exact Option.ne_none_iff_exists'.mpr ⟨_, pending⟩
  · exact Option.ne_none_iff_exists'.mpr ⟨_, pending⟩

theorem underway_step (underway : Underway known past s) (stepped : step known s reply = some t) :
    Underway known (past ++ [reply]) t := by
  obtain ⟨completed, handled⟩ := underway.waiting (pending_of_step stepped)
  obtain ⟨waiting, ended⟩ := settles_step completed stepped
  have all_handled : (∀ other ∈ past ++ [reply], Handled known other) ↔ Handled known reply := by
    rw [List.forall_mem_append, List.forall_mem_singleton]
    exact and_iff_right handled
  constructor
  · intro pending
    exact ⟨(waiting pending).1, all_handled.mpr (waiting pending).2⟩
  · intro pending
    rw [all_handled]
    exact ended pending past

end Replies

/-! ## Never twice -/

/-- `completionBlock` has been called once at most, and not at all before a trap or while a
request is in flight. -/
structure AtMostOnce (s : System) : Prop where
  waiting : s.pending ≠ none → s.completions = [] ∧ s.trapped = false
  once : s.completions.length ≤ 1
  trapped : s.trapped = true → s.completions = []

section Once

variable {s : System}

theorem atMostOnce_completing (pending : s.pending = none) (completed : s.completions = [])
    (running : s.trapped = false) (user : Option ATCUser) (errorMessage : Option String) :
    AtMostOnce (s.completing user errorMessage) where
  waiting waiting := absurd pending waiting
  once := by
    rw [System.completing, completed]
    exact le_rfl
  trapped trapped := absurd (running.symm.trans trapped) Bool.false_ne_true

theorem atMostOnce_of_completions (completed : s.completions = [])
    (running : s.pending ≠ none → s.trapped = false) : AtMostOnce s where
  waiting pending := ⟨completed, running pending⟩
  once := by
    rw [completed]
    exact Nat.zero_le 1
  trapped _ := completed

theorem atMostOnce_signIn {known : Int → Bool} (sent : Credentials) (result : Except Int User)
    (pending : s.pending = none) (completed : s.completions = []) (running : s.trapped = false) :
    AtMostOnce (signInCompletion known sent result s) := by
  unfold signInCompletion
  split
  · split
    · exact atMostOnce_of_completions completed fun _ => running
    · exact atMostOnce_completing pending completed running none _
    · exact atMostOnce_of_completions completed fun _ => running
    · exact atMostOnce_completing pending completed running none none
  · split
    · exact atMostOnce_completing pending completed running _ none
    · exact atMostOnce_of_completions completed fun waiting => absurd pending waiting

theorem atMostOnce_createUser (sent : Credentials) (error : Option Int)
    (completed : s.completions = []) (running : s.trapped = false) :
    AtMostOnce (createUserCompletion sent error s) := by
  cases error with
  | none => exact atMostOnce_of_completions completed fun _ => running
  | some code => exact atMostOnce_of_completions completed fun _ => running

end Once

/-- Whatever the backend replies, nobody is told twice. -/
theorem completes_at_most_once (known : Int → Bool) (email pass : String) {replies : List Reply}
    {t : System} (replied : run (step known) (start email pass) replies = some t) :
    AtMostOnce t := by
  have begun : AtMostOnce (start email pass) := atMostOnce_of_completions rfl fun _ => rfl
  apply run_invariant AtMostOnce _ begun replied
  intro s reply next invariant stepped
  obtain ⟨completed, running⟩ := invariant.waiting (pending_of_step stepped)
  obtain ⟨sent, result, -, -, rfl⟩ | ⟨sent, error, -, -, rfl⟩ := step_cases stepped
  · exact atMostOnce_signIn sent result rfl completed running
  · exact atMostOnce_createUser sent error completed running

/-! ## All replies handled -/

/-- When every request has its reply, `completionBlock` has been called as it should if and only
if all replies are handled ones. -/
theorem completesOnce_iff_handled (known : Int → Bool) (email pass : String)
    (replies : List Reply) (t : System)
    (replied : run (step known) (start email pass) replies = some t)
    (answered : t.pending = none) :
    CompletesOnce replies t ↔ ∀ reply ∈ replies, Handled known reply := by
  have begun : Underway known [] (start email pass) := by
    constructor
    · intro _
      exact ⟨rfl, fun reply member => absurd member List.not_mem_nil⟩
    · intro none_pending
      cases none_pending
  have underway := run_history (Underway known)
    (fun past s reply t underway stepped => underway_step underway stepped) begun replied
  exact underway.ended answered

/-- The account is created, and then the password is wrong. -/
theorem completesOnce_iff_handled_new_account :
    CompletesOnce
        [.signIn (.error 17011), .createUser none, .signIn (.error 17009)]
        ⟨none, [(none, some emailExists)], false⟩ ↔
      ∀ reply ∈ [Reply.signIn (.error 17011), .createUser none, .signIn (.error 17009)],
        Handled (fun _ => true) reply :=
  completesOnce_iff_handled (fun _ => true) "ana@example.com" "secret"
    [.signIn (.error 17011), .createUser none, .signIn (.error 17009)]
    ⟨none, [(none, some emailExists)], false⟩ rfl rfl

/-- After too many requests nobody is told, and an unknown error comes without a message. -/
theorem too_many_requests_untold :
    ¬(∀ known email pass replies t, run (step known) (start email pass) replies = some t →
      t.pending = none → CompletesOnce replies t) ∧
    (run (step fun _ => true) (start "ana@example.com" "secret") [.signIn (.error 17010)]).map
      System.completions = some [] ∧
    (run (step fun _ => false) (start "ana@example.com" "secret") [.signIn (.error 1)]).map
      System.completions = some [(none, none)] := by
  refine ⟨fun claimed => ?_, rfl, rfl⟩
  have completes := claimed (fun _ => true) "ana@example.com" "secret" [.signIn (.error 17010)]
    ⟨none, [], false⟩ rfl rfl
  exact not_completesOnce rfl completes

end FinanciaApp.Guarantees
