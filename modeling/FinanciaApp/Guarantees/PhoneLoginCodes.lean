import Mathlib.Data.List.Nodup
import FinanciaApp.Guarantees.PhoneLoginScreen

/-!
# The verification ID that an OTP is paired with

Every successful send-code reply writes its ID under the one key `authVerificationID` of
the user defaults, and a submission reads that key: nothing links an ID to the request
that it answers. To say which request that was, the screen is observed together with a log
of the replies (`Observed`); the log decides nothing (`observed_run`). The key holds the ID
of the last reply to have arrived, which need not be the reply to the last request.
-/

set_option autoImplicit false

namespace FinanciaApp.Guarantees

open Library Source Source.ATCPhoneLoginScreenManager

/-- A successful reply: the number of the request that it answers, and the ID. -/
structure CodeAnswer where
  number : Nat
  verificationID : Option String
  deriving DecidableEq, Repr

/-- The ID as a submission reads it from the user defaults. -/
def CodeAnswer.read (answer : CodeAnswer) : String := answer.verificationID.getD ""

/-- The login screen and the successful send-code replies so far, in order of arrival. -/
structure Observed where
  system : System
  answers : List CodeAnswer

/-- The answer that an event brings. -/
def answerOf (s : System) : Event → List CodeAnswer
  | .verifyReply index (.ok verificationID) =>
    (deliver s.verifications index).toList.map fun answered =>
      ⟨answered.1.number, verificationID⟩
  | _ => []

section

variable (configuration : Configuration) (viewModel : ATCPhoneLoginScreenViewModel)

def observedStep (s : Observed) (e : Event) : Option Observed :=
  (step configuration viewModel s.system e).map fun t =>
    ⟨t, s.answers ++ answerOf s.system e⟩

/-- The screen as it is loaded, on whatever ID the defaults hold from before. -/
def observedLoad (authVerificationID : Option String) : Observed :=
  ⟨loginScreenDidLoadView viewModel authVerificationID, []⟩

/-- The log observes the runs of the screen and changes none of them. -/
theorem observed_run (es : List Event) (s : Observed) :
    (run (observedStep configuration viewModel) s es).map Observed.system =
      run (step configuration viewModel) s.system es := by
  induction es generalizing s with
  | nil => rfl
  | cons e es ih =>
    simp only [run, observedStep]
    cases step configuration viewModel s.system e with
    | none => rfl
    | some t => exact ih ⟨t, s.answers ++ answerOf s.system e⟩

end

/-- The event submits the OTP that is typed. -/
structure Submits (configuration : Configuration) (s : System) (e : Event) : Prop where
  tap : e = .didTapLoginButton
  enabled : configuration.isFirebaseAuthEnabled = true
  mode : s.screen.contactPoint = .phoneWithOtp
  typed : s.screen.verificationCode ≠ ""

/-- What a step does to the requests for a code, to the ID in the defaults and to the
submitted credentials. -/
inductive CodeEffect (configuration : Configuration) (s : System) : Event → System → Prop where
  | requested (t : System) (phoneNumber : String) (mode : s.screen.contactPoint = .phone)
      (count : t.requestedCodes = s.requestedCodes + 1)
      (sent : t.verifications = s.verifications ++ [⟨phoneNumber, s.requestedCodes⟩])
      (kept : t.authVerificationID = s.authVerificationID) (signIns : t.signIns = s.signIns) :
      CodeEffect configuration s .didTapLoginButton t
  | submitted (t : System) (submits : Submits configuration s .didTapLoginButton)
      (count : t.requestedCodes = s.requestedCodes) (left : t.verifications = s.verifications)
      (kept : t.authVerificationID = s.authVerificationID)
      (signIns : t.signIns = s.signIns ++
        [.credential (s.authVerificationID.getD "") s.screen.verificationCode]) :
      CodeEffect configuration s .didTapLoginButton t
  | answered (t : System) (index : Nat) (verificationID : Option String)
      (request : PhoneVerification)
      (delivered : deliver s.verifications index = some (request, t.verifications))
      (count : t.requestedCodes = s.requestedCodes)
      (written : t.authVerificationID = verificationID) (signIns : t.signIns = s.signIns) :
      CodeEffect configuration s (.verifyReply index (.ok verificationID)) t
  | refused (t : System) (index : Nat) (message : String) (request : PhoneVerification)
      (delivered : deliver s.verifications index = some (request, t.verifications))
      (count : t.requestedCodes = s.requestedCodes)
      (kept : t.authVerificationID = s.authVerificationID) (signIns : t.signIns = s.signIns) :
      CodeEffect configuration s (.verifyReply index (.error message)) t
  | unrelated (e : Event) (t : System) (noReply : ∀ index reply, e ≠ .verifyReply index reply)
      (idle : ¬ Submits configuration s e) (count : t.requestedCodes = s.requestedCodes)
      (left : t.verifications = s.verifications)
      (kept : t.authVerificationID = s.authVerificationID)
      (noCredential : ∀ verificationID code,
        t.signIns ≠ s.signIns ++ [.credential verificationID code]) :
      CodeEffect configuration s e t

section Effects

variable {configuration : Configuration} {viewModel : ATCPhoneLoginScreenViewModel}

theorem didTapLoginButton_codeEffect (s : System) :
    CodeEffect configuration s .didTapLoginButton (didTapLoginButton configuration s) := by
  have nothing : ∀ t : System, ¬ Submits configuration s .didTapLoginButton →
      t.requestedCodes = s.requestedCodes → t.verifications = s.verifications →
      t.authVerificationID = s.authVerificationID → t.signIns = s.signIns →
      CodeEffect configuration s .didTapLoginButton t := by
    intro t idle count left kept signIns
    refine .unrelated _ t (by simp) idle count left kept ?_
    simp [signIns]
  unfold didTapLoginButton
  split
  · rename_i enabled
    split
    · rename_i mode
      have idle : ¬ Submits configuration s .didTapLoginButton := by
        intro submits
        cases mode.symm.trans submits.mode
      split
      · split
        · exact .requested _ _ mode rfl rfl rfl rfl
        · exact nothing _ idle rfl rfl rfl rfl
      · exact nothing _ idle rfl rfl rfl rfl
    · rename_i mode
      split
      · rename_i typed
        exact .submitted _ ⟨rfl, enabled, mode, typed⟩ rfl rfl rfl rfl
      · rename_i untyped
        exact nothing _ (fun submits => untyped submits.typed) rfl rfl rfl rfl
    · rename_i mode
      have idle : ¬ Submits configuration s .didTapLoginButton := by
        intro submits
        cases mode.symm.trans submits.mode
      split
      · exact .unrelated _ _ (by simp) idle rfl rfl rfl (by simp)
      · exact nothing _ idle rfl rfl rfl rfl
  · rename_i disabled
    exact nothing _ (fun submits => disabled submits.enabled) rfl rfl rfl rfl

theorem signInCompletion_frame (configuration : Configuration) (signIn : SignIn)
    (user : Option FirebaseUser) (s : System) :
    (signInCompletion configuration signIn user s).requestedCodes = s.requestedCodes ∧
    (signInCompletion configuration signIn user s).verifications = s.verifications ∧
    (signInCompletion configuration signIn user s).authVerificationID = s.authVerificationID ∧
    (signInCompletion configuration signIn user s).signIns = s.signIns := by
  unfold signInCompletion
  split
  · split <;> exact ⟨rfl, rfl, rfl, rfl⟩
  · exact ⟨rfl, rfl, rfl, rfl⟩

theorem fetchCompletion_frame (viewModel : ATCPhoneLoginScreenViewModel) (fetch : Fetch)
    (user : Option ATCUser) (error : Option String) (s : System) :
    (fetchCompletion viewModel fetch user error s).requestedCodes = s.requestedCodes ∧
    (fetchCompletion viewModel fetch user error s).verifications = s.verifications ∧
    (fetchCompletion viewModel fetch user error s).authVerificationID = s.authVerificationID ∧
    (fetchCompletion viewModel fetch user error s).signIns = s.signIns := by
  unfold fetchCompletion
  split
  · exact ⟨rfl, rfl, rfl, rfl⟩
  · dsimp only
    split <;> exact ⟨rfl, rfl, rfl, rfl⟩

theorem not_submits_of_ne {s : System} {e : Event} (noTap : e ≠ .didTapLoginButton) :
    ¬ Submits configuration s e :=
  fun submits => noTap submits.tap

theorem step_codeEffect {s t : System} {e : Event}
    (taken : step configuration viewModel s e = some t) : CodeEffect configuration s e t := by
  cases e with
  | didTapContactPointButton =>
    cases taken
    exact .unrelated _ _ (by simp) (not_submits_of_ne (by simp)) rfl rfl rfl
      (by simp [didTapContactPointButton])
  | didTapLoginButton =>
    cases taken
    exact didTapLoginButton_codeEffect s
  | editOtp texts =>
    simp only [step] at taken
    split at taken
    · cases taken
      exact .unrelated _ _ (by simp) (not_submits_of_ne (by simp)) rfl rfl rfl (by simp)
    · cases taken
  | verifyReply index reply =>
    obtain ⟨⟨request, rest⟩, delivered, rfl⟩ := Option.map_eq_some_iff.mp taken
    cases reply with
    | error message => exact .refused _ index message request delivered rfl rfl rfl
    | ok verificationID => exact .answered _ index verificationID request delivered rfl rfl rfl
  | signInReply index user =>
    obtain ⟨⟨signIn, rest⟩, delivered, rfl⟩ := Option.map_eq_some_iff.mp taken
    obtain ⟨count, left, kept, signIns⟩ :=
      signInCompletion_frame configuration signIn user { s with signIns := rest }
    refine .unrelated _ _ (by simp) (not_submits_of_ne (by simp)) count left kept ?_
    -- an answered sign-in leaves the list shorter, a credential makes it longer
    intro verificationID code same
    have shorter := deliver_length delivered
    have longer := congrArg List.length (signIns.symm.trans same)
    rw [List.length_append, List.length_singleton] at longer
    dsimp only at longer shorter
    omega
  | fetchReply index user error =>
    obtain ⟨⟨fetch, rest⟩, -, rfl⟩ := Option.map_eq_some_iff.mp taken
    obtain ⟨count, left, kept, signIns⟩ :=
      fetchCompletion_frame viewModel fetch user error { s with fetches := rest }
    refine .unrelated _ _ (by simp) (not_submits_of_ne (by simp)) count left kept ?_
    simp [signIns]
  | _ =>
    cases taken
    exact .unrelated _ _ (by simp) (not_submits_of_ne (by simp)) rfl rfl rfl (by simp)

end Effects

/-- The ID that was returned for a request. -/
def returnedFor (answers : List CodeAnswer) (number : Nat) : Option String :=
  (answers.find? fun answer => answer.number = number).map CodeAnswer.read

/-- A submission pairs the OTP with the ID that was returned for the last request. -/
def PairsLatestCode (s : Observed) (_e : Event) (t : Observed) : Prop :=
  ∀ number verificationID code, s.system.requestedCodes = number + 1 →
    t.system.signIns = s.system.signIns ++ [.credential verificationID code] →
    returnedFor s.answers number = some verificationID

/-- The last reply to have arrived is the one to the last request, or has brought the ID
that was returned for it. -/
def LatestAnsweredLast (configuration : Configuration) (s : Observed) (e : Event)
    (_t : Observed) : Prop :=
  ∀ number, s.system.requestedCodes = number + 1 → Submits configuration s.system e →
    ∃ last, s.answers.getLast? = some last ∧
      (last.number = number ∨ returnedFor s.answers number = some last.read)

/-- The numbers of the requests that are answered, and of those in flight. -/
def Observed.numbers (s : Observed) : List Nat :=
  s.answers.map CodeAnswer.number ++ s.system.verifications.map PhoneVerification.number

/-- The defaults hold the ID of the last reply, and no request is answered twice. -/
structure CodesTracked (s : Observed) : Prop where
  stored : ∀ last, s.answers.getLast? = some last →
    s.system.authVerificationID = last.verificationID
  once : s.numbers.Nodup
  issued : ∀ number ∈ s.numbers, number < s.system.requestedCodes

theorem codesTracked_load (viewModel : ATCPhoneLoginScreenViewModel)
    (authVerificationID : Option String) :
    CodesTracked (observedLoad viewModel authVerificationID) := by
  refine ⟨?_, List.nodup_nil, ?_⟩
  · intro last found
    cases found
  · intro number member
    cases member

section Tracking

variable {s : Observed}

/-- What leaves the ID and the log alone may drop requests in flight. -/
theorem CodesTracked.drop (h : CodesTracked s) {t : System}
    (kept : t.authVerificationID = s.system.authVerificationID)
    (count : t.requestedCodes = s.system.requestedCodes)
    (left : t.verifications.Sublist s.system.verifications) :
    CodesTracked ⟨t, s.answers⟩ := by
  have fewer : (Observed.numbers ⟨t, s.answers⟩).Sublist s.numbers :=
    (List.Sublist.refl _).append (left.map _)
  refine ⟨fun last found => kept.trans (h.stored last found), h.once.sublist fewer, ?_⟩
  intro number member
  rw [count]
  exact h.issued number (fewer.subset member)

theorem CodesTracked.request (h : CodesTracked s) {t : System} {phoneNumber : String}
    (count : t.requestedCodes = s.system.requestedCodes + 1)
    (sent : t.verifications =
      s.system.verifications ++ [⟨phoneNumber, s.system.requestedCodes⟩])
    (kept : t.authVerificationID = s.system.authVerificationID) :
    CodesTracked ⟨t, s.answers⟩ := by
  have numbers : Observed.numbers ⟨t, s.answers⟩ = s.numbers ++ [s.system.requestedCodes] := by
    simp [Observed.numbers, sent]
  refine ⟨fun last found => kept.trans (h.stored last found), ?_, ?_⟩
  · rw [numbers]
    refine List.Nodup.append h.once (List.nodup_singleton _) ?_
    intro number old new
    obtain rfl := List.mem_singleton.mp new
    exact Nat.lt_irrefl _ (h.issued _ old)
  · intro number member
    rw [numbers, List.mem_append, List.mem_singleton] at member
    rw [show t.requestedCodes = s.system.requestedCodes + 1 from count]
    rcases member with old | rfl
    · exact Nat.lt_succ_of_lt (h.issued number old)
    · exact Nat.lt_succ_self _

theorem CodesTracked.answer (h : CodesTracked s) {t : System} {index : Nat}
    {request : PhoneVerification} {verificationID : Option String}
    (delivered : deliver s.system.verifications index = some (request, t.verifications))
    (count : t.requestedCodes = s.system.requestedCodes)
    (written : t.authVerificationID = verificationID) :
    CodesTracked ⟨t, s.answers ++ [⟨request.number, verificationID⟩]⟩ := by
  have numbers :
      (Observed.numbers ⟨t, s.answers ++ [⟨request.number, verificationID⟩]⟩).Perm s.numbers := by
    simp only [Observed.numbers, List.map_append, List.map_singleton, List.append_assoc,
      List.singleton_append]
    exact ((deliver_perm delivered).map PhoneVerification.number).append_left _
  refine ⟨?_, numbers.nodup_iff.mpr h.once, ?_⟩
  · intro last found
    rw [List.getLast?_concat, Option.some.injEq] at found
    rw [← found]
    exact written
  · intro number member
    rw [show t.requestedCodes = s.system.requestedCodes from count]
    exact h.issued number (numbers.mem_iff.mp member)

/-- A request is answered once, so its reply is the one that the log is searched for. -/
theorem CodesTracked.returnedFor_of_mem (h : CodesTracked s) {answer : CodeAnswer}
    (member : answer ∈ s.answers) : returnedFor s.answers answer.number = some answer.read := by
  have once : (s.answers.map CodeAnswer.number).Nodup := (List.nodup_append.mp h.once).1
  obtain ⟨found, isFound⟩ : ∃ found,
      (s.answers.find? fun other => other.number = answer.number) = some found := by
    rw [← Option.isSome_iff_exists, List.find?_isSome]
    exact ⟨answer, member, by simp⟩
  have number : found.number = answer.number := by simpa using List.find?_some isFound
  have same : found = answer :=
    List.inj_on_of_nodup_map once (List.mem_of_find?_eq_some isFound) member number
  rw [returnedFor, isFound, same]
  rfl

end Tracking

section Runs

variable {configuration : Configuration} {viewModel : ATCPhoneLoginScreenViewModel}

theorem codesTracked_step (s : Observed) (e : Event) (t : Observed) (h : CodesTracked s)
    (taken : observedStep configuration viewModel s e = some t) : CodesTracked t := by
  obtain ⟨t, stepped, rfl⟩ := Option.map_eq_some_iff.mp taken
  have effect := step_codeEffect stepped
  cases effect with
  | requested _ phoneNumber mode count sent kept signIns =>
    simpa [answerOf] using h.request count sent kept
  | submitted _ submits count left kept signIns =>
    simpa [answerOf] using h.drop kept count (left ▸ List.Sublist.refl _)
  | answered _ index verificationID request delivered count written signIns =>
    simpa [answerOf, delivered] using h.answer delivered count written
  | refused _ index message request delivered count kept signIns =>
    simpa [answerOf] using h.drop kept count (deliver_rest_sublist delivered)
  | unrelated _ _ noReply idle count left kept noCredential =>
    have silent : answerOf s.system e = [] := by
      cases e with
      | verifyReply index reply => exact absurd rfl (noReply index reply)
      | _ => rfl
    simpa [silent] using h.drop kept count (left ▸ List.Sublist.refl _)

/-- Where the last request is known, a submission pairs its ID exactly when the last reply
to have arrived brought it. -/
theorem pairs_iff_answeredLast {s : Observed} (h : CodesTracked s) {number : Nat}
    (issued : s.system.requestedCodes = number + 1) :
    returnedFor s.answers number = some (s.system.authVerificationID.getD "") ↔
      ∃ last, s.answers.getLast? = some last ∧
        (last.number = number ∨ returnedFor s.answers number = some last.read) := by
  constructor
  · intro returned
    cases arrived : s.answers.getLast? with
    | none =>
      rw [List.getLast?_eq_none_iff] at arrived
      rw [arrived] at returned
      cases returned
    | some last =>
      refine ⟨last, rfl, .inr ?_⟩
      rw [returned, h.stored last arrived]
      rfl
  · rintro ⟨last, arrived, asked⟩
    have stored : s.system.authVerificationID.getD "" = last.read := by
      rw [h.stored last arrived]
      rfl
    rw [stored]
    rcases asked with rfl | returned
    · exact h.returnedFor_of_mem (List.mem_of_getLast? arrived)
    · exact returned

theorem pairsLatestCode_step_iff (s : Observed) (e : Event) (t : Observed) (h : CodesTracked s)
    (taken : observedStep configuration viewModel s e = some t) :
    PairsLatestCode s e t ↔ LatestAnsweredLast configuration s e t := by
  obtain ⟨t, stepped, rfl⟩ := Option.map_eq_some_iff.mp taken
  have effect := step_codeEffect stepped
  unfold PairsLatestCode LatestAnsweredLast
  dsimp only
  have idle (signIns : ∀ verificationID code,
      t.signIns ≠ s.system.signIns ++ [.credential verificationID code])
      (noSubmit : ¬ Submits configuration s.system e) :
      PairsLatestCode s e ⟨t, s.answers ++ answerOf s.system e⟩ ↔
        LatestAnsweredLast configuration s e ⟨t, s.answers ++ answerOf s.system e⟩ :=
    iff_of_true (fun _ verificationID code _ submitted =>
      absurd submitted (signIns verificationID code)) fun _ _ submits => absurd submits noSubmit
  cases effect with
  | requested _ phoneNumber mode count sent kept signIns =>
    refine idle (by simp [signIns]) ?_
    intro submits
    cases mode.symm.trans submits.mode
  | submitted _ submits count left kept signIns =>
    refine forall_congr' fun number => ?_
    constructor
    · intro paired issued _
      exact (pairs_iff_answeredLast h issued).mp (paired _ _ issued signIns)
    · intro answeredLast verificationID code issued submitted
      have same := List.append_cancel_left (signIns.symm.trans submitted)
      simp only [List.cons.injEq, SignIn.credential.injEq, and_true] at same
      rw [← same.1]
      exact (pairs_iff_answeredLast h issued).mpr (answeredLast issued submits)
  | answered _ index verificationID request delivered count written signIns =>
    exact idle (by simp [signIns]) (not_submits_of_ne (by simp))
  | refused _ index message request delivered count kept signIns =>
    exact idle (by simp [signIns]) (not_submits_of_ne (by simp))
  | unrelated _ _ noReply noSubmit count left kept noCredential =>
    exact idle noCredential noSubmit

/-- For every configuration and view model, whatever ID the defaults hold from before, and
every interleaving: each OTP is paired with the ID returned for the last Send Code request
exactly when at each submission the last reply to have arrived is the one to that request,
or has brought the same ID. -/
theorem otp_pairs_latest_code_iff (configuration : Configuration)
    (viewModel : ATCPhoneLoginScreenViewModel) (authVerificationID : Option String)
    (es : List Event) :
    AlongRun (observedStep configuration viewModel) PairsLatestCode
        (observedLoad viewModel authVerificationID) es ↔
      AlongRun (observedStep configuration viewModel) (LatestAnsweredLast configuration)
        (observedLoad viewModel authVerificationID) es := by
  refine alongRun_iff_of_invariant CodesTracked pairsLatestCode_step_iff ?_
    (codesTracked_load viewModel authVerificationID)
  intro s e t h taken _
  exact codesTracked_step s e t h taken

end Runs

/-- A number is corrected while its code is on the way; the replies arrive the other way
round, and the code for the corrected number is submitted. -/
def correctedNumber : List Event :=
  [.didTapContactPointButton, .editPhoneNumber "5551234", .didTapLoginButton,
    .editPhoneNumber "5551235", .didTapLoginButton, .verifyReply 1 (.ok (some "second")),
    .verifyReply 0 (.ok (some "first")), .editOtp ["1", "2", "3", "4", "5", "6"],
    .didTapLoginButton]

/-- The code that was sent for the second request is paired with the ID of the first. -/
theorem late_reply_rebinds_code :
    ¬ ∀ (viewModel : ATCPhoneLoginScreenViewModel) (es : List Event),
      AlongRun (observedStep ⟨true, true⟩ viewModel) PairsLatestCode
        (observedLoad viewModel none) es := by
  intro claim
  have along := claim phoneLoginViewModel correctedNumber
  have submitted :=
    (((((((((along _ rfl).2 _ rfl).2 _ rfl).2 _ rfl).2 _ rfl).2 _ rfl).2 _ rfl).2 _ rfl).2 _ rfl).1
  have paired := submitted 1 "first" "123456" rfl (by decide)
  exact absurd paired (by decide)

end FinanciaApp.Guarantees
