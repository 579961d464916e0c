import FinanciaApp.Source.ProfileSystem

/-!
# Failed profile writes and the local user

The closures of the profile updater mirror what was written in the local user, and all
but one report success, without a look at the error they are called with. So a failed
write leaves the user alone and is reported as failed exactly where the closure mirrors
what the user has already and reports no success: a photo was removed that was not
there, or `update` was called with the current values.
-/

set_option autoImplicit false

namespace FinanciaApp.Guarantees

open Library Source Source.ATCProfileFirebaseUpdater

/-- A failed write leaves the local user as it was, and a completion that is passed a
flag is passed `true` exactly at the acknowledgement of a write. -/
structure HonestStep (s : System) (e : Event) (t : System) : Prop where
  unchanged : ∀ index message, e = .writeReply index (some message) → t.user = s.user
  flags : ∀ value, t.completions = s.completions ++ [.success value] →
    (value = true ↔ ∃ index, e = .writeReply index none)

/-- The closure mirrors what the user has already, and passes on the error if it passes
a flag at all. -/
def mirrorsNothing (user : ATCUser) : Closure → Prop
  | .removePhoto remainingPhotos => user.photos = some remainingPhotos
  | .uploadPhoto _ _ _ => False
  | .updateProfilePicture _ => False
  | .update email firstName lastName username =>
    user.email = some email ∧ user.firstName = some firstName ∧
      user.lastName = some lastName ∧ user.username = some username

/-- A write that fails belongs to a closure that mirrors nothing new. -/
def FailsHarmlessly (s : System) (e : Event) : Prop :=
  ∀ index message write rest, e = .writeReply index (some message) →
    deliver s.sent index = some (write, rest) → mirrorsNothing s.user write.closure

/-- What a closure makes of an error: it leaves the user alone and does not report
success exactly when it mirrors nothing new. -/
theorem completion_error_iff (message : String) (user : ATCUser) (closure : Closure) :
    ((completion (some message) user closure).1 = user ∧
      (completion (some message) user closure).2 ≠ .success true) ↔
      mirrorsNothing user closure := by
  cases closure with
  | removePhoto remainingPhotos =>
    constructor
    · rintro ⟨same, -⟩
      exact (congrArg ATCUser.photos same).symm
    · intro mirrored
      have same : user.photos = some remainingPhotos := mirrored
      refine ⟨?_, by simp [completion, removePhotoCompletion]⟩
      simp only [completion, removePhotoCompletion, ← same]
  | uploadPhoto photos url isProfilePhoto =>
    exact iff_of_false (fun h => h.2 rfl) id
  | updateProfilePicture url => exact iff_of_false (fun h => h.2 rfl) id
  | update email firstName lastName username =>
    constructor
    · rintro ⟨same, -⟩
      exact ⟨(congrArg ATCUser.email same).symm, (congrArg ATCUser.firstName same).symm,
        (congrArg ATCUser.lastName same).symm, (congrArg ATCUser.username same).symm⟩
    · rintro ⟨sameEmail, sameFirst, sameLast, sameUsername⟩
      refine ⟨?_, by simp [completion, updateCompletion]⟩
      simp only [completion, updateCompletion, ← sameEmail, ← sameFirst, ← sameLast,
        ← sameUsername]

/-- An acknowledged write is never reported as failed. -/
theorem completion_acknowledged (user : ATCUser) (closure : Closure) :
    (completion none user closure).2 ≠ .success false := by
  cases closure <;> simp [completion, removePhotoCompletion, uploadPhotoCompletion,
    updateProfilePictureCompletion, updateCompletion]

/-- A step that is no reply to a write passes `false` if it calls a completion. -/
theorem honestStep_of_no_reply {s t : System} {e : Event}
    (noReply : ∀ index error, e ≠ .writeReply index error)
    (calls : t.completions = s.completions ∨
      t.completions = s.completions ++ [.success false]) : HonestStep s e t where
  unchanged index message reply := absurd reply (noReply index _)
  flags value called := by
    have isFalse : value = false := by
      rcases calls with none | failed
      · simp [none] at called
      · rw [failed] at called
        simpa using (List.append_cancel_left called).symm
    constructor
    · intro isTrue
      rw [isFalse] at isTrue
      cases isTrue
    · rintro ⟨index, reply⟩
      exact absurd reply (noReply index none)

theorem sendOrFail_completions (s : System) (write : Option Write) :
    (s.sendOrFail write).completions = s.completions ∨
      (s.sendOrFail write).completions = s.completions ++ [.success false] := by
  cases write with
  | some write => exact .inl rfl
  | none => exact .inr rfl

theorem honestStep_acknowledged (s : System) (index : Nat) (write : Write) (rest : List Write) :
    HonestStep s (.writeReply index none) ({ s with committed := rest }.complete none write) where
  unchanged index message reply := by cases reply
  flags value called := by
    have passed : (completion none s.user write.closure).2 = .success value := by
      simpa [System.complete] using called
    have notFalse := completion_acknowledged s.user write.closure
    rw [passed] at notFalse
    refine iff_of_true ?_ ⟨index, rfl⟩
    cases value with
    | true => rfl
    | false => exact absurd rfl notFalse

theorem honestStep_failed_iff (s : System) (index : Nat) (message : String) (write : Write)
    (rest : List Write) (answered : deliver s.sent index = some (write, rest)) :
    HonestStep s (.writeReply index (some message))
        ({ s with sent := rest }.complete (some message) write) ↔
      FailsHarmlessly s (.writeReply index (some message)) := by
  have harmless : FailsHarmlessly s (.writeReply index (some message)) ↔
      mirrorsNothing s.user write.closure := by
    constructor
    · intro h
      exact h index message write rest rfl answered
    · intro h index' message' write' rest' reply answered'
      cases reply
      rw [answered] at answered'
      cases answered'
      exact h
  rw [harmless, ← completion_error_iff message]
  constructor
  · intro honest
    refine ⟨honest.unchanged index message rfl, fun passed => ?_⟩
    have flag := honest.flags true (by simp [System.complete, passed])
    obtain ⟨index', reply⟩ := flag.mp rfl
    cases reply
  · rintro ⟨same, notTrue⟩
    refine ⟨fun _ _ _ => same, fun value called => ?_⟩
    have passed : (completion (some message) s.user write.closure).2 = .success value := by
      simpa [System.complete] using called
    refine iff_of_false (fun isTrue => ?_) ?_
    · rw [isTrue] at passed
      exact notTrue passed
    · rintro ⟨index', reply⟩
      cases reply

/-- A step is honest exactly when it is no failed write whose closure mirrors something
new or reports success. -/
theorem honestStep_iff (s : System) (e : Event) (t : System) (taken : step s e = some t) :
    HonestStep s e t ↔ FailsHarmlessly s e := by
  have effect := step_effect taken
  cases effect with
  | failed index message write rest answered =>
    exact honestStep_failed_iff s index message write rest answered
  | acknowledged index write rest answered =>
    refine iff_of_true (honestStep_acknowledged s index write rest) ?_
    intro _ _ _ _ reply
    cases reply
  | removePhoto url =>
    exact iff_of_true (honestStep_of_no_reply (by simp) (.inl rfl)) (by simp [FailsHarmlessly])
  | uploadPhoto isProfilePhoto =>
    exact iff_of_true (honestStep_of_no_reply (by simp) (.inl rfl)) (by simp [FailsHarmlessly])
  | notEncodable isProfilePhoto =>
    exact iff_of_true (honestStep_of_no_reply (by simp) (.inr rfl)) (by simp [FailsHarmlessly])
  | updateProfilePicture url =>
    exact iff_of_true (honestStep_of_no_reply (by simp) (sendOrFail_completions s _))
      (by simp [FailsHarmlessly])
  | update email firstName lastName username =>
    exact iff_of_true (honestStep_of_no_reply (by simp) (.inl rfl)) (by simp [FailsHarmlessly])
  | uploadReply index url upload rest answered =>
    exact iff_of_true
      (honestStep_of_no_reply (by simp) (sendOrFail_completions { s with uploads := rest } _))
      (by simp [FailsHarmlessly])
  | commit index write rest answered =>
    exact iff_of_true (honestStep_of_no_reply (by simp) (.inl rfl)) (by simp [FailsHarmlessly])

/-- Along every run of the updater, for every user: every failed write leaves the local
user as it was and no flag is wrong exactly when every write that fails was to remove a
photo that is not there or to update the user with the values it has. -/
theorem writes_honest_iff (user : ATCUser) (es : List Event) :
    AlongRun step HonestStep (.initial user) es ↔
      AlongRun step (fun s e _ => FailsHarmlessly s e) (.initial user) es :=
  alongRun_iff_of_step honestStep_iff (.initial user) es

/-- A new profile picture whose write fails is mirrored and reported as a success. -/
theorem failed_picture_write_mirrored :
    ¬ ∀ (user : ATCUser) (es : List Event), AlongRun step HonestStep (.initial user) es := by
  intro claim
  have along := claim
    (ATCUser.new "u1" none none none "" "" none none none false none none false none "" false [])
    [.updateProfilePicture (some "new.jpg"), .writeReply 0 (some "permission denied")]
  have bad := ((along _ rfl).2 _ rfl).1
  have same := congrArg ATCUser.profilePictureURL (bad.unchanged 0 _ rfl)
  exact absurd same (by decide)

end FinanciaApp.Guarantees
