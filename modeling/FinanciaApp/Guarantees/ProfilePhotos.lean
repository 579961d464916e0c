import FinanciaApp.Source.ProfileSystem

/-!
# Photo updates of one user

An operation computes the whole photos array from the local user, and the local user has
the array only when the write is acknowledged. As long as every array is computed while
no other array is on its way, or has the members of those that are, no update is lost:
`PhotosKept` says that every array on its way, the document once no array was sent, and
the local user once none is on its way have the members the operations ask for.
-/

set_option autoImplicit false

namespace FinanciaApp.Guarantees

open Library Source Source.ATCProfileFirebaseUpdater

def SamePhotos (photos photos' : List String) : Prop := ∀ url, url ∈ photos ↔ url ∈ photos'

theorem SamePhotos.symm {photos photos' : List String} (h : SamePhotos photos photos') :
    SamePhotos photos' photos := fun url => (h url).symm

theorem SamePhotos.trans {photos photos' photos'' : List String} (h : SamePhotos photos photos')
    (h' : SamePhotos photos' photos'') : SamePhotos photos photos'' :=
  fun url => (h url).trans (h' url)

def localPhotos (user : ATCUser) : List String := user.photos.getD []

/-- An uploaded URL is added and a removed one is not there any more. -/
def photosAfter (photos : List String) : Event → List String
  | .removePhoto url => photos.filter fun photo => photo ≠ url
  | .uploadReply _ (some url) => photos ++ [url]
  | _ => photos

/-- The photos that a sequence of events asks for. -/
def keptPhotos (user : ATCUser) (es : List Event) : List String :=
  es.foldl photosAfter (localPhotos user)

/-- The photos on their way already have what the event asks for, and are the array that
the updater computes for it, if it computes one: without local photos nothing is removed. -/
def AgreesWith (user : ATCUser) (photos : List String) : Event → Prop
  | .removePhoto url =>
    url ∉ photos ∧ ∀ local', user.photos = some local' →
      SamePhotos photos (local'.filter fun photo => photo ≠ url)
  | .uploadReply _ (some url) => SamePhotos photos (localPhotos user ++ [url])
  | _ => True

/-- The write does not fail. -/
def Succeeds (e : Event) : Prop := ∀ index message, e ≠ .writeReply index (some message)

/-- A new photos array is computed while no other one is on its way, or it has the
members of every one that is. -/
def ComputedUpToDate (s : System) (e : Event) : Prop :=
  ∀ write ∈ s.sent ++ s.committed, ∀ photos, write.closure.photos = some photos →
    AgreesWith s.user photos e

/-- No reply is outstanding. -/
structure Quiescent (s : System) : Prop where
  uploads : s.uploads = []
  sent : s.sent = []
  committed : s.committed = []

/-- The arrays on their way, the document and the local user against the photos that the
events so far ask for. -/
structure PhotosKept (uid : String) (kept : List String) (s : System) : Prop where
  hasUid : s.user.uid = some uid
  addressed : ∀ write ∈ s.sent ++ s.committed, write.document = uid ∧ write.CarriesPhotos
  carried : ∀ write ∈ s.sent ++ s.committed, ∀ photos, write.closure.photos = some photos →
    SamePhotos photos kept
  server : (∀ write ∈ s.sent, write.closure.photos = none) →
    SamePhotos (photosOf (s.documents uid)) kept
  mirrored : (∀ write ∈ s.sent ++ s.committed, write.closure.photos = none) →
    SamePhotos (localPhotos s.user) kept

theorem photosAfter_same (e : Event) {photos photos' : List String}
    (h : SamePhotos photos photos') :
    SamePhotos (photosAfter photos e) (photosAfter photos' e) := by
  intro photo
  have same := h photo
  unfold photosAfter
  split
  · simp [same]
  · simp [same]
  · exact same

theorem removed_absent {photos : List String} {url : String} (absent : url ∉ photos) :
    SamePhotos (photos.filter fun photo => photo ≠ url) photos := by
  intro photo
  simp only [List.mem_filter, decide_eq_true_eq]
  exact ⟨And.left, fun there => ⟨there, fun same => absent (same ▸ there)⟩⟩

theorem added_present {photos : List String} {url : String} (present : url ∈ photos) :
    SamePhotos (photos ++ [url]) photos := by
  intro photo
  simp only [List.mem_append, List.mem_singleton]
  exact ⟨fun there => there.elim id fun same => same ▸ present, .inl⟩

/-- Asking for what the photos on their way already have changes no member. -/
theorem photosAfter_of_agrees {user : ATCUser} {photos : List String} {e : Event}
    (agrees : AgreesWith user photos e) : SamePhotos (photosAfter photos e) photos := by
  cases e with
  | removePhoto url => exact removed_absent agrees.1
  | uploadReply index url =>
    cases url with
    | none => exact fun _ => Iff.rfl
    | some url => exact added_present ((agrees url).mpr (by simp))
  | _ => exact fun _ => Iff.rfl

theorem localPhotos_completion (error : Option String) (user : ATCUser) (closure : Closure) :
    localPhotos (completion error user closure).1 =
      closure.photos.getD (localPhotos user) := by
  rw [localPhotos, completion_photos]
  cases closure.photos <;> rfl

theorem mem_send {s : System} {write w : Write}
    (h : w ∈ (s.send (some write)).sent ++ (s.send (some write)).committed) :
    w = write ∨ w ∈ s.sent ++ s.committed := by
  simp only [System.send, Option.toList_some, List.mem_append, List.mem_singleton] at h ⊢
  tauto

theorem mem_send_of_mem {s : System} {write : Option Write} {w : Write}
    (h : w ∈ s.sent ++ s.committed) : w ∈ (s.send write).sent ++ (s.send write).committed := by
  simp only [System.send, List.mem_append] at h ⊢
  tauto

section Steps

variable {uid : String} {kept kept' : List String} {s : System}

theorem photosKept_of_same (h : PhotosKept uid kept s) (same : SamePhotos kept kept') :
    PhotosKept uid kept' s where
  hasUid := h.hasUid
  addressed := h.addressed
  carried write inFlight photos carries := (h.carried write inFlight photos carries).trans same
  server noPhotos := (h.server noPhotos).trans same
  mirrored noPhotos := (h.mirrored noPhotos).trans same

/-- A write without photos is sent. -/
theorem photosKept_send_other (h : PhotosKept uid kept s) {write : Write}
    (addressed : write.document = uid ∧ write.CarriesPhotos)
    (other : write.closure.photos = none) : PhotosKept uid kept (s.send (some write)) where
  hasUid := h.hasUid
  addressed := by
    intro w inFlight
    rcases mem_send inFlight with rfl | before
    · exact addressed
    · exact h.addressed w before
  carried := by
    intro w inFlight photos carries
    rcases mem_send inFlight with rfl | before
    · rw [other] at carries
      cases carries
    · exact h.carried w before photos carries
  server noPhotos := h.server fun w sent => noPhotos w (List.mem_append_left _ sent)
  mirrored noPhotos := h.mirrored fun w inFlight => noPhotos w (mem_send_of_mem inFlight)

/-- A write with the photos asked for is sent. -/
theorem photosKept_send_photos (h : PhotosKept uid kept s) {write : Write} {photos : List String}
    (addressed : write.document = uid ∧ write.CarriesPhotos)
    (carries : write.closure.photos = some photos) (same : SamePhotos photos kept')
    (others : ∀ w ∈ s.sent ++ s.committed, ∀ photos, w.closure.photos = some photos →
      SamePhotos photos kept') : PhotosKept uid kept' (s.send (some write)) where
  hasUid := h.hasUid
  addressed := by
    intro w inFlight
    rcases mem_send inFlight with rfl | before
    · exact addressed
    · exact h.addressed w before
  carried := by
    intro w inFlight photos' carries'
    rcases mem_send inFlight with rfl | before
    · rw [carries] at carries'
      cases carries'
      exact same
    · exact others w before photos' carries'
  server noPhotos := by
    have absent := noPhotos write (by simp [System.send])
    rw [carries] at absent
    cases absent
  mirrored noPhotos := by
    have absent := noPhotos write (by simp [System.send])
    rw [carries] at absent
    cases absent

theorem photosKept_commit (h : PhotosKept uid kept s) {index : Nat} {write : Write}
    {rest : List Write} (answered : deliver s.sent index = some (write, rest)) :
    PhotosKept uid kept (s.commit write rest) := by
  have inFlight : ∀ w, w ∈ rest ++ (s.committed ++ [write]) ↔ w ∈ s.sent ++ s.committed := by
    intro w
    have perm := (deliver_perm answered).mem_iff (a := w)
    simp only [List.mem_append, List.mem_cons, List.not_mem_nil, or_false] at perm ⊢
    rw [← perm]
    tauto
  obtain ⟨atUid, carriesPhotos⟩ :=
    h.addressed write (List.mem_append_left _ (deliver_mem answered))
  refine ⟨h.hasUid, fun w there => h.addressed w ((inFlight w).mp there),
    fun w there => h.carried w ((inFlight w).mp there), fun noPhotos => ?_,
    fun noPhotos => h.mirrored fun w there => noPhotos w ((inFlight w).mpr there)⟩
  have document : photosOf ((s.commit write rest).documents uid) =
      write.closure.photos.getD (photosOf (s.documents uid)) := by
    simp only [System.commit, atUid, Function.update_self]
    exact carriesPhotos _
  rw [document]
  cases carries : write.closure.photos with
  | some photos =>
    exact h.carried write (List.mem_append_left _ (deliver_mem answered)) photos carries
  | none =>
    refine h.server fun w sent => ?_
    rcases List.mem_cons.mp ((deliver_perm answered).mem_iff.mpr sent) with rfl | left
    · exact carries
    · exact noPhotos w left

theorem photosKept_acknowledged (h : PhotosKept uid kept s) {index : Nat} {write : Write}
    {rest : List Write} (answered : deliver s.committed index = some (write, rest)) :
    PhotosKept uid kept ({ s with committed := rest }.complete none write) := by
  have inFlight : ∀ w ∈ s.sent ++ rest, w ∈ s.sent ++ s.committed := by
    intro w there
    rcases List.mem_append.mp there with sent | left
    · exact List.mem_append_left _ sent
    · exact List.mem_append_right _ (deliver_rest_subset answered w left)
  refine ⟨(completion_uid _ _ _).trans h.hasUid, fun w there => h.addressed w (inFlight w there),
    fun w there => h.carried w (inFlight w there), h.server, fun noPhotos => ?_⟩
  have written := List.mem_append_right s.sent (deliver_mem answered)
  change SamePhotos (localPhotos (completion none s.user write.closure).1) kept
  rw [localPhotos_completion]
  cases carries : write.closure.photos with
  | some photos => exact h.carried write written photos carries
  | none =>
    refine h.mirrored fun w there => ?_
    rcases List.mem_append.mp there with sent | committed
    · exact noPhotos w (List.mem_append_left _ sent)
    · rcases List.mem_cons.mp ((deliver_perm answered).mem_iff.mpr committed) with rfl | left
      · exact carries
      · exact noPhotos w (List.mem_append_right _ left)

/-- Where the condition is met, the event asks for nothing new, or no array is on its way. -/
theorem nothing_new_or_alone (h : PhotosKept uid kept s) {e : Event}
    (met : ComputedUpToDate s e) :
    (∃ photos, SamePhotos photos kept ∧ AgreesWith s.user photos e ∧
        SamePhotos kept (photosAfter kept e)) ∨
      (∀ write ∈ s.sent ++ s.committed, write.closure.photos = none) ∧
        SamePhotos (localPhotos s.user) kept := by
  by_cases alone : ∀ write ∈ s.sent ++ s.committed, write.closure.photos = none
  · exact .inr ⟨alone, h.mirrored alone⟩
  · push Not at alone
    obtain ⟨write, inFlight, carries⟩ := alone
    obtain ⟨photos, carries⟩ := Option.ne_none_iff_exists'.mp carries
    have agrees := met write inFlight photos carries
    have asked := h.carried write inFlight photos carries
    have unchanged := asked.symm.trans (photosAfter_of_agrees agrees).symm
    exact .inl ⟨photos, asked, agrees, unchanged.trans (photosAfter_same e asked)⟩

/-- An array that meets the condition is sent. -/
theorem photosKept_send_computed (h : PhotosKept uid kept s) {e : Event}
    (met : ComputedUpToDate s e) {write : Write}
    (addressed : write.document = uid ∧ write.CarriesPhotos)
    (computed : write.closure.photos = some (photosAfter (localPhotos s.user) e))
    (agreed : ∀ photos, AgreesWith s.user photos e →
      SamePhotos photos (photosAfter (localPhotos s.user) e)) :
    PhotosKept uid (photosAfter kept e) (s.send (some write)) := by
  rcases nothing_new_or_alone h met with ⟨photos, asked, agrees, nothingNew⟩ | ⟨alone, current⟩
  · have same := (agreed photos agrees).symm.trans (asked.trans nothingNew)
    refine photosKept_send_photos h addressed computed same fun w inFlight photos carries => ?_
    exact (h.carried w inFlight photos carries).trans nothingNew
  · refine photosKept_send_photos h addressed computed (photosAfter_same e current)
      fun w inFlight photos carries => ?_
    rw [alone w inFlight] at carries
    cases carries

/-- A user without photos has none to remove. -/
theorem photosKept_nothing_removed (h : PhotosKept uid kept s) {url : String}
    (met : ComputedUpToDate s (.removePhoto url)) (empty : s.user.photos = none) :
    PhotosKept uid (photosAfter kept (.removePhoto url)) s := by
  rcases nothing_new_or_alone h met with ⟨-, -, -, nothingNew⟩ | ⟨-, current⟩
  · exact photosKept_of_same h nothingNew
  · have noPhotos : localPhotos s.user = [] := by rw [localPhotos, empty, Option.getD_none]
    rw [noPhotos] at current
    exact photosKept_of_same h (current.symm.trans (photosAfter_same (.removePhoto url) current))

theorem photosKept_removePhoto (h : PhotosKept uid kept s) (url : String)
    (met : ComputedUpToDate s (.removePhoto url)) :
    PhotosKept uid (photosAfter kept (.removePhoto url)) (s.send (removePhoto url s.user)) := by
  cases photos : s.user.photos with
  | none =>
    have nothing : removePhoto url s.user = none := by simp [removePhoto, h.hasUid, photos]
    rw [nothing]
    simpa [System.send] using photosKept_nothing_removed h met photos
  | some photos' =>
    obtain ⟨write, written, document, carries⟩ := removePhoto_write h.hasUid photos url
    have filtered : photosAfter (localPhotos s.user) (.removePhoto url) =
        photos'.filter fun photo => photo ≠ url := by
      rw [localPhotos, photos]
      rfl
    rw [written]
    refine photosKept_send_computed h met ⟨document, carriesPhotos_removePhoto written⟩
      (filtered ▸ carries) fun onItsWay agrees => ?_
    rw [filtered]
    exact agrees.2 photos' photos

theorem photosKept_uploaded (h : PhotosKept uid kept s) (index : Nat) (url : String)
    (isProfilePhoto : Bool) (met : ComputedUpToDate s (.uploadReply index (some url))) :
    PhotosKept uid (photosAfter kept (.uploadReply index (some url)))
      (s.sendOrFail (uploadImageCompletion (some url) isProfilePhoto s.user)) := by
  obtain ⟨write, written, document, carries⟩ :=
    uploadImageCompletion_write h.hasUid url isProfilePhoto
  rw [written]
  exact photosKept_send_computed (e := .uploadReply index (some url)) h met
    ⟨document, carriesPhotos_uploadImage written⟩ carries fun _ agrees => agrees

/-- What changes neither the user nor the documents nor the writes. -/
theorem photosKept_uploads (h : PhotosKept uid kept s) (uploads : List Upload)
    (completions : List CompletionCall) :
    PhotosKept uid kept { s with uploads := uploads, completions := completions } :=
  ⟨h.hasUid, h.addressed, h.carried, h.server, h.mirrored⟩

theorem photosKept_updateProfilePicture (h : PhotosKept uid kept s) (url : Option String) :
    PhotosKept uid kept (s.sendOrFail (updateProfilePicture url s.user)) := by
  cases written : updateProfilePicture url s.user with
  | none => exact photosKept_uploads h _ _
  | some write =>
    have carriesPhotos := carriesPhotos_updateProfilePicture written
    cases url with
    | none => simp [updateProfilePicture] at written
    | some url =>
      simp only [updateProfilePicture, h.hasUid, Option.some.injEq] at written
      subst written
      exact photosKept_send_other h ⟨rfl, carriesPhotos⟩ rfl

theorem photosKept_update (h : PhotosKept uid kept s) (email firstName lastName username : String) :
    PhotosKept uid kept (s.send (update email firstName lastName username s.user)) := by
  cases written : update email firstName lastName username s.user with
  | none => simpa [System.send] using h
  | some write =>
    have carriesPhotos := carriesPhotos_update written
    simp only [update, h.hasUid, Option.some.injEq] at written
    subst written
    exact photosKept_send_other h ⟨rfl, carriesPhotos⟩ rfl

theorem photosKept_step {t : System} {e : Event} (h : PhotosKept uid kept s)
    (taken : step s e = some t) (succeeds : Succeeds e) (met : ComputedUpToDate s e) :
    PhotosKept uid (photosAfter kept e) t := by
  have effect := step_effect taken
  cases effect with
  | removePhoto url => exact photosKept_removePhoto h url met
  | uploadPhoto isProfilePhoto => exact photosKept_uploads h _ _
  | notEncodable isProfilePhoto => exact photosKept_uploads h _ _
  | updateProfilePicture url => exact photosKept_updateProfilePicture h url
  | update email firstName lastName username =>
    exact photosKept_update h email firstName lastName username
  | uploadReply index url upload rest answered =>
    have inert := photosKept_uploads h rest s.completions
    cases url with
    | none => exact photosKept_uploads h rest _
    | some url => exact photosKept_uploaded inert index url upload.isProfilePhoto met
  | commit index write rest answered => exact photosKept_commit h answered
  | acknowledged index write rest answered => exact photosKept_acknowledged h answered
  | failed index message write rest answered => exact absurd rfl (succeeds index message)

end Steps

theorem photosKept_initial {user : ATCUser} {uid : String} (hasUid : user.uid = some uid) :
    PhotosKept uid (keptPhotos user []) (.initial user) where
  hasUid := hasUid
  addressed := by simp [System.initial]
  carried := by simp [System.initial]
  server _ := by
    have fetched : photosOf ((System.initial user).documents uid) = localPhotos user := by
      cases photos : user.photos with
      | none => simp [System.initial, photosOf, localPhotos, photos]
      | some photos' =>
        rw [localPhotos, photos, Option.getD_some]
        exact photosOf_stringArray (by simp [System.initial, photos])
    rw [fetched]
    exact fun _ => Iff.rfl
  mirrored _ := fun _ => Iff.rfl

end FinanciaApp.Guarantees
