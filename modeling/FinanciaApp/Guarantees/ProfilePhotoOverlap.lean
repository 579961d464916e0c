import FinanciaApp.Guarantees.ProfilePhotos

/-!
# Overlapping photo updates lose one

While two arrays with different members are on their way, the replies decide which of the
two the local user ends up with, and one of them is not what the operations ask for. So the
condition of `PhotosKept` cannot be weakened: a run that breaks it can be continued, with
replies that all succeed, to a state without outstanding replies that has lost an update.
-/

set_option autoImplicit false

namespace FinanciaApp.Guarantees

open Library Source Source.ATCProfileFirebaseUpdater

/-- Events without failed writes lead from one state to the other, and change the photos
that are asked for as given. -/
def Leads (s : System) (kept : List String) (t : System) (kept' : List String) : Prop :=
  ∃ es, (∀ e ∈ es, Succeeds e) ∧ run step s es = some t ∧ es.foldl photosAfter kept = kept'

theorem Leads.refl (s : System) (kept : List String) : Leads s kept s kept :=
  ⟨[], by simp, rfl, rfl⟩

theorem Leads.trans {s t u : System} {kept kept' kept'' : List String}
    (h : Leads s kept t kept') (h' : Leads t kept' u kept'') : Leads s kept u kept'' := by
  obtain ⟨es, succeed, taken, rfl⟩ := h
  obtain ⟨es', succeed', taken', rfl⟩ := h'
  refine ⟨es ++ es', ?_, ?_, List.foldl_append⟩
  · intro e member
    exact (List.mem_append.mp member).elim (succeed e) (succeed' e)
  · rw [run_append, taken]
    exact taken'

theorem mem_send_self (s : System) (write : Write) :
    write ∈ (s.send (some write)).sent ++ (s.send (some write)).committed := by
  simp [System.send]

section Draining

variable {s : System} (kept : List String)

theorem leads_commit {write : Write} {rest : List Write} (sent : s.sent = write :: rest) :
    Leads s kept (s.commit write rest) kept := by
  refine ⟨[.commit 0], by simp [Succeeds], ?_, rfl⟩
  have answered : deliver s.sent 0 = some (write, rest) := by
    rw [sent]
    rfl
  simp [run, step, answered]

theorem leads_acknowledged {index : Nat} {write : Write} {rest : List Write}
    (answered : deliver s.committed index = some (write, rest)) :
    Leads s kept ({ s with committed := rest }.complete none write) kept := by
  refine ⟨[.writeReply index none], by simp [Succeeds], ?_, rfl⟩
  simp [run, step, answered]

/-- All writes that were sent are committed, in order. -/
theorem leads_commitAll (sent : List Write) (s : System) (isSent : s.sent = sent) :
    ∃ t, Leads s kept t kept ∧ t.user = s.user ∧ t.uploads = s.uploads ∧ t.sent = [] ∧
      t.committed = s.committed ++ sent := by
  induction sent generalizing s with
  | nil => exact ⟨s, .refl s kept, rfl, rfl, isSent, (List.append_nil _).symm⟩
  | cons write rest ih =>
    obtain ⟨t, leads, user, uploads, none, committed⟩ := ih (s.commit write rest) rfl
    refine ⟨t, (leads_commit kept isSent).trans leads, user, uploads, none, ?_⟩
    rw [committed]
    exact (List.append_cons _ _ _).symm

/-- The writes before a given one are acknowledged. -/
theorem leads_before (before after : List Write) (s : System)
    (committed : s.committed = before ++ after) :
    ∃ t, Leads s kept t kept ∧ t.user.uid = s.user.uid ∧ t.uploads = s.uploads ∧
      t.sent = s.sent ∧ t.committed = after := by
  induction before generalizing s with
  | nil => exact ⟨s, .refl s kept, rfl, rfl, rfl, committed⟩
  | cons write rest ih =>
    have answered : deliver s.committed 0 = some (write, rest ++ after) := by
      rw [committed]
      rfl
    obtain ⟨t, leads, uid, uploads, sent, left⟩ :=
      ih ({ s with committed := rest ++ after }.complete none write) rfl
    exact ⟨t, (leads_acknowledged kept answered).trans leads,
      uid.trans (completion_uid _ _ _), uploads, sent, left⟩

/-- The writes behind a given one are acknowledged before it. -/
theorem leads_behind (write : Write) (after : List Write) (s : System)
    (committed : s.committed = write :: after) :
    ∃ t, Leads s kept t kept ∧ t.user.uid = s.user.uid ∧ t.uploads = s.uploads ∧
      t.sent = s.sent ∧ t.committed = [write] := by
  induction after generalizing s with
  | nil => exact ⟨s, .refl s kept, rfl, rfl, rfl, committed⟩
  | cons next rest ih =>
    have answered : deliver s.committed 1 = some (next, write :: rest) := by
      rw [committed]
      rfl
    obtain ⟨t, leads, uid, uploads, sent, left⟩ :=
      ih ({ s with committed := write :: rest }.complete none next) rfl
    exact ⟨t, (leads_acknowledged kept answered).trans leads,
      uid.trans (completion_uid _ _ _), uploads, sent, left⟩

/-- Any array on its way may be the one that the local user is left with. -/
theorem leads_to_photos {write : Write} {photos : List String}
    (inFlight : write ∈ s.sent ++ s.committed) (carries : write.closure.photos = some photos) :
    ∃ t, Leads s kept t kept ∧ t.user.uid = s.user.uid ∧ t.uploads = s.uploads ∧ t.sent = [] ∧
      t.committed = [] ∧ localPhotos t.user = photos := by
  obtain ⟨t₁, leads₁, user₁, uploads₁, sent₁, committed₁⟩ := leads_commitAll kept s.sent s rfl
  have there : write ∈ t₁.committed := by
    rw [committed₁]
    exact List.mem_append.mpr (List.mem_append.mp inFlight).symm
  obtain ⟨before, after, split⟩ := List.append_of_mem there
  obtain ⟨t₂, leads₂, uid₂, uploads₂, sent₂, committed₂⟩ :=
    leads_before kept before (write :: after) t₁ split
  obtain ⟨t₃, leads₃, uid₃, uploads₃, sent₃, committed₃⟩ :=
    leads_behind kept write after t₂ committed₂
  have answered : deliver t₃.committed 0 = some (write, []) := by
    rw [committed₃]
    rfl
  refine ⟨_, ((leads₁.trans leads₂).trans leads₃).trans (leads_acknowledged kept answered),
    ?_, ?_, ?_, rfl, ?_⟩
  · calc (completion none t₃.user write.closure).1.uid = t₃.user.uid := completion_uid _ _ _
      _ = t₂.user.uid := uid₃
      _ = t₁.user.uid := uid₂
      _ = s.user.uid := by rw [user₁]
  · exact (uploads₃.trans uploads₂).trans uploads₁
  · exact (sent₃.trans sent₂).trans sent₁
  · exact (localPhotos_completion none t₃.user write.closure).trans (by rw [carries]; rfl)

end Draining

/-- An upload that brings another URL is answered, written and acknowledged. -/
theorem leads_upload {s : System} {uid : String} (kept : List String) (url : String)
    (hasUid : s.user.uid = some uid) {upload : Upload} {rest : List Upload}
    (uploads : s.uploads = upload :: rest) :
    ∃ t, Leads s kept t (kept ++ [url]) ∧ t.user.uid = some uid ∧ t.uploads = rest ∧
      t.sent = [] ∧ t.committed = [] ∧ localPhotos t.user = localPhotos s.user ++ [url] := by
  obtain ⟨write, written, -, carries⟩ :=
    uploadImageCompletion_write hasUid url upload.isProfilePhoto
  have answered : deliver s.uploads 0 = some (upload, rest) := by
    rw [uploads]
    rfl
  have replied : Leads s kept ({ s with uploads := rest }.send (some write)) (kept ++ [url]) := by
    refine ⟨[.uploadReply 0 (some url)], by simp [Succeeds], ?_, rfl⟩
    simp [run, step, answered, written, System.sendOrFail]
  obtain ⟨t, leads, uid', uploads', sent', committed', photos⟩ :=
    leads_to_photos (kept ++ [url]) (mem_send_self { s with uploads := rest } write) carries
  exact ⟨t, replied.trans leads, uid'.trans hasUid, uploads', sent', committed', photos⟩

/-- Uploads that are answered one after the other, with other URLs, do not make up for a
photo that the local user and the operations disagree about. -/
theorem leads_uploads {uid photo : String} (uploads : List Upload) (s : System)
    (kept : List String) (hasUid : s.user.uid = some uid) (isUploads : s.uploads = uploads)
    (sent : s.sent = []) (committed : s.committed = [])
    (lost : ¬ (photo ∈ localPhotos s.user ↔ photo ∈ kept)) :
    ∃ t kept', Leads s kept t kept' ∧ Quiescent t ∧
      ¬ (photo ∈ localPhotos t.user ↔ photo ∈ kept') := by
  induction uploads generalizing s kept with
  | nil => exact ⟨s, kept, .refl s kept, ⟨isUploads, sent, committed⟩, lost⟩
  | cons upload rest ih =>
    have fresh : photo ≠ photo ++ "." := by
      intro same
      have length := congrArg String.length same
      simp at length
    obtain ⟨t, leads, hasUid', isUploads', sent', committed', photos⟩ :=
      leads_upload kept (photo ++ ".") hasUid isUploads
    have stillLost :
        ¬ (photo ∈ localPhotos t.user ↔ photo ∈ kept ++ [photo ++ "."]) := by
      simpa [photos, fresh] using lost
    obtain ⟨u, kept', leads', quiescent, lost'⟩ :=
      ih t (kept ++ [photo ++ "."]) hasUid' isUploads' sent' committed' stillLost
    exact ⟨u, kept', leads.trans leads', quiescent, lost'⟩

/-- An array on its way that has not the members asked for is one way to lose an update. -/
theorem loses_of_inFlight {s : System} {uid : String} (kept : List String)
    (hasUid : s.user.uid = some uid) {write : Write} {photos : List String}
    (inFlight : write ∈ s.sent ++ s.committed) (carries : write.closure.photos = some photos)
    (other : ¬ SamePhotos photos kept) :
    ∃ t kept', Leads s kept t kept' ∧ Quiescent t ∧ ¬ SamePhotos (localPhotos t.user) kept' := by
  obtain ⟨t, leads, uid', uploads, sent, committed, final⟩ := leads_to_photos kept inFlight carries
  obtain ⟨photo, lost⟩ := not_forall.mp other
  rw [← final] at lost
  obtain ⟨u, kept', leads', quiescent, lost'⟩ :=
    leads_uploads t.uploads t kept (uid'.trans hasUid) rfl sent committed lost
  exact ⟨u, kept', leads.trans leads', quiescent, fun same => lost' (same photo)⟩

/-- A removal that breaks the condition: an array on its way still has the photo, or the
new array differs from one that is what the operations ask for. -/
theorem removePhoto_can_lose {s : System} {uid url : String} {kept : List String}
    (h : PhotosKept uid kept s) {write : Write} {photos : List String}
    (inFlight : write ∈ s.sent ++ s.committed) (carries : write.closure.photos = some photos)
    (disagrees : ¬ AgreesWith s.user photos (.removePhoto url)) :
    ∃ u kept', Leads (s.send (removePhoto url s.user)) (photosAfter kept (.removePhoto url)) u
      kept' ∧ Quiescent u ∧ ¬ SamePhotos (localPhotos u.user) kept' := by
  have asked := h.carried write inFlight photos carries
  by_cases there : url ∈ photos
  · refine loses_of_inFlight _ h.hasUid (mem_send_of_mem inFlight) carries ?_
    intro same
    simpa [photosAfter] using (same url).mp there
  · have absent : url ∉ kept := fun member => there ((asked url).mpr member)
    obtain ⟨local', hasPhotos, differs⟩ : ∃ local', s.user.photos = some local' ∧
        ¬ SamePhotos photos (local'.filter fun photo => photo ≠ url) := by
      simpa [AgreesWith, there] using disagrees
    obtain ⟨new, written, -, newCarries⟩ := removePhoto_write h.hasUid hasPhotos url
    rw [written]
    refine loses_of_inFlight _ h.hasUid (mem_send_self s new) newCarries ?_
    intro same
    exact differs ((asked.trans (removed_absent absent).symm).trans same.symm)

/-- An upload that breaks the condition: an array on its way has not the new photo, or the
new array differs from one that is what the operations ask for. -/
theorem upload_can_lose {s : System} {uid url : String} {kept : List String}
    (h : PhotosKept uid kept s) {write : Write} {photos : List String}
    (inFlight : write ∈ s.sent ++ s.committed) (carries : write.closure.photos = some photos)
    (index : Nat) (isProfilePhoto : Bool)
    (disagrees : ¬ AgreesWith s.user photos (.uploadReply index (some url))) :
    ∃ u kept', Leads (s.sendOrFail (uploadImageCompletion (some url) isProfilePhoto s.user))
      (photosAfter kept (.uploadReply index (some url))) u kept' ∧ Quiescent u ∧
        ¬ SamePhotos (localPhotos u.user) kept' := by
  have asked := h.carried write inFlight photos carries
  obtain ⟨new, written, -, newCarries⟩ :=
    uploadImageCompletion_write h.hasUid url isProfilePhoto
  rw [written]
  by_cases there : url ∈ photos
  · refine loses_of_inFlight _ h.hasUid (mem_send_self s new) newCarries ?_
    intro same
    have unchanged := added_present ((asked url).mp there)
    exact disagrees ((asked.trans unchanged.symm).trans same.symm)
  · refine loses_of_inFlight _ h.hasUid (mem_send_of_mem inFlight) carries ?_
    intro same
    exact there ((same url).mpr (by simp [photosAfter]))

/-- An event that breaks the condition leads to a state without outstanding replies that
has lost an update. -/
theorem overlap_can_lose {s t : System} {uid : String} {kept : List String} {e : Event}
    (h : PhotosKept uid kept s) (taken : step s e = some t) (broken : ¬ ComputedUpToDate s e) :
    ∃ u kept', Leads t (photosAfter kept e) u kept' ∧ Quiescent u ∧
      ¬ SamePhotos (localPhotos u.user) kept' := by
  unfold ComputedUpToDate at broken
  push Not at broken
  obtain ⟨write, inFlight, photos, carries, disagrees⟩ := broken
  have effect := step_effect taken
  cases effect with
  | removePhoto url => exact removePhoto_can_lose h inFlight carries disagrees
  | uploadReply index url upload rest answered =>
    cases url with
    | none => exact absurd trivial disagrees
    | some url =>
      have inert := photosKept_uploads h rest s.completions
      exact upload_can_lose inert inFlight carries index upload.isProfilePhoto disagrees
  | _ => exact absurd trivial disagrees

theorem photosKept_run {user : ATCUser} {uid : String} (hasUid : user.uid = some uid)
    {es : List Event} {t : System} (taken : run step (.initial user) es = some t)
    (met : AlongRun step (fun s e _ => Succeeds e ∧ ComputedUpToDate s e) (.initial user) es) :
    PhotosKept uid (keptPhotos user es) t := by
  refine run_history_of_alongRun (fun past s => PhotosKept uid (keptPhotos user past) s)
    ?_ (photosKept_initial hasUid) met taken
  intro past s e t h taken ok
  have after := photosKept_step h taken ok.1 ok.2
  simpa [keptPhotos] using after

/-- In every run without failed writes whose photos arrays are computed up to date, once
no reply is outstanding the document and the local user have exactly the photos that the
user had or uploaded and did not remove later. A run that computes an array that is not up
to date can be continued without failures to such a state in which the local user has not. -/
theorem no_photo_update_lost (user : ATCUser) (uid : String) (hasUid : user.uid = some uid)
    (es : List Event) (s : System) (taken : run step (.initial user) es = some s)
    (met : AlongRun step (fun s e _ => Succeeds e ∧ ComputedUpToDate s e) (.initial user) es) :
    (Quiescent s → SamePhotos (photosOf (s.documents uid)) (keptPhotos user es) ∧
      SamePhotos (localPhotos s.user) (keptPhotos user es)) ∧
    ∀ e t, step s e = some t → ¬ ComputedUpToDate s e →
      ∃ es' u, (∀ e' ∈ es', Succeeds e') ∧ run step t es' = some u ∧ Quiescent u ∧
        ¬ SamePhotos (localPhotos u.user) (keptPhotos user (es ++ e :: es')) := by
  have h := photosKept_run hasUid taken met
  constructor
  · intro quiescent
    refine ⟨h.server ?_, h.mirrored ?_⟩
    · simp [quiescent.sent]
    · simp [quiescent.sent, quiescent.committed]
  · intro e t taken broken
    obtain ⟨u, kept, ⟨es', succeed, taken', rfl⟩, quiescent, lost⟩ :=
      overlap_can_lose h taken broken
    refine ⟨es', u, succeed, taken', quiescent, ?_⟩
    simpa [keptPhotos] using lost

def userWithoutPhotos : ATCUser :=
  ATCUser.new "u1" none none none "" "" none none none false none none false none "" false []

/-- One photo is uploaded, written and acknowledged, and then removed. -/
def uploadedAndRemoved : List Event :=
  [.uploadPhoto true false, .uploadReply 0 (some "a.jpg"), .commit 0, .writeReply 0 none,
    .removePhoto "a.jpg", .commit 0, .writeReply 0 none]

theorem no_photo_update_lost_sequential :
    ∃ t, run step (.initial userWithoutPhotos) uploadedAndRemoved = some t ∧
      SamePhotos (photosOf (t.documents "u1")) [] ∧ SamePhotos (localPhotos t.user) [] := by
  refine ⟨_, rfl, (no_photo_update_lost userWithoutPhotos "u1" rfl uploadedAndRemoved _ rfl
    ?_).1 ⟨rfl, rfl, rfl⟩⟩
  have nothingOnItsWay : ∀ (s : System) (e : Event), s.sent = [] → s.committed = [] →
      ComputedUpToDate s e := by
    intro s e sent committed write there
    rw [sent, committed] at there
    cases there
  intro s₁ h₁
  obtain rfl := Option.some.inj h₁
  refine ⟨⟨by simp [Succeeds], nothingOnItsWay _ _ rfl rfl⟩, fun s₂ h₂ => ?_⟩
  obtain rfl := Option.some.inj h₂
  refine ⟨⟨by simp [Succeeds], nothingOnItsWay _ _ rfl rfl⟩, fun s₃ h₃ => ?_⟩
  obtain rfl := Option.some.inj h₃
  refine ⟨⟨by simp [Succeeds], fun _ _ _ _ => trivial⟩, fun s₄ h₄ => ?_⟩
  obtain rfl := Option.some.inj h₄
  refine ⟨⟨by simp [Succeeds], fun _ _ _ _ => trivial⟩, fun s₅ h₅ => ?_⟩
  obtain rfl := Option.some.inj h₅
  refine ⟨⟨by simp [Succeeds], nothingOnItsWay _ _ rfl rfl⟩, fun s₆ h₆ => ?_⟩
  obtain rfl := Option.some.inj h₆
  refine ⟨⟨by simp [Succeeds], fun _ _ _ _ => trivial⟩, fun s₇ h₇ => ?_⟩
  exact ⟨⟨by simp [Succeeds], fun _ _ _ _ => trivial⟩, trivial⟩

/-- Two images are uploaded before the write of the first array: the second array is
computed without the first URL, and overwrites it. -/
theorem photo_lost_by_second_upload :
    ¬ ∀ (user : ATCUser) (uid : String) (es : List Event) (t : System), user.uid = some uid →
      run step (.initial user) es = some t → (∀ e ∈ es, Succeeds e) → Quiescent t →
      SamePhotos (photosOf (t.documents uid)) (keptPhotos user es) ∧
        SamePhotos (localPhotos t.user) (keptPhotos user es) := by
  intro claim
  have lost := claim userWithoutPhotos "u1"
    [.uploadPhoto true false, .uploadPhoto true false, .uploadReply 0 (some "a.jpg"),
      .uploadReply 0 (some "b.jpg"), .commit 0, .commit 0, .writeReply 0 none, .writeReply 0 none]
    _ rfl rfl (by simp [Succeeds]) ⟨rfl, rfl, rfl⟩
  have there := (lost.2 "a.jpg").mpr (by decide)
  exact absurd there (by decide)

end FinanciaApp.Guarantees
