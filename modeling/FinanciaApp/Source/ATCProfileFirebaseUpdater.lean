import FinanciaApp.Source.ATCPersistentStore

/-!
# The profile updater

`Core/UIKit/Profile/Controllers/ATCProfileFirebaseUpdater.swift:13-97,115-134`. Each
operation computes the data of a Firestore write when it is called (`uploadPhoto` when
the image has been uploaded), and a closure that mirrors the data in the local user when
the write is answered. A `Write` is the data with what its closure captured. The four
closures are functions of the error they are called with; the notification that `update`
posts is not modelled. `updateLocation` is with the host, its only caller. Download URLs
are ASCII, so `!=` on them is that of the strings.
-/

set_option autoImplicit false

namespace FinanciaApp.Source

/-- The fields of a Firestore document. -/
abbrev Document := String → Option JSONValue

/-- `setData(_:merge:)` with `merge: true`, for data whose values are no dictionaries. -/
def setData (data : JSONDictionary) (document : Document) : Document :=
  data.foldl (fun merged field => Function.update merged field.1 (some field.2)) document

namespace ATCProfileFirebaseUpdater

/-- The call of a completion: `completion()` of `removePhoto`, or with a success flag. -/
inductive CompletionCall where
  | done
  | success (value : Bool)
  deriving DecidableEq, Repr

/-- What the closure of a write captured. -/
inductive Closure where
  | removePhoto (remainingPhotos : List String)
  | uploadPhoto (photos : List String) (url : String) (isProfilePhoto : Bool)
  | updateProfilePicture (url : String)
  | update (email firstName lastName username : String)
  deriving DecidableEq, Repr

structure Write where
  document : String
  data : JSONDictionary
  closure : Closure

def stringArray (strings : List String) : JSONValue := .array (strings.map .string)

/-- `removePhoto`; without a uid or without photos nothing is written or called. -/
def removePhoto (url : String) (user : ATCUser) : Option Write :=
  match user.uid, user.photos with
  | some uid, some photos =>
    let remainingPhotos := photos.filter fun photo => photo ≠ url
    some ⟨uid, [("photos", stringArray remainingPhotos)], .removePhoto remainingPhotos⟩
  | _, _ => none

/-- The closure that `uploadPhoto` passes to `uploadImage`; `none` is `completion(false)`. -/
def uploadImageCompletion (url : Option String) (isProfilePhoto : Bool) (user : ATCUser) :
    Option Write :=
  match url, user.uid with
  | some url, some uid =>
    let appended := user.photos.getD [] ++ [url]
    let photos := if appended.length = 0 && isProfilePhoto then [url] else appended
    let data :=
      if isProfilePhoto then [("photos", stringArray photos), ("profilePictureURL", .string url)]
      else [("photos", stringArray photos)]
    some ⟨uid, data, .uploadPhoto photos url isProfilePhoto⟩
  | _, _ => none

/-- `updateProfilePicture`; `none` is `completion(false)`. -/
def updateProfilePicture (url : Option String) (user : ATCUser) : Option Write :=
  match url, user.uid with
  | some url, some uid =>
    some ⟨uid, [("profilePictureURL", .string url)], .updateProfilePicture url⟩
  | _, _ => none

/-- `update`; without a uid nothing is written or called. -/
def update (email firstName lastName username : String) (user : ATCUser) : Option Write :=
  match user.uid with
  | some uid =>
    some ⟨uid, [("lastName", .string lastName), ("firstName", .string firstName),
      ("username", .string username), ("email", .string email)],
      .update email firstName lastName username⟩
  | none => none

section Closures

variable (error : Option String) (user : ATCUser)

/-- The error is not looked at. -/
def removePhotoCompletion (remainingPhotos : List String) : ATCUser × CompletionCall :=
  ({ user with photos := some remainingPhotos }, .done)

/-- The error is not looked at. -/
def uploadPhotoCompletion (photos : List String) (url : String) (isProfilePhoto : Bool) :
    ATCUser × CompletionCall :=
  let mirrored := { user with photos := some photos }
  (if isProfilePhoto then mirrored.setProfilePictureURL (some url) else mirrored, .success true)

/-- The error is not looked at. -/
def updateProfilePictureCompletion (url : String) : ATCUser × CompletionCall :=
  (user.setProfilePictureURL (some url), .success true)

/-- The fields are mirrored in any case; the flag tells whether there was an error. -/
def updateCompletion (email firstName lastName username : String) : ATCUser × CompletionCall :=
  ({ user with
      lastName := some lastName
      firstName := some firstName
      username := some username
      email := some email },
    .success error.isNone)

/-- The closure of a write, called with the error of the reply. -/
def completion : Closure → ATCUser × CompletionCall
  | .removePhoto remainingPhotos => removePhotoCompletion user remainingPhotos
  | .uploadPhoto photos url isProfilePhoto =>
    uploadPhotoCompletion user photos url isProfilePhoto
  | .updateProfilePicture url => updateProfilePictureCompletion user url
  | .update email firstName lastName username =>
    updateCompletion error user email firstName lastName username

end Closures

/-- The photos array that a write carries, if it carries one. -/
def Closure.photos : Closure → Option (List String)
  | .removePhoto remainingPhotos => some remainingPhotos
  | .uploadPhoto photos _ _ => some photos
  | _ => none

theorem completion_photos (error : Option String) (user : ATCUser) (closure : Closure) :
    (completion error user closure).1.photos = closure.photos.or user.photos := by
  cases closure with
  | uploadPhoto photos url isProfilePhoto => cases isProfilePhoto <;> rfl
  | _ => rfl

theorem completion_uid (error : Option String) (user : ATCUser) (closure : Closure) :
    (completion error user closure).1.uid = user.uid := by
  cases closure with
  | uploadPhoto photos url isProfilePhoto => cases isProfilePhoto <;> rfl
  | _ => rfl

theorem removePhoto_write {user : ATCUser} {uid : String} {photos : List String}
    (hasUid : user.uid = some uid) (hasPhotos : user.photos = some photos) (url : String) :
    ∃ write, removePhoto url user = some write ∧ write.document = uid ∧
      write.closure.photos = some (photos.filter fun photo => photo ≠ url) := by
  simp only [removePhoto, hasUid, hasPhotos]
  exact ⟨_, rfl, rfl, rfl⟩

theorem uploadImageCompletion_write {user : ATCUser} {uid : String} (hasUid : user.uid = some uid)
    (url : String) (isProfilePhoto : Bool) :
    ∃ write, uploadImageCompletion (some url) isProfilePhoto user = some write ∧
      write.document = uid ∧ write.closure.photos = some (user.photos.getD [] ++ [url]) := by
  simp only [uploadImageCompletion, hasUid]
  exact ⟨_, rfl, rfl, by simp [Closure.photos]⟩

/-- The photos of a document. -/
def photosOf (document : Document) : List String :=
  match document "photos" with
  | some (.array elements) => elements.filterMap JSONValue.asString
  | _ => []

theorem photosOf_stringArray {document : Document} {photos : List String}
    (h : document "photos" = some (stringArray photos)) : photosOf document = photos := by
  simp only [photosOf, h, stringArray, List.filterMap_map]
  exact List.filterMap_some

@[simp] theorem photosOf_update_photos (document : Document) (photos : List String) :
    photosOf (Function.update document "photos" (some (stringArray photos))) = photos :=
  photosOf_stringArray (Function.update_self _ _ _)

theorem photosOf_update_of_ne (document : Document) {key : String} (other : key ≠ "photos")
    (value : Option JSONValue) :
    photosOf (Function.update document key value) = photosOf document := by
  rw [photosOf, Function.update_of_ne other.symm, photosOf]

/-- The write changes the photos of its document exactly as its closure mirrors them. -/
def Write.CarriesPhotos (write : Write) : Prop :=
  ∀ document, photosOf (setData write.data document) =
    write.closure.photos.getD (photosOf document)

theorem carriesPhotos_removePhoto {url : String} {user : ATCUser} {write : Write}
    (h : removePhoto url user = some write) : write.CarriesPhotos := by
  unfold removePhoto at h
  split at h
  · cases h
    exact fun document => photosOf_update_photos document _
  · cases h

theorem carriesPhotos_uploadImage {url : Option String} {isProfilePhoto : Bool} {user : ATCUser}
    {write : Write} (h : uploadImageCompletion url isProfilePhoto user = some write) :
    write.CarriesPhotos := by
  unfold uploadImageCompletion at h
  split at h
  · cases h
    intro document
    have other : "profilePictureURL" ≠ "photos" := by decide
    cases isProfilePhoto with
    | true => exact (photosOf_update_of_ne _ other _).trans (photosOf_update_photos document _)
    | false => exact photosOf_update_photos document _
  · cases h

theorem carriesPhotos_updateProfilePicture {url : Option String} {user : ATCUser} {write : Write}
    (h : updateProfilePicture url user = some write) : write.CarriesPhotos := by
  unfold updateProfilePicture at h
  split at h
  · cases h
    have other : "profilePictureURL" ≠ "photos" := by decide
    exact fun document => photosOf_update_of_ne document other _
  · cases h

theorem carriesPhotos_update {email firstName lastName username : String} {user : ATCUser}
    {write : Write} (h : update email firstName lastName username user = some write) :
    write.CarriesPhotos := by
  unfold update at h
  split at h
  · cases h
    intro document
    simp only [setData, List.foldl_cons, List.foldl_nil]
    rw [photosOf_update_of_ne _ (by decide), photosOf_update_of_ne _ (by decide),
      photosOf_update_of_ne _ (by decide), photosOf_update_of_ne _ (by decide)]
    rfl
  · cases h

end ATCProfileFirebaseUpdater

end FinanciaApp.Source
