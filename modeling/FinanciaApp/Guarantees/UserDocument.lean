import FinanciaApp.Source.ATCUserDocument

/-!
# The user document

`representation` and `decodeFromDict` are two lists of keys. The decoder reads eighteen
keys; six of them are never written: the phone number, `isAdmin`, `isOnline`, the last
online time, the vendor and the settings. What is written comes back (`lookup_written`,
`ofRepresentation_written`), but for a picture URL that is missing or empty.
-/

set_option autoImplicit false

namespace FinanciaApp.Guarantees

open Library Source Source.ATCUser

/-- A text up to `nil` for the empty string. -/
def text (string : Option String) : String := string.getD ""

/-- The decoded user agrees with the written one on every field that the decoder reads. -/
structure AgreesOnServer (user decoded : ATCUser) : Prop where
  firstName : text decoded.firstName = text user.firstName
  lastName : text decoded.lastName = text user.lastName
  profilePictureURL : text decoded.profilePictureURL = text user.profilePictureURL
  username : text decoded.username = text user.username
  email : text decoded.email = text user.email
  phoneNumber : text decoded.phoneNumber = text user.phoneNumber
  uid : text decoded.uid = text user.uid
  pushToken : text decoded.pushToken = text user.pushToken
  pushKitToken : text decoded.pushKitToken = text user.pushKitToken
  photos : decoded.photos = user.photos
  isAdmin : decoded.isAdmin = user.isAdmin
  isOnline : decoded.isOnline = user.isOnline
  lastOnlineDateTime : decoded.lastOnlineDateTime = user.lastOnlineDateTime
  vendorID : text decoded.vendorID = text user.vendorID
  role : text decoded.role = text user.role
  isActive : decoded.isActive = user.isActive
  location : decoded.location = user.location
  settings : decoded.settings = user.settings

/-- Nothing is set that the representation leaves out, and the picture URL is not empty. -/
structure RepresentedWhole (user : ATCUser) : Prop where
  phoneNumber : text user.phoneNumber = ""
  isAdmin : user.isAdmin = false
  isOnline : user.isOnline = false
  lastOnlineDateTime : user.lastOnlineDateTime = none
  vendorID : text user.vendorID = ""
  settings : user.settings = []
  profilePictureURL : text user.profilePictureURL ≠ ""

section Decoded

variable (user : ATCUser) (appIdentifier : String)

/-- The data that is written for a user. -/
def written : List (String × FirestoreValue) :=
  user.representation ++ [("appIdentifier", .string appIdentifier)]

theorem lookup_written (key : String) :
    (written user appIdentifier).lookup key =
      match key with
      | "userID" => some (.string (user.uid.getD "default"))
      | "id" => some (.string (user.uid.getD "default"))
      | "profilePictureURL" => some (.string (user.profilePictureURL.getD defaultAvatarURL))
      | "username" => some (.string (text user.username))
      | "email" => some (.string (text user.email))
      | "firstName" => some (.string (text user.firstName))
      | "lastName" => some (.string (text user.lastName))
      | "pushToken" => some (.string (text user.pushToken))
      | "pushKitToken" => some (.string (text user.pushKitToken))
      | "photos" => some (photosOrEmpty user.photos)
      | "role" => some (.string (text user.role))
      | "isActive" => some (.boolean user.isActive)
      | "location" => user.location.map fun location => .map location.representation
      | "appIdentifier" => some (.string appIdentifier)
      | _ => none := by
  split
  all_goals simp only [written, representation, List.lookup_append, lookup_optionalField,
    lookup_field, List.lookup_nil]
  all_goals simp_all [text]

/-- What a fetch makes of the document. -/
theorem ofRepresentation_written {uid : String} (hasUid : user.uid = some uid) :
    ofRepresentation (.created (written user appIdentifier)) =
      { uid := some uid
        username := some (text user.username)
        email := some (text user.email)
        firstName := some (text user.firstName)
        lastName := some (text user.lastName)
        phoneNumber := none
        profilePictureURL := some (
          if user.profilePictureURL.getD defaultAvatarURL = "" then defaultAvatarURL
          else user.profilePictureURL.getD defaultAvatarURL)
        pushToken := some (text user.pushToken)
        pushKitToken := some (text user.pushKitToken)
        isOnline := false
        lastOnlineDateTime := none
        photos := user.photos
        location := user.location
        hasDefaultAvatar :=
          (ofRepresentation (.created (written user appIdentifier))).hasDefaultAvatar
        isAdmin := false
        vendorID := none
        role := some (text user.role)
        isActive := user.isActive
        settings := [] } := by
  have read (key : String) : DocumentData.created (written user appIdentifier) key =
      (written user appIdentifier).lookup key := rfl
  have photos : (photosOrEmpty user.photos).asStrings = user.photos := by
    cases user.photos with
    | none => rfl
    | some photos => exact FirestoreValue.asStrings_array photos
  have location : ((user.location.map fun location => FirestoreValue.map
      location.representation).bind FirestoreValue.asDictionary).map
        ATCLocation.ofRepresentation = user.location := by
    cases user.location with
    | none => rfl
    | some location => simp [FirestoreValue.asDictionary]
  simp only [ofRepresentation, decodeFromDict, stringAt, boolAt, read, lookup_written, hasUid]
  simp [FirestoreValue.asString, FirestoreValue.asBool, photos, location, blank]
  exact pictureURL_or_default (user.profilePictureURL.getD defaultAvatarURL)

theorem agreesOnServer_iff {uid : String} (hasUid : user.uid = some uid) :
    AgreesOnServer user (ofRepresentation (.created (written user appIdentifier))) ↔
      RepresentedWhole user := by
  have picture : (if user.profilePictureURL.getD defaultAvatarURL = "" then defaultAvatarURL
      else user.profilePictureURL.getD defaultAvatarURL) = text user.profilePictureURL ↔
        text user.profilePictureURL ≠ "" := by
    cases user.profilePictureURL with
    | none => simp [text, defaultAvatarURL]
    | some url =>
      by_cases empty : url = ""
      · simp [text, empty, defaultAvatarURL]
      · simp [text, empty]
  rw [ofRepresentation_written user appIdentifier hasUid]
  constructor
  · intro agrees
    exact ⟨agrees.phoneNumber.symm, agrees.isAdmin.symm, agrees.isOnline.symm,
      agrees.lastOnlineDateTime.symm, agrees.vendorID.symm, agrees.settings.symm,
      picture.mp agrees.profilePictureURL⟩
  · intro whole
    constructor
    case phoneNumber => exact whole.phoneNumber.symm
    case isAdmin => exact whole.isAdmin.symm
    case isOnline => exact whole.isOnline.symm
    case lastOnlineDateTime => exact whole.lastOnlineDateTime.symm
    case vendorID => exact whole.vendorID.symm
    case settings => exact whole.settings.symm
    case profilePictureURL => exact picture.mpr whole.profilePictureURL
    case uid => rw [hasUid]
    all_goals rfl

end Decoded

/-- For every user with a uid and every app identifier: what is written to a new document is
fetched as a user who agrees on every field exactly when nothing is set that the
representation leaves out and the picture URL is not empty. -/
theorem fetched_user_agrees_iff (user : ATCUser) (uid : String) (hasUid : user.uid = some uid)
    (appIdentifier : String) :
    ∃ data, ATCFirebaseLoginManager.saveUserToServerIfNeeded user appIdentifier =
        some (uid, data) ∧
      (AgreesOnServer user (ofRepresentation (.created data)) ↔ RepresentedWhole user) := by
  refine ⟨written user appIdentifier, ?_, agreesOnServer_iff user appIdentifier hasUid⟩
  rw [ATCFirebaseLoginManager.saveUserToServerIfNeeded, hasUid]
  rfl

/-- A user who signed up with an e-mail. -/
def emailUser : ATCUser :=
  new "u1" (some "Ana") (some "") (some "") "ana@example.com" "" none none (some []) false none
    none false none "user" false []

theorem fetched_user_agrees_iff_email :
    ∃ data, ATCFirebaseLoginManager.saveUserToServerIfNeeded emailUser "finance" =
        some ("u1", data) ∧
      (AgreesOnServer emailUser (ofRepresentation (.created data)) ↔
        RepresentedWhole emailUser) :=
  fetched_user_agrees_iff emailUser "u1" rfl "finance"

/-- A user who signed up with a phone number. -/
def phoneUser : ATCUser :=
  new "u2" (some "Ana") (some "Luna") (some "") "" "+15551234" none none (some []) false none
    none false none "user" false []

/-- The phone number never reaches the server. -/
theorem phone_number_not_written :
    ¬ ∀ (user : ATCUser) (uid appIdentifier : String) (data : List (String × FirestoreValue)),
      user.uid = some uid →
      ATCFirebaseLoginManager.saveUserToServerIfNeeded user appIdentifier = some (uid, data) →
      AgreesOnServer user (ofRepresentation (.created data)) := by
  intro claim
  have agrees := claim phoneUser "u2" "finance" _ rfl rfl
  have lost : "" = "+15551234" := agrees.phoneNumber
  exact absurd lost (by decide)

end FinanciaApp.Guarantees
