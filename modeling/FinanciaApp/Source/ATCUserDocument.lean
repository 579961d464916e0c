import FinanciaApp.Library.FailableMaps
import FinanciaApp.Source.ATCPersistentStore
import FinanciaApp.Source.Expenses

/-!
# Users on the server

`representation` and `decodeFromDict` of `Core/Models/ATCUser.swift`, those of
`Core/Location/ATCLocation.swift`, `saveUserToServerIfNeeded` of
`Core/Helpers/ATCFirebaseLoginManager.swift` and the decoding in
`Core/UserManagement/Firebase/ATCSocialFirebaseUserManager.swift`. A `[String: Any]` that
is written is the list of its members. `as? Bool` and `as? Double` are the casts of an
`NSNumber`. Settings are JSON: what else a document has under that key is left out.
-/

set_option autoImplicit false

namespace FinanciaApp.Source

/-- What `setData(_:merge:)` makes of a document that did not exist. -/
def DocumentData.created (data : List (String × FirestoreValue)) : DocumentData :=
  fun field => data.lookup field

namespace FirestoreValue

/-- `value as? Bool`. -/
def asBool : FirestoreValue → Option Bool
  | .boolean value => some value
  | .number value => if value = 0 then some false else if value = 1 then some true else none
  | _ => none

/-- `value as? Double`. -/
def asDouble : FirestoreValue → Option Rat
  | .number value => some value
  | .boolean value => some (if value then 1 else 0)
  | _ => none

/-- `value as? [String]`. -/
def asStrings : FirestoreValue → Option (List String)
  | .array elements => elements.mapM asString
  | _ => none

/-- `(value as? Timestamp)?.dateValue()`. -/
def asDate : FirestoreValue → Option Rat
  | .timestamp seconds => some seconds
  | _ => none

/-- `value as? [String: Any]`. -/
def asDictionary : FirestoreValue → Option (List (String × FirestoreValue))
  | .map members => some members
  | _ => none

mutual

def asJSON : FirestoreValue → Option JSONValue
  | .null => some .null
  | .boolean value => some (.bool value)
  | .number value => some (.number value)
  | .string value => some (.string value)
  | .array elements => some (.array (elementsAsJSON elements))
  | .map members => some (.object (membersAsJSON members))
  | .timestamp _ | .bytes _ | .reference _ | .geoPoint _ _ => none

def elementsAsJSON : List FirestoreValue → List JSONValue
  | [] => []
  | element :: elements => (asJSON element).toList ++ elementsAsJSON elements

def membersAsJSON : List (String × FirestoreValue) → JSONDictionary
  | [] => []
  | member :: members => (memberAsJSON member).toList ++ membersAsJSON members

def memberAsJSON : String × FirestoreValue → Option (String × JSONValue)
  | (key, value) => (asJSON value).map fun json => (key, json)

end

theorem asStrings_array (strings : List String) :
    asStrings (.array (strings.map .string)) = some strings := by
  have decoded (string : String) : asString (.string string) = some string := rfl
  exact Library.mapM_map_inverse decoded strings

end FirestoreValue

namespace ATCLocation

def representation (location : ATCLocation) : List (String × FirestoreValue) :=
  [("longitude", .number location.longitude), ("latitude", .number location.latitude)]

/-- `init(representation:)`. -/
def ofRepresentation (representation : List (String × FirestoreValue)) : ATCLocation where
  longitude := ((representation.lookup "longitude").bind FirestoreValue.asDouble).getD 0
  latitude := ((representation.lookup "latitude").bind FirestoreValue.asDouble).getD 0

@[simp] theorem ofRepresentation_representation (location : ATCLocation) :
    ofRepresentation location.representation = location := by
  simp [ofRepresentation, representation, FirestoreValue.asDouble, List.lookup_cons]

end ATCLocation

namespace ATCUser

/-- `photos ?? ""`. -/
def photosOrEmpty : Option (List String) → FirestoreValue
  | some photos => .array (photos.map .string)
  | none => .string ""

def representation (user : ATCUser) : List (String × FirestoreValue) :=
  [("userID", .string (user.uid.getD "default")),
    ("id", .string (user.uid.getD "default")),
    ("profilePictureURL", .string (user.profilePictureURL.getD defaultAvatarURL)),
    ("username", .string (user.username.getD "")),
    ("email", .string (user.email.getD "")),
    ("firstName", .string (user.firstName.getD "")),
    ("lastName", .string (user.lastName.getD "")),
    ("pushToken", .string (user.pushToken.getD "")),
    ("pushKitToken", .string (user.pushKitToken.getD "")),
    ("photos", photosOrEmpty user.photos),
    ("role", .string (user.role.getD "")),
    ("isActive", .boolean user.isActive)] ++
  (user.location.map fun location => ("location", .map location.representation)).toList

/-- The fields that `super.init()` leaves. -/
def blank : ATCUser where
  uid := none
  username := none
  email := none
  firstName := none
  lastName := none
  phoneNumber := none
  profilePictureURL := none
  pushToken := none
  pushKitToken := none
  isOnline := false
  lastOnlineDateTime := none
  photos := none
  location := none
  hasDefaultAvatar := true
  isAdmin := false
  vendorID := none
  role := none
  isActive := false
  settings := []

section Decoding

variable (jsonDict : DocumentData)

/-- `jsonDict[key] as? String`. -/
def stringAt (key : String) : Option String := (jsonDict key).bind FirestoreValue.asString

/-- `(jsonDict[key] as? Bool) ?? false`. -/
def boolAt (key : String) : Bool := ((jsonDict key).bind FirestoreValue.asBool).getD false

def decodeFromDict (user : ATCUser) : ATCUser :=
  let avatarURL := stringAt jsonDict "profilePictureURL"
  { user with
    firstName := stringAt jsonDict "firstName"
    lastName := stringAt jsonDict "lastName"
    profilePictureURL :=
      if (avatarURL.map String.length).getD 0 > 0 then avatarURL else some defaultAvatarURL
    hasDefaultAvatar :=
      avatarURL = none || avatarURL = some "" || avatarURL = some defaultAvatarURL
    username := stringAt jsonDict "username"
    email := stringAt jsonDict "email"
    phoneNumber := stringAt jsonDict "phone"
    uid := stringAt jsonDict "id"
    pushToken := stringAt jsonDict "pushToken"
    pushKitToken := stringAt jsonDict "pushKitToken"
    photos := (jsonDict "photos").bind FirestoreValue.asStrings
    isAdmin := boolAt jsonDict "isAdmin"
    isOnline := boolAt jsonDict "isOnline"
    lastOnlineDateTime := (jsonDict "lastOnlineTimestamp").bind FirestoreValue.asDate
    vendorID := stringAt jsonDict "vendorID"
    role := stringAt jsonDict "role"
    isActive := boolAt jsonDict "isActive"
    location :=
      ((jsonDict "location").bind FirestoreValue.asDictionary).map ATCLocation.ofRepresentation
    settings :=
      (((jsonDict "settings").bind FirestoreValue.asDictionary).map
        FirestoreValue.membersAsJSON).getD user.settings }

/-- `init(representation:)`. -/
def ofRepresentation : ATCUser := decodeFromDict jsonDict blank

end Decoding

end ATCUser

/-- The document and the data of the write; without a uid nothing is written. -/
def ATCFirebaseLoginManager.saveUserToServerIfNeeded (user : ATCUser) (appIdentifier : String) :
    Option (String × List (String × FirestoreValue)) :=
  user.uid.map fun uid => (uid, user.representation ++ [("appIdentifier", .string appIdentifier)])

end FinanciaApp.Source
