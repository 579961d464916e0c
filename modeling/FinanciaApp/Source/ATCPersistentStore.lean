import Mathlib.Logic.Function.Basic
import FinanciaApp.Library.KeyedFields
import FinanciaApp.Source.ATCAPIManager

/-!
# Users and the persistent store

`Core/Models/ATCUser.swift`, `Core/Location/ATCLocation.swift` and
`Core/Helpers/ATCPersistentStore.swift`. A keyed archive is the list of the values
encoded in it. `encode(_:forKey:)` of a `Bool` or a `Double` stores a primitive, which
`decodeObject(forKey:)` does not return; of an optional object it stores the object, and
nothing that decodes for `nil`. Dates and coordinates are rational numbers.
-/

set_option autoImplicit false

namespace FinanciaApp.Source

open Library

inductive CodedValue where
  | bool (value : Bool)
  | double (value : Rat)
  | string (value : String)
  | date (value : Rat)
  | strings (values : List String)
  | dictionary (members : JSONDictionary)
  | location (archive : List (String × CodedValue))

/-- The contents of a keyed archiver. -/
abbrev NSCoder := List (String × CodedValue)

namespace NSCoder

def encodeObject {α : Type} (value : Option α) (code : α → CodedValue) (key : String) : NSCoder :=
  (value.map fun object => (key, code object)).toList

theorem lookup_encodeObject {α : Type} (value : Option α) (code : α → CodedValue)
    (encoded key : String) :
    (encodeObject value code encoded).lookup key =
      if key = encoded then value.map code else none :=
  lookup_optionalField value code encoded key

def decodeObject (coder : NSCoder) (key : String) : Option CodedValue :=
  match coder.lookup key with
  | some (.bool _) => none
  | some (.double _) => none
  | found => found

def decodeBool (coder : NSCoder) (key : String) : Bool :=
  match coder.lookup key with
  | some (.bool value) => value
  | _ => false

def decodeString (coder : NSCoder) (key : String) : Option String :=
  match coder.decodeObject key with
  | some (.string value) => some value
  | _ => none

/-- What is encoded as an object is decoded as it was encoded. -/
theorem decodeObject_of_lookup {α : Type} {coder : NSCoder} {key : String} {value : Option α}
    {code : α → CodedValue} (found : coder.lookup key = value.map code)
    (objects : ∀ object, decodeObject [(key, code object)] key = some (code object)) :
    coder.decodeObject key = value.map code := by
  cases value with
  | none => rw [decodeObject, found, Option.map_none]
  | some object =>
    have alone := objects object
    rw [decodeObject, List.lookup_cons_self] at alone
    rw [decodeObject, found]
    exact alone

theorem decodeString_of_lookup {coder : NSCoder} {key : String} {value : Option String}
    (found : coder.lookup key = value.map .string) : coder.decodeString key = value := by
  rw [decodeString, decodeObject, found]
  cases value <;> rfl

/-- `decodeObject(forKey:) as? Double`. -/
def decodeDouble (coder : NSCoder) (key : String) : Option Rat :=
  match coder.decodeObject key with
  | some (.double value) => some value
  | _ => none

/-- The same for an archiver whose `decodeObject` also returns the numbers that were encoded
as primitives. -/
def decodeDoubleWhere (numbersAreObjects : Bool) (coder : NSCoder) (key : String) : Option Rat :=
  if numbersAreObjects then
    match coder.lookup key with
    | some (.double value) => some value
    | _ => none
  else
    coder.decodeDouble key

end NSCoder

structure ATCLocation where
  longitude : Rat
  latitude : Rat
  deriving DecidableEq, Repr

namespace ATCLocation

def encode (location : ATCLocation) : NSCoder :=
  [("longitude", .double location.longitude), ("latitude", .double location.latitude)]

/-- `init(coder:)`. -/
def ofCoder (aDecoder : NSCoder) : ATCLocation where
  longitude := (aDecoder.decodeDouble "longitude").getD 0
  latitude := (aDecoder.decodeDouble "latitude").getD 0

/-- `init(coder:)` over either archiver. -/
def ofCoderWhere (numbersAreObjects : Bool) (aDecoder : NSCoder) : ATCLocation where
  longitude := (aDecoder.decodeDoubleWhere numbersAreObjects "longitude").getD 0
  latitude := (aDecoder.decodeDoubleWhere numbersAreObjects "latitude").getD 0

end ATCLocation

structure ATCUser where
  uid : Option String
  username : Option String
  email : Option String
  firstName : Option String
  lastName : Option String
  phoneNumber : Option String
  profilePictureURL : Option String
  pushToken : Option String
  pushKitToken : Option String
  isOnline : Bool
  lastOnlineDateTime : Option Rat
  photos : Option (List String)
  location : Option ATCLocation
  hasDefaultAvatar : Bool
  isAdmin : Bool
  vendorID : Option String
  role : Option String
  isActive : Bool
  settings : JSONDictionary

namespace ATCUser

def defaultAvatarURL : String :=
  "https://www.iosapptemplates.com/wp-content/uploads/2019/06/empty-avatar.jpg"

theorem pictureURL_or_default (avatarURL : String) :
    (if ((some avatarURL).map String.length).getD 0 > 0 then some avatarURL
      else some defaultAvatarURL) =
      some (if avatarURL = "" then defaultAvatarURL else avatarURL) := by
  have positive : 0 < avatarURL.length ↔ avatarURL ≠ "" := by
    rw [Nat.pos_iff_ne_zero, ne_eq, String.length_eq_zero_iff]
  by_cases empty : avatarURL = ""
  · simp [empty]
  · simp [positive, empty]

/-- `init(uid:firstName:lastName:avatarURL:…)`. -/
def new (uid : String) (firstName lastName avatarURL : Option String)
    (email phoneNumber : String) (pushToken pushKitToken : Option String)
    (photos : Option (List String)) (isOnline : Bool) (lastOnlineDateTime : Option Rat)
    (location : Option ATCLocation) (isAdmin : Bool) (vendorID : Option String) (role : String)
    (isActive : Bool) (settings : JSONDictionary) : ATCUser where
  uid := some uid
  username := none
  email := some email
  firstName := firstName
  lastName := lastName
  phoneNumber := some phoneNumber
  profilePictureURL :=
    if (avatarURL.map String.length).getD 0 > 0 then avatarURL else some defaultAvatarURL
  pushToken := pushToken
  pushKitToken := pushKitToken
  isOnline := isOnline
  lastOnlineDateTime := lastOnlineDateTime
  photos := photos
  location := location
  hasDefaultAvatar :=
    avatarURL = none || avatarURL = some "" || avatarURL = some defaultAvatarURL
  isAdmin := isAdmin
  vendorID := vendorID
  role := some role
  isActive := isActive
  settings := settings

/-- An assignment to `profilePictureURL`, with its `didSet`. -/
def setProfilePictureURL (user : ATCUser) (profilePictureURL : Option String) : ATCUser :=
  { user with
    profilePictureURL := profilePictureURL
    hasDefaultAvatar :=
      profilePictureURL = none || profilePictureURL = some "" ||
        profilePictureURL = some defaultAvatarURL }

def encode (user : ATCUser) : NSCoder :=
  NSCoder.encodeObject user.uid .string "uid" ++
  NSCoder.encodeObject user.username .string "username" ++
  NSCoder.encodeObject user.email .string "email" ++
  NSCoder.encodeObject user.phoneNumber .string "phone" ++
  NSCoder.encodeObject user.firstName .string "firstName" ++
  NSCoder.encodeObject user.lastName .string "lastName" ++
  NSCoder.encodeObject user.profilePictureURL .string "profilePictureURL" ++
  NSCoder.encodeObject user.pushToken .string "pushToken" ++
  NSCoder.encodeObject user.pushKitToken .string "pushKitToken" ++
  [("isOnline", .bool user.isOnline)] ++
  NSCoder.encodeObject user.lastOnlineDateTime .date "lastOnlineTimestamp" ++
  NSCoder.encodeObject user.photos .strings "photos" ++
  NSCoder.encodeObject user.location (fun location => .location location.encode) "location" ++
  [("isAdmin", .bool user.isAdmin)] ++
  NSCoder.encodeObject user.role .string "role" ++
  [("isActive", .bool user.isActive)] ++
  NSCoder.encodeObject user.vendorID .string "vendorID"

/-- `init(coder:)`, which never fails. -/
def ofCoder (aDecoder : NSCoder) : ATCUser :=
  new ((aDecoder.decodeString "uid").getD "unknown")
    (some ((aDecoder.decodeString "firstName").getD ""))
    (some ((aDecoder.decodeString "lastName").getD ""))
    (some ((aDecoder.decodeString "profilePictureURL").getD defaultAvatarURL))
    ((aDecoder.decodeString "email").getD "")
    ((aDecoder.decodeString "phone").getD "")
    (some ((aDecoder.decodeString "pushToken").getD ""))
    (some ((aDecoder.decodeString "pushKitToken").getD ""))
    (some (match aDecoder.decodeObject "photos" with
      | some (.strings photos) => photos
      | _ => []))
    (aDecoder.decodeBool "isOnline")
    (match aDecoder.decodeObject "lastOnlineTimestamp" with
      | some (.date lastOnline) => some lastOnline
      | _ => none)
    (match aDecoder.decodeObject "location" with
      | some (.location archive) => some (ATCLocation.ofCoder archive)
      | _ => none)
    (aDecoder.decodeBool "isAdmin")
    (aDecoder.decodeString "vendorID")
    ((aDecoder.decodeString "role").getD "")
    (aDecoder.decodeBool "isActive")
    (match aDecoder.decodeObject "settings" with
      | some (.dictionary settings) => settings
      | _ => [])

/-- `init(coder:)` over either archiver; the coordinates are the only numbers that it decodes
as objects. -/
def ofCoderWhere (numbersAreObjects : Bool) (aDecoder : NSCoder) : ATCUser :=
  { ofCoder aDecoder with
    location :=
      match aDecoder.decodeObject "location" with
      | some (.location archive) => some (ATCLocation.ofCoderWhere numbersAreObjects archive)
      | _ => none }

theorem ofCoderWhere_false (aDecoder : NSCoder) : ofCoderWhere false aDecoder = ofCoder aDecoder :=
  rfl

end ATCUser

/-- What the app keeps in `UserDefaults.standard`. -/
inductive DefaultsValue where
  | data (archive : NSCoder)
  | bool (value : Bool)
  | switches (members : List (String × Bool))

abbrev UserDefaults := String → Option DefaultsValue

namespace ATCPersistentStore

def kWalkthroughCompletedKey : String := "kWalkthroughCompletedKey"

def kLoggedInUserKey : String := "kUserKey"

def markWalkthroughCompleted (defaults : UserDefaults) : UserDefaults :=
  Function.update defaults kWalkthroughCompletedKey (some (.bool true))

def isWalkthroughCompleted (defaults : UserDefaults) : Bool :=
  match defaults kWalkthroughCompletedKey with
  | some (.bool value) => value
  | _ => false

def markUserAsLoggedIn (defaults : UserDefaults) (user : ATCUser) : UserDefaults :=
  Function.update defaults kLoggedInUserKey (some (.data user.encode))

def userIfLoggedInUser (defaults : UserDefaults) : Option ATCUser :=
  match defaults kLoggedInUserKey with
  | some (.data archive) => some (ATCUser.ofCoder archive)
  | _ => none

def logout (defaults : UserDefaults) : UserDefaults :=
  Function.update defaults kLoggedInUserKey none

@[simp] theorem userIfLoggedInUser_markUserAsLoggedIn (defaults : UserDefaults) (user : ATCUser) :
    userIfLoggedInUser (markUserAsLoggedIn defaults user) =
      some (ATCUser.ofCoder user.encode) := by
  simp [userIfLoggedInUser, markUserAsLoggedIn]

@[simp] theorem userIfLoggedInUser_logout (defaults : UserDefaults) :
    userIfLoggedInUser (logout defaults) = none := by
  simp [userIfLoggedInUser, logout]

/-- Marking the walkthrough as completed keeps the user. -/
@[simp] theorem userIfLoggedInUser_markWalkthroughCompleted (defaults : UserDefaults) :
    userIfLoggedInUser (markWalkthroughCompleted defaults) = userIfLoggedInUser defaults := by
  have different : kLoggedInUserKey ≠ kWalkthroughCompletedKey := by decide
  simp [userIfLoggedInUser, markWalkthroughCompleted, Function.update_of_ne different]

theorem uid_of_userIfLoggedInUser {defaults : UserDefaults} {user : ATCUser}
    (h : userIfLoggedInUser defaults = some user) : ∃ uid, user.uid = some uid := by
  unfold userIfLoggedInUser at h
  split at h
  · cases h
    exact ⟨_, rfl⟩
  · cases h

end ATCPersistentStore

end FinanciaApp.Source
