import FinanciaApp.Source.ATCPersistentStore

/-!
# The archived user

`encode(with:)` and `init(coder:)` of `ATCUser` are two lists of keys. The keys `username`
and `settings` are on one of them only: the user name is written and never read, the
settings are read and never written. What the other keys bring back is computed key by key
(`lookup_encode`), and the user as a whole is compared with what was archived.
-/

set_option autoImplicit false

namespace FinanciaApp.Guarantees

open Library Source Source.ATCUser

/-- The decoded user has every stored field of the archived one, up to what the decoder puts
for `nil`. -/
structure KeptByArchive (user decoded : ATCUser) : Prop where
  uid : decoded.uid = some (user.uid.getD "unknown")
  username : decoded.username = user.username
  email : decoded.email = some (user.email.getD "")
  firstName : decoded.firstName = some (user.firstName.getD "")
  lastName : decoded.lastName = some (user.lastName.getD "")
  phoneNumber : decoded.phoneNumber = some (user.phoneNumber.getD "")
  profilePictureURL :
    decoded.profilePictureURL = some (user.profilePictureURL.getD defaultAvatarURL)
  pushToken : decoded.pushToken = some (user.pushToken.getD "")
  pushKitToken : decoded.pushKitToken = some (user.pushKitToken.getD "")
  isOnline : decoded.isOnline = user.isOnline
  lastOnlineDateTime : decoded.lastOnlineDateTime = user.lastOnlineDateTime
  photos : decoded.photos = some (user.photos.getD [])
  location : decoded.location = user.location
  isAdmin : decoded.isAdmin = user.isAdmin
  vendorID : decoded.vendorID = user.vendorID
  role : decoded.role = some (user.role.getD "")
  isActive : decoded.isActive = user.isActive
  settings : decoded.settings = user.settings

section Lookups

variable (user : ATCUser)

theorem lookup_encode (key : String) :
    user.encode.lookup key =
      match key with
      | "uid" => user.uid.map .string
      | "username" => user.username.map .string
      | "email" => user.email.map .string
      | "phone" => user.phoneNumber.map .string
      | "firstName" => user.firstName.map .string
      | "lastName" => user.lastName.map .string
      | "profilePictureURL" => user.profilePictureURL.map .string
      | "pushToken" => user.pushToken.map .string
      | "pushKitToken" => user.pushKitToken.map .string
      | "isOnline" => some (.bool user.isOnline)
      | "lastOnlineTimestamp" => user.lastOnlineDateTime.map .date
      | "photos" => user.photos.map .strings
      | "location" => user.location.map fun location => .location location.encode
      | "isAdmin" => some (.bool user.isAdmin)
      | "role" => user.role.map .string
      | "isActive" => some (.bool user.isActive)
      | "vendorID" => user.vendorID.map .string
      | _ => none := by
  split
  all_goals simp only [encode, List.lookup_append, NSCoder.lookup_encodeObject,
    lookup_field, List.lookup_nil]
  all_goals simp_all

theorem decodeObject_location :
    NSCoder.decodeObject user.encode "location" =
      user.location.map fun location => .location location.encode :=
  NSCoder.decodeObject_of_lookup (lookup_encode user "location") fun _ => rfl

/-- What an archived user is decoded to. -/
theorem ofCoder_archived :
    ofCoder user.encode =
      new (user.uid.getD "unknown") (some (user.firstName.getD ""))
        (some (user.lastName.getD "")) (some (user.profilePictureURL.getD defaultAvatarURL))
        (user.email.getD "") (user.phoneNumber.getD "") (some (user.pushToken.getD ""))
        (some (user.pushKitToken.getD "")) (some (user.photos.getD [])) user.isOnline
        user.lastOnlineDateTime
        (user.location.map fun location => ATCLocation.ofCoder location.encode) user.isAdmin
        user.vendorID (user.role.getD "") user.isActive [] := by
  have string {key : String} {value : Option String}
      (found : user.encode.lookup key = value.map .string) :
      NSCoder.decodeString user.encode key = value :=
    NSCoder.decodeString_of_lookup found
  have photos : NSCoder.decodeObject user.encode "photos" = user.photos.map .strings :=
    NSCoder.decodeObject_of_lookup (lookup_encode user "photos") fun _ => rfl
  have lastOnline : NSCoder.decodeObject user.encode "lastOnlineTimestamp" =
      user.lastOnlineDateTime.map .date :=
    NSCoder.decodeObject_of_lookup (lookup_encode user "lastOnlineTimestamp") fun _ => rfl
  have location := decodeObject_location user
  have settings : NSCoder.decodeObject user.encode "settings" = none := by
    simp [NSCoder.decodeObject, lookup_encode]
  rw [ofCoder, photos, lastOnline, location, settings, string (lookup_encode user "uid"),
    string (lookup_encode user "firstName"), string (lookup_encode user "lastName"),
    string (lookup_encode user "profilePictureURL"), string (lookup_encode user "email"),
    string (lookup_encode user "phone"), string (lookup_encode user "pushToken"),
    string (lookup_encode user "pushKitToken"), string (lookup_encode user "vendorID"),
    string (lookup_encode user "role")]
  simp only [NSCoder.decodeBool, lookup_encode]
  cases user.photos <;> cases user.lastOnlineDateTime <;> cases user.location <;> rfl

/-- The coordinates of an archived location come back only as objects. -/
theorem ofCoderWhere_archived (numbersAreObjects : Bool) (location : ATCLocation) :
    ATCLocation.ofCoderWhere numbersAreObjects location.encode =
      if numbersAreObjects then location else ⟨0, 0⟩ := by
  cases numbersAreObjects <;> rfl

theorem location_archived (numbersAreObjects : Bool) :
    (ofCoderWhere numbersAreObjects user.encode).location =
      if numbersAreObjects then user.location else user.location.map fun _ => ⟨0, 0⟩ := by
  simp only [ofCoderWhere, decodeObject_location]
  cases user.location with
  | none => cases numbersAreObjects <;> rfl
  | some location =>
    have decoded := ofCoderWhere_archived numbersAreObjects location
    refine (congrArg some decoded).trans ?_
    cases numbersAreObjects <;> rfl

/-- What is lost otherwise: the user name, the settings, and an empty picture URL. -/
structure NothingLost (numbersAreObjects : Bool) : Prop where
  username : user.username = none
  settings : user.settings = []
  profilePictureURL : user.profilePictureURL ≠ some ""
  location : numbersAreObjects = true ∨ ∀ location, user.location = some location →
    location = ⟨0, 0⟩

theorem keptByArchive_iff (numbersAreObjects : Bool) :
    KeptByArchive user (ofCoderWhere numbersAreObjects user.encode) ↔
      NothingLost user numbersAreObjects := by
  have picture : (ofCoderWhere numbersAreObjects user.encode).profilePictureURL =
      some (user.profilePictureURL.getD defaultAvatarURL) ↔ user.profilePictureURL ≠ some "" := by
    simp only [ofCoderWhere, ofCoder_archived, new, pictureURL_or_default]
    cases user.profilePictureURL with
    | none => simp
    | some url =>
      by_cases empty : url = ""
      · simp [empty, defaultAvatarURL]
      · simp [empty]
  have location : (ofCoderWhere numbersAreObjects user.encode).location = user.location ↔
      numbersAreObjects = true ∨ ∀ location, user.location = some location →
        location = ⟨0, 0⟩ := by
    rw [location_archived]
    cases numbersAreObjects with
    | true => simp
    | false =>
      cases user.location with
      | none => simp
      | some location => simp [eq_comm]
  constructor
  · intro kept
    have username := kept.username
    have settings := kept.settings
    simp only [ofCoderWhere, ofCoder_archived, new] at username settings
    exact ⟨username.symm, settings.symm, picture.mp kept.profilePictureURL,
      location.mp kept.location⟩
  · intro kept
    constructor
    case username => simp only [ofCoderWhere, ofCoder_archived, new, kept.username]
    case settings => simp only [ofCoderWhere, ofCoder_archived, new, kept.settings]
    case profilePictureURL => exact picture.mpr kept.profilePictureURL
    case location => exact location.mpr kept.location
    all_goals simp only [ofCoderWhere, ofCoder_archived, new]

end Lookups

/-- For every user and both kinds of archivers: the next launch finds the decoded archive of
the user who was marked as logged in, and it has every stored field exactly for a user
without a user name, without settings and without an empty picture URL, and at the origin
if the archiver does not return the coordinates as objects. -/
theorem archive_keeps_user_iff (defaults : UserDefaults) (user : ATCUser) :
    ATCPersistentStore.userIfLoggedInUser
        (ATCPersistentStore.markUserAsLoggedIn defaults user) =
        some (ofCoderWhere false user.encode) ∧
      ∀ numbersAreObjects, KeptByArchive user (ofCoderWhere numbersAreObjects user.encode) ↔
        NothingLost user numbersAreObjects := by
  refine ⟨?_, keptByArchive_iff user⟩
  rw [ofCoderWhere_false]
  exact ATCPersistentStore.userIfLoggedInUser_markUserAsLoggedIn defaults user

/-- A user as the server delivers one, with a user name and with settings. -/
def userWithSettings : ATCUser :=
  { new "u1" (some "Ana") (some "Luna") none "ana@example.com" "" none none none false none
      none false none "user" true [("push_notifications_enabled", .bool true)] with
    username := some "ana" }

/-- The archive forgets them, whatever the archiver does with numbers. -/
theorem username_lost_by_archive :
    ¬ ∀ (user : ATCUser) (numbersAreObjects : Bool),
      KeptByArchive user (ofCoderWhere numbersAreObjects user.encode) := by
  intro claim
  have kept : (none : Option String) = some "ana" := (claim userWithSettings true).username
  cases kept

end FinanciaApp.Guarantees
