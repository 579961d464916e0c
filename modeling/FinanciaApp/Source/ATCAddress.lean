import FinanciaApp.Library.JoinedTexts
import FinanciaApp.Source.ATCUserDocument

/-!
# Addresses

`init(jsonDict:)`, `description`, `fullAddress` and `representation` of
`Core/Models/ATCAddress.swift`, with the static `isEmpty` of `Core/UIExtensions/String.swift`. How
a text is cut into Characters is a parameter.
-/

set_option autoImplicit false

namespace FinanciaApp.Source

open Library

structure ATCAddress where
  firstName : Option String
  lastName : Option String
  name : Option String
  line1 : Option String
  line2 : Option String
  city : Option String
  state : Option String
  postalCode : Option String
  country : Option String
  phone : Option String
  email : Option String
  location : Option ATCLocation
  addressID : Option String
  deriving DecidableEq, Repr

/-- `String.isEmpty(str)`. -/
def isEmptyString (segmentation : Segmentation) (str : Option String) : Bool :=
  str.isNone || decide ((str.map segmentation.count).getD 0 ≤ 0)

namespace ATCAddress

section Texts

variable (segmentation : Segmentation)

/-- One summand: nothing, or the field with a separator. -/
def separated (str : Option String) : String :=
  if isEmptyString segmentation str then "" else str.getD "" ++ ", "

def description (self : ATCAddress) : String :=
  let address := separated segmentation self.name ++ separated segmentation self.line1 ++
    separated segmentation self.line2 ++ separated segmentation self.city ++
    separated segmentation self.postalCode ++ separated segmentation self.country ++
    separated segmentation self.phone ++ separated segmentation self.email
  if segmentation.count address < 4 then address
  else segmentation.dropLast (segmentation.dropLast address)

def fullAddress (self : ATCAddress) : String :=
  separated segmentation self.line1 ++ separated segmentation self.line2 ++
    separated segmentation self.city ++
    if isEmptyString segmentation self.postalCode then "" else self.postalCode.getD "" ++ ""

end Texts

def representation (self : ATCAddress) : List (String × FirestoreValue) :=
  [("name", .string (self.name.getD "")),
    ("line1", .string (self.line1.getD "")),
    ("line2", .string (self.line2.getD "")),
    ("city", .string (self.city.getD "")),
    ("postalCode", .string (self.postalCode.getD "")),
    ("country", .string (self.country.getD "")),
    ("phone", .string (self.phone.getD "")),
    ("email", .string (self.email.getD ""))] ++
  (self.location.map fun location => ("location", .map location.representation)).toList

section Decoding

variable (jsonDict : DocumentData)

/-- `jsonDict[key] as? String`. -/
def stringAt (key : String) : Option String := (jsonDict key).bind FirestoreValue.asString

/-- The name of the dictionary, or the first and the last name where it has both. -/
def decodedName : Option String :=
  match stringAt jsonDict "firstName", stringAt jsonDict "lastName" with
  | some firstName, some lastName =>
    some (if firstName = "" then lastName else firstName ++ " " ++ lastName)
  | _, _ => stringAt jsonDict "name"

/-- `init(jsonDict:)`. -/
def ofJSON : ATCAddress where
  addressID := stringAt jsonDict "addressID"
  name := decodedName jsonDict
  firstName := stringAt jsonDict "firstName"
  lastName := stringAt jsonDict "lastName"
  line1 := stringAt jsonDict "line1"
  line2 := stringAt jsonDict "line2"
  city := stringAt jsonDict "city"
  postalCode := stringAt jsonDict "postalCode"
  country := stringAt jsonDict "country"
  state := stringAt jsonDict "state"
  phone := stringAt jsonDict "phone"
  email := stringAt jsonDict "email"
  location :=
    ((jsonDict "location").bind FirestoreValue.asDictionary).map ATCLocation.ofRepresentation

end Decoding

end ATCAddress

end FinanciaApp.Source
