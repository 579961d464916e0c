import Mathlib.Data.Rat.Defs

/-!
# JSON replies and their parsing

`Core/API/ATCAPIManager.swift` and the part of `Core/Networking` and of the model
protocols it needs. `JSONValue` is what `responseJSON` decodes a body to (the
`Any?` of the source), and the casts `as? [String: Any]` and
`as? [[String: Any]]` are `asDictionary` and `asDictionaryArray`.
-/

set_option autoImplicit false

namespace FinanciaApp.Source

universe u v

inductive JSONValue where
  | null
  | bool (value : Bool)
  | number (value : Rat)
  | string (value : String)
  | array (elements : List JSONValue)
  | object (members : List (String × JSONValue))

/-- `[String: Any]`. -/
abbrev JSONDictionary := List (String × JSONValue)

/-- `value as? [String: Any]`. -/
def JSONValue.asDictionary : JSONValue → Option JSONDictionary
  | .object members => some members
  | _ => none

/-- `value as? String`. -/
def JSONValue.asString : JSONValue → Option String
  | .string value => some value
  | _ => none

/-- `value as? [[String: Any]]`: one element that is no dictionary fails the cast. -/
def JSONValue.asDictionaryArray : JSONValue → Option (List JSONDictionary)
  | .array elements => elements.mapM JSONValue.asDictionary
  | _ => none

inductive ATCNetworkResponseStatus where
  | success
  | error (string : Option String)
  deriving DecidableEq, Repr

/-- `protocol ATCGenericJSONParsable { init(jsonDict: [String: Any]) }`. -/
class ATCGenericJSONParsable (T : Type u) where
  init : JSONDictionary → T

/-- `protocol ATCGenericBaseModel: ATCGenericJSONParsable, CustomStringConvertible`.
`Description` is the type of Swift strings up to the canonical equivalence that
`==` decides, so equality on it is Swift's. -/
class ATCGenericBaseModel (T : Type u) (Description : outParam (Type v)) extends
    ATCGenericJSONParsable T where
  description : T → Description

/-- What the networking layer hands to the completion of one request. -/
structure Response where
  jsonData : Option JSONValue
  status : ATCNetworkResponseStatus

section

variable {T : Type u} [ATCGenericJSONParsable T]

/-- `ATCAPIManager.retrieveListFromJSON`: the arguments its completion is called
with. `init(jsonDict:)` does not fail, so `compactMap` drops nothing. -/
def retrieveListFromJSON (response : Response) : Option (List T) × ATCNetworkResponseStatus :=
  match response.jsonData.bind JSONValue.asDictionaryArray with
  | some jsonArray => (some (jsonArray.map ATCGenericJSONParsable.init), response.status)
  | none => (none, response.status)

/-- The object list of a successful reply; a failed or unreadable one carries none. -/
def Response.objects (response : Response) : List T :=
  match response.status with
  | .success => (retrieveListFromJSON response).1.getD []
  | .error _ => []

@[simp] theorem retrieveListFromJSON_status (response : Response) :
    (retrieveListFromJSON (T := T) response).2 = response.status := by
  unfold retrieveListFromJSON
  split <;> rfl

theorem asDictionaryArray_eq_nil (value : JSONValue) :
    value.asDictionaryArray = some [] ↔ value = .array [] := by
  cases value with
  | array elements =>
    cases elements with
    | nil => simp [JSONValue.asDictionaryArray]
    | cons head tail =>
      simp [JSONValue.asDictionaryArray, List.mapM_cons, Option.bind_eq_bind,
        Option.bind_eq_some_iff]
  | _ => simp [JSONValue.asDictionaryArray]

/-- The parsed list counts zero objects exactly when the body is an empty array or
is no list of objects. -/
theorem retrieveListFromJSON_count_eq_zero (response : Response) :
    (((retrieveListFromJSON (T := T) response).1.map List.length).getD 0 = 0) ↔
      response.jsonData.bind JSONValue.asDictionaryArray = none ∨
        response.jsonData = some (.array []) := by
  unfold retrieveListFromJSON
  cases hbody : response.jsonData.bind JSONValue.asDictionaryArray with
  | none => simp
  | some jsonArray =>
    obtain ⟨value, hvalue, hcast⟩ := Option.bind_eq_some_iff.mp hbody
    have hnil : jsonArray = [] ↔ value = .array [] := by
      rw [← asDictionaryArray_eq_nil, hcast, Option.some.injEq]
    simp [hvalue, hnil]

end

/-- The smallest model type: a row that keeps its title. The witnesses and the
counterexamples about the two data sources run on it. -/
structure TitledRow where
  title : String
  deriving DecidableEq, Repr

instance : ATCGenericBaseModel TitledRow String where
  init jsonDict := ⟨((jsonDict.lookup "title").bind JSONValue.asString).getD ""⟩
  description row := row.title

/-- A body that lists one object for each title. -/
def titledPage (titles : List String) : JSONValue :=
  .array (titles.map fun title => .object [("title", .string title)])

end FinanciaApp.Source
