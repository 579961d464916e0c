import FinanciaApp.Source.ATCAPIManager

/-!
# The posts of a Facebook wall, and its user

`requestWallPosts` and `processWallPostResponse` of `Core/API/ATCFacebookAPIManager.swift:41-77`.
The posts are of any parsable type, of which `ATCFacebookPost` is one. At most one request is in
flight, and the next reply answers it. Of `requestFacebookUser` (lines 24-33) there is the closure.
-/

set_option autoImplicit false

namespace FinanciaApp.Source

universe u

namespace JSONValue

/-- A `[String: String]` as a `[String: Any]`. -/
def ofStrings (strings : List (String × String)) : JSONDictionary :=
  strings.map fun member => (member.1, .string member.2)

/-- `value as? [String: String]`. -/
def asStringDictionary : JSONValue → Option (List (String × String))
  | .object members => members.mapM fun member => member.2.asString.map fun string =>
      (member.1, string)
  | _ => none

/-- `value as? [[String: String]]`. -/
def asStringDictionaries : JSONValue → Option (List (List (String × String)))
  | .array elements => elements.mapM asStringDictionary
  | _ => none

theorem lookup_ofStrings (strings : List (String × String)) (key : String) :
    (ofStrings strings).lookup key = (strings.lookup key).map .string := by
  induction strings with
  | nil => rfl
  | cons member strings ih =>
    rw [ofStrings, List.map_cons, List.lookup_cons, List.lookup_cons, ← ofStrings, ih]
    cases key == member.1 <;> rfl

end JSONValue

structure ATCFacebookPost where
  link : Option String
  createdTime : Option String
  picture : Option String
  name : Option String
  deriving DecidableEq, Repr

/-- `init(jsonDict:)`, whose assignments are all commented out. -/
instance : ATCGenericJSONParsable ATCFacebookPost where
  init _ := ⟨none, none, none, none⟩

structure ATCFacebookUser where
  firstName : Option String
  lastName : Option String
  email : Option String
  id : Option String
  profilePicture : Option String
  deriving DecidableEq, Repr

/-- `init(jsonDict:)`, whose assignments are all commented out. -/
instance : ATCGenericJSONParsable ATCFacebookUser where
  init _ := ⟨none, none, none, none, none⟩

namespace ATCFacebookAPIManager

/-- The closure of `requestFacebookUser`: what `completion` is called with, if it is called. -/
def requestFacebookUser (result : Option JSONValue) : Option ATCFacebookUser :=
  (result.bind JSONValue.asStringDictionary).map fun result =>
    ATCGenericJSONParsable.init (JSONValue.ofStrings result)

/-- Facebook's reply never tells an e-mail. -/
theorem requestFacebookUser_email {result : Option JSONValue} {user : ATCFacebookUser}
    (requested : requestFacebookUser result = some user) : user.email = none := by
  obtain ⟨strings, -, rfl⟩ := Option.map_eq_some_iff.mp requested
  rfl

/-- The request in flight: the first one, or one for a next page with the posts before it. -/
inductive Request (T : Type u) where
  | graph
  | next (path : String) (posts : List T)

/-- The request in flight, and the calls of `completion` so far. -/
structure System (T : Type u) where
  pending : Option (Request T)
  completions : List (List T)

inductive Event where
  | graphReply (result : Option JSONValue)
  | nextReply (response : Response)

section Handlers

variable {T : Type u} [ATCGenericJSONParsable T]

def System.completing (s : System T) (posts : List T) : System T :=
  { s with completions := s.completions ++ [posts] }

/-- A call of `requestWallPosts`. -/
def requestWallPosts : System T := ⟨some .graph, []⟩

/-- `newPosts` of a page. -/
def newPosts (dictionary : JSONDictionary) : List T :=
  match (dictionary.lookup "data").bind JSONValue.asStringDictionaries with
  | some array => array.map fun dict => ATCGenericJSONParsable.init (JSONValue.ofStrings dict)
  | none => []

def processWallPostResponse (dictionary : JSONDictionary) (posts : List T) (s : System T) :
    System T :=
  let paging := (dictionary.lookup "paging").bind JSONValue.asStringDictionary
  match paging.bind fun paging => paging.lookup "next" with
  | some next =>
    if 0 < next.length then { s with pending := some (.next next (posts ++ newPosts dictionary)) }
    else s.completing (posts ++ newPosts dictionary)
  | none => s.completing (posts ++ newPosts dictionary)

/-- The closure of `graphRequest.start`. -/
def graphCompletion (result : Option JSONValue) (s : System T) : System T :=
  match result.bind JSONValue.asStringDictionary with
  | some result => processWallPostResponse (JSONValue.ofStrings result) [] s
  | none => s.completing []

/-- The closure of `networkingManager.get`, with the posts read so far. -/
def nextCompletion (posts : List T) (response : Response) (s : System T) : System T :=
  match response.status with
  | .success =>
    match response.jsonData.bind JSONValue.asDictionary with
    | some dictionary => processWallPostResponse dictionary posts s
    | none => s.completing posts
  | .error _ => s.completing posts

/-- A reply answers a request of its kind. -/
def step (s : System T) (e : Event) : Option (System T) :=
  match s.pending, e with
  | some .graph, .graphReply result => some (graphCompletion result { s with pending := none })
  | some (.next _ posts), .nextReply response =>
    some (nextCompletion posts response { s with pending := none })
  | _, _ => none

theorem processWallPostResponse_ofStrings (strings : List (String × String)) (posts : List T)
    (s : System T) :
    processWallPostResponse (JSONValue.ofStrings strings) posts s = s.completing posts := by
  have no_posts : newPosts (T := T) (JSONValue.ofStrings strings) = [] := by
    rw [newPosts, JSONValue.lookup_ofStrings]
    cases strings.lookup "data" <;> rfl
  have no_paging : ((JSONValue.ofStrings strings).lookup "paging").bind
      JSONValue.asStringDictionary = none := by
    rw [JSONValue.lookup_ofStrings]
    cases strings.lookup "paging" <;> rfl
  simp only [processWallPostResponse, no_paging, no_posts, Option.bind_none, List.append_nil]

/-- A dictionary of strings has no posts and no paging, and everything else is no result. -/
theorem graphCompletion_eq (result : Option JSONValue) (s : System T) :
    graphCompletion result s = s.completing [] := by
  rw [graphCompletion]
  cases result.bind JSONValue.asStringDictionary with
  | none => rfl
  | some strings => exact processWallPostResponse_ofStrings strings [] s

end Handlers

end ATCFacebookAPIManager

end FinanciaApp.Source
