import FinanciaApp.Source.ATCFacebookAPIManager

/-!
# The pages of a Facebook wall

The first page is cast to a dictionary of strings, in which there is neither a list of posts nor
a link. So no request follows the first one, and no post is ever delivered.
-/

set_option autoImplicit false

namespace FinanciaApp.Guarantees

open Source Source.ATCFacebookAPIManager

universe u

/-! ## What a chain of pages holds -/

/-- The posts in the `data` of a page. -/
def postsOfPage (page : JSONDictionary) : List JSONDictionary :=
  match page.lookup "data" with
  | some (.array elements) => elements.filterMap JSONValue.asDictionary
  | _ => []

/-- The link to the next page, if there is one that is not empty. -/
def nextLink (page : JSONDictionary) : Option String :=
  match ((page.lookup "paging").bind JSONValue.asDictionary).bind fun paging =>
      (paging.lookup "next").bind JSONValue.asString with
  | some next => if next = "" then none else some next
  | none => none

/-- The page of a reply; none of an error and of a body that is no object. -/
def pageOfReply (response : Response) : Option JSONDictionary :=
  match response.status with
  | .success => response.jsonData.bind JSONValue.asDictionary
  | .error _ => none

/-- The pages up to the first one without a link, and before an error or an unreadable body. -/
def followingPages : List Response → List JSONDictionary
  | [] => []
  | response :: responses =>
    match pageOfReply response with
    | some page => page :: if (nextLink page).isSome then followingPages responses else []
    | none => []

/-- The same from the first page on. -/
def wallPages (first : Option JSONValue) (responses : List Response) : List JSONDictionary :=
  match first.bind JSONValue.asDictionary with
  | some page => page :: if (nextLink page).isSome then followingPages responses else []
  | none => []

/-! ## What is delivered -/

section Delivery

variable {T : Type u} [ATCGenericJSONParsable T]

/-- The requests are answered from the chain, in order, until none is left. -/
def serve : System T → List Event → System T
  | s, [] => s
  | s, e :: es =>
    match step s e with
    | some t => serve t es
    | none => s

/-- The run of `requestWallPosts` over a chain. -/
def servedWall (first : Option JSONValue) (responses : List Response) : System T :=
  serve requestWallPosts (.graphReply first :: responses.map .nextReply)

/-- One call of `completion`, with the posts of all pages in their order. -/
def DeliversWall (T : Type u) [ATCGenericJSONParsable T] (first : Option JSONValue)
    (responses : List Response) : Prop :=
  (servedWall first responses : System T).completions =
    [((wallPages first responses).flatMap postsOfPage).map ATCGenericJSONParsable.init]

theorem serve_of_idle {s : System T} (idle : s.pending = none) (es : List Event) :
    serve s es = s := by
  cases es with
  | nil => rfl
  | cons e es =>
    have no_step : step s e = none := by
      unfold step
      rw [idle]
    rw [serve, no_step]

/-- Whatever the chain, `completion` is called once, and with nothing. -/
theorem completions_servedWall (first : Option JSONValue) (responses : List Response) :
    (servedWall first responses : System T).completions = [[]] := by
  have answered : step (requestWallPosts : System T) (.graphReply first) = some ⟨none, [[]]⟩ :=
    congrArg some (graphCompletion_eq first ⟨none, []⟩)
  rw [servedWall, serve, answered]
  exact congrArg System.completions (serve_of_idle rfl _)

end Delivery

/-- The wall is delivered exactly where no page has a post. -/
theorem deliversWall_iff (T : Type u) [ATCGenericJSONParsable T] (first : Option JSONValue)
    (responses : List Response) :
    DeliversWall T first responses ↔
      ∀ page ∈ wallPages first responses, postsOfPage page = [] := by
  rw [DeliversWall, completions_servedWall, List.singleton_inj, eq_comm, List.map_eq_nil_iff,
    List.flatMap_eq_nil_iff]

/-- A page with one post. -/
def onePost : JSONValue :=
  .object [("data", .array [.object [("link", .string "https://example.com")]])]

theorem one_post_lost :
    ¬(∀ first responses, DeliversWall ATCFacebookPost first responses) ∧
    (servedWall (some onePost) [] : System ATCFacebookPost).completions = [[]] ∧
    (wallPages (some onePost) []).flatMap postsOfPage =
      [[("link", .string "https://example.com")]] := by
  refine ⟨fun claimed => ?_, rfl, rfl⟩
  have delivered := claimed (some onePost) []
  rw [DeliversWall, completions_servedWall] at delivered
  exact absurd delivered (by decide)

end FinanciaApp.Guarantees
