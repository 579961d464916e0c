import FinanciaApp.Library.FailableMaps
import FinanciaApp.Guarantees.WallPosts

/-!
# The pages behind a page of posts

`processWallPostResponse` follows the links from page to page, and each of its exits completes
with the posts so far. It reads dictionaries of texts only, so a page with any other value among
its posts has none, and one with any other value in its paging is the last.
-/

set_option autoImplicit false

namespace FinanciaApp.Guarantees

open Library Source Source.ATCFacebookAPIManager Source.JSONValue

universe u

/-! ## What a page holds for a reader of texts -/

/-- An object of which every value is a text. -/
def isTexts : JSONValue → Bool
  | .object members => members.all fun member => member.2.asString.isSome
  | _ => false

/-- The posts of a page whose data are objects of texts. -/
def textPosts (page : JSONDictionary) : List JSONDictionary :=
  match page.lookup "data" with
  | some (.array elements) => if elements.all isTexts then postsOfPage page else []
  | _ => []

/-- The link of a page whose paging is an object of texts. -/
def textLink (page : JSONDictionary) : Option String :=
  match page.lookup "paging" with
  | some paging => if isTexts paging then nextLink page else none
  | none => none

theorem isSome_asStringDictionary (value : JSONValue) :
    (asStringDictionary value).isSome = isTexts value := by
  cases value with
  | object members =>
    rw [Bool.eq_iff_iff, asStringDictionary, isSome_mapM_iff, isTexts, List.all_eq_true]
    simp only [Option.isSome_map]
  | _ => rfl

theorem ofStrings_of_cast {value : JSONValue} {strings : List (String × String)}
    (cast : asStringDictionary value = some strings) :
    JSONValue.object (ofStrings strings) = value := by
  cases value with
  | object members =>
    have kept : strings.map (fun member => (member.1, JSONValue.string member.2)) =
        members.map id := by
      refine map_of_mapM (fun member pair equal => ?_) cast
      obtain ⟨key, stored⟩ := member
      cases stored with
      | string text =>
        cases equal
        rfl
      | _ => cases equal
    rw [ofStrings, kept, List.map_id]
  | _ => cases cast

/-- The cast of a list of objects, as far as it succeeds. -/
theorem asStringDictionaries_eq (elements : List JSONValue) :
    (elements.mapM asStringDictionary).map (List.map ofStrings) =
      if elements.all isTexts then some (elements.filterMap asDictionary) else none := by
  have all_iff : elements.all isTexts = true ↔
      (elements.mapM asStringDictionary).isSome = true := by
    rw [isSome_mapM_iff, List.all_eq_true]
    simp only [isSome_asStringDictionary]
  cases cast : elements.mapM asStringDictionary with
  | none =>
    rw [cast] at all_iff
    rw [if_neg (mt all_iff.mp Bool.false_ne_true), Option.map_none]
  | some array =>
    rw [cast] at all_iff
    have objects : array.map (fun strings => JSONValue.object (ofStrings strings)) =
        elements.map id := map_of_mapM (fun _ _ => ofStrings_of_cast) cast
    rw [List.map_id] at objects
    rw [if_pos (all_iff.mpr rfl), Option.map_some, ← objects, List.filterMap_map]
    exact congrArg some (congrFun List.filterMap_eq_map array).symm

theorem paging_next_eq (page : JSONDictionary) :
    (((page.lookup "paging").bind asStringDictionary).bind fun paging =>
        paging.lookup "next").filter (fun next => 0 < next.length) = textLink page := by
  rw [textLink]
  cases paging : page.lookup "paging" with
  | none => rfl
  | some value =>
    rw [Option.bind_some]
    dsimp only
    cases cast : asStringDictionary value with
    | none =>
      rw [← isSome_asStringDictionary, cast]
      rfl
    | some strings =>
      rw [← isSome_asStringDictionary, cast, nextLink, paging, ← ofStrings_of_cast cast]
      simp only [Option.bind_some, asDictionary, lookup_ofStrings]
      cases strings.lookup "next" with
      | none => rfl
      | some next =>
        have positive : 0 < next.length ↔ ¬next = "" := by
          rw [Nat.pos_iff_ne_zero]
          exact not_congr String.length_eq_zero_iff
        rw [Option.filter_some, Option.map_some, Option.bind_some, asString]
        simp only [positive, decide_not, Option.isSome_some, if_true]
        by_cases empty : next = ""
        · simp [empty]
        · simp [empty]

section Pages

variable {T : Type u} [ATCGenericJSONParsable T]

theorem newPosts_eq (page : JSONDictionary) :
    (newPosts page : List T) = (textPosts page).map ATCGenericJSONParsable.init := by
  rw [newPosts, textPosts, postsOfPage]
  cases page.lookup "data" with
  | none => rfl
  | some data =>
    cases data with
    | array elements =>
      have cast := asStringDictionaries_eq elements
      rw [Option.bind_some, asStringDictionaries]
      dsimp only
      split at cast
      · rename_i all
        obtain ⟨array, read, objects⟩ := Option.map_eq_some_iff.mp cast
        rw [read, if_pos all, ← objects, List.map_map]
        rfl
      · rename_i other
        rw [Option.map_eq_none_iff.mp cast, if_neg other]
        rfl
    | _ => rfl

/-- The exits of one call: a request for the next page, or a call of `completion`. -/
theorem processWallPostResponse_eq (page : JSONDictionary) (posts : List T)
    (completions : List (List T)) :
    processWallPostResponse page posts ⟨none, completions⟩ =
      match textLink page with
      | some path =>
        ⟨some (.next path (posts ++ (textPosts page).map ATCGenericJSONParsable.init)), completions⟩
      | none =>
        ⟨none, completions ++ [posts ++ (textPosts page).map ATCGenericJSONParsable.init]⟩ := by
  rw [← paging_next_eq, processWallPostResponse, newPosts_eq]
  dsimp only
  cases ((page.lookup "paging").bind asStringDictionary).bind fun paging =>
      paging.lookup "next" with
  | none => rfl
  | some next =>
    rw [Option.filter_some]
    by_cases positive : 0 < next.length
    · simp only [positive, decide_true, if_true]
    · simp only [positive, decide_false, if_false, Bool.false_eq_true]
      rfl

/-- The reply to a request for a next page. -/
theorem step_nextReply (path : String) (posts : List T) (completions : List (List T))
    (response : Response) :
    step ⟨some (.next path posts), completions⟩ (.nextReply response) =
      some (match pageOfReply response with
        | some page => processWallPostResponse page posts ⟨none, completions⟩
        | none => ⟨none, completions ++ [posts]⟩) := by
  change some (nextCompletion posts response ⟨none, completions⟩) = _
  rw [nextCompletion, pageOfReply]
  cases response.status with
  | success =>
    dsimp only
    cases response.jsonData.bind asDictionary <;> rfl
  | error _ => rfl

end Pages

/-! ## What a chain of pages holds -/

section Chain

variable (link : JSONDictionary → Option String)

/-- The pages from one on, up to the first one without a link, and before an error or an
unreadable body. -/
def pagesFrom : JSONDictionary → List Response → List JSONDictionary
  | page, [] => [page]
  | page, response :: responses =>
    page :: match (link page).bind fun _ => pageOfReply response with
      | some next => pagesFrom next responses
      | none => []

/-- The link that no reply answers, if the chain does not end before. -/
def openLink : JSONDictionary → List Response → Option String
  | page, [] => link page
  | page, response :: responses =>
    match (link page).bind fun _ => pageOfReply response with
    | some next => openLink next responses
    | none => none

end Chain

section Delivery

variable {T : Type u} [ATCGenericJSONParsable T]

/-- A call for a first page and the posts before it, and the replies that follow. -/
def servedPages (first : JSONDictionary) (posts : List T) (completions : List (List T))
    (responses : List Response) : System T :=
  serve (processWallPostResponse first posts ⟨none, completions⟩) (responses.map .nextReply)

/-- One call of `completion` where the chain ends, with the posts of the pages as they are. -/
def DeliversPages (first : JSONDictionary) (posts : List T) (completions : List (List T))
    (responses : List Response) : Prop :=
  openLink nextLink first responses = none →
    (servedPages first posts completions responses).completions = completions ++
      [posts ++ ((pagesFrom nextLink first responses).flatMap postsOfPage).map
        ATCGenericJSONParsable.init]

end Delivery

/-- Where the chain ends, `completion` is called once, with the posts before, followed by those of
all its pages in their order; until then it is not called, and these posts are with the request. -/
theorem servedPages_eq (T : Type u) [ATCGenericJSONParsable T] (first : JSONDictionary)
    (posts : List T) (completions : List (List T)) (responses : List Response) :
    servedPages first posts completions responses =
      match openLink textLink first responses with
      | none =>
        ⟨none, completions ++ [posts ++ ((pagesFrom textLink first responses).flatMap
          textPosts).map ATCGenericJSONParsable.init]⟩
      | some path =>
        ⟨some (.next path (posts ++ ((pagesFrom textLink first responses).flatMap
          textPosts).map ATCGenericJSONParsable.init)), completions⟩ := by
  induction responses generalizing first posts with
  | nil =>
    rw [servedPages, List.map_nil, serve, processWallPostResponse_eq, openLink, pagesFrom,
      List.flatMap_singleton]
    cases textLink first <;> rfl
  | cons response responses ih =>
    rw [servedPages, List.map_cons, processWallPostResponse_eq, openLink, pagesFrom]
    cases textLink first with
    | none =>
      rw [Option.bind_none, serve_of_idle rfl, List.flatMap_singleton]
    | some path =>
      dsimp only
      rw [serve, step_nextReply, Option.bind_some]
      cases pageOfReply response with
      | none =>
        dsimp only
        rw [serve_of_idle rfl, List.flatMap_singleton]
      | some next =>
        dsimp only
        rw [← servedPages, ih, List.flatMap_cons, List.map_append, ← List.append_assoc]

/-- A page without a post, with the cursors of the page in its paging. -/
def pageWithCursors : JSONDictionary :=
  [("data", .array []),
    ("paging", .object [("cursors", .object [("after", .string "1")]), ("next", .string "2")])]

/-- A page with a post of one text. -/
def lastPage : JSONDictionary := [("data", .array [.object [("name", .string "a")]])]

/-- The same with another post, in which a value is no text. -/
def pageWithPicture : JSONDictionary :=
  [("data", .array [.object [("name", .string "a")], .object [("picture", .object [])]])]

/-- The page behind the cursors is not requested, and the text beside the picture is lost. -/
theorem pages_of_texts_only :
    ¬(∀ first (posts : List ATCFacebookPost) completions responses,
      DeliversPages first posts completions responses) ∧
    (servedPages pageWithCursors [] [] [⟨some (.object lastPage), .success⟩] :
      System ATCFacebookPost) = ⟨none, [[]]⟩ ∧
    (servedPages pageWithPicture [] [] [] : System ATCFacebookPost) = ⟨none, [[]]⟩ := by
  have lost : (servedPages pageWithCursors [] [] [⟨some (.object lastPage), .success⟩] :
      System ATCFacebookPost) = ⟨none, [[]]⟩ := rfl
  refine ⟨fun claimed => ?_, lost, rfl⟩
  have delivered := claimed pageWithCursors [] [] [⟨some (.object lastPage), .success⟩] rfl
  rw [lost] at delivered
  exact absurd delivered (by decide)

end FinanciaApp.Guarantees
