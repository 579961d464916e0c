import FinanciaApp.Source.RestAPISystem

/-!
# The end of the bottom stream

`loadFirst` and `loadBottom` end the stream on a success reply with
`(objects?.count ?? 0) == 0`, and `retrieveListFromJSON` reports a body that is no
list of objects as `nil`. So the stream ends on empty arrays only along exactly the
runs in which every success reply that reaches one of the two closures while the
stream is open carries a list of objects.
-/

set_option autoImplicit false

namespace FinanciaApp.Guarantees

open Library Source Source.ATCGenericRestAPIDataSource

universe u v

variable {T : Type u}

/-- `body as? [[String: Any]]`. -/
def objectList (response : Response) : Option (List JSONDictionary) :=
  response.jsonData.bind JSONValue.asDictionaryArray

/-- The step ends the stream. -/
def EndsStream (s t : System T) : Prop :=
  s.source.bottomStreamLoadingEnded = false ∧ t.source.bottomStreamLoadingEnded = true

/-- A step that ends the stream is a success reply with an empty array, and a success
reply whose body is no list of objects leaves the stream as it is. -/
structure EndsProperly (s : System T) (e : Event) (t : System T) : Prop where
  onEmptyArray : EndsStream s t → ∃ index response, e = .reply index response ∧
    response.status = .success ∧ response.jsonData = some (.array [])
  notOnUnreadable : ∀ index response, e = .reply index response →
    response.status = .success → objectList response = none →
    t.source.bottomStreamLoadingEnded = s.source.bottomStreamLoadingEnded

/-- A success reply to `loadFirst` or `loadBottom` that arrives while the stream is
open has a list of objects as its body. -/
def ReadablePage (s : System T) (e : Event) : Prop :=
  ∀ index response sent rest, e = .reply index response → response.status = .success →
    deliver s.inFlight index = some (sent, rest) →
    sent.request.operation.isLoadTop = false → s.source.bottomStreamLoadingEnded = false →
    objectList response ≠ none

/-- A call never ends the stream. -/
theorem endsProperly_call (s : System T) (e : Event) (t : System T)
    (call : ∀ index response, e ≠ .reply index response)
    (same : t.source.bottomStreamLoadingEnded = s.source.bottomStreamLoadingEnded) :
    EndsProperly s e t where
  onEmptyArray := by
    rintro ⟨wasOpen, ended⟩
    rw [same, wasOpen] at ended
    cases ended
  notOnUnreadable index response he := absurd he (call index response)

section

variable {Description : Type v} [DecidableEq Description] [ATCGenericBaseModel T Description]

omit [DecidableEq Description] in
theorem countsZero_iff (response : Response) :
    countsZero (retrieveListFromJSON (T := T) response).1 = true ↔
      objectList response = none ∨ response.jsonData = some (.array []) := by
  rw [countsZero, decide_eq_true_eq]
  exact retrieveListFromJSON_count_eq_zero response

/-- What a success reply makes of the end of the stream. -/
theorem ended_afterReply_iff (s : System T) (sent : Sent) (rest : List Sent)
    (response : Response) (ok : response.status = .success) :
    (s.afterReply sent rest response).source.bottomStreamLoadingEnded = true ↔
      s.source.bottomStreamLoadingEnded = true ∨ sent.request.operation.isLoadTop = false ∧
        (objectList response = none ∨ response.jsonData = some (.array [])) := by
  rw [afterReply_source_success s sent rest response ok, Bool.or_eq_true, Bool.and_eq_true,
    Bool.not_eq_true', countsZero_iff]

theorem endsProperly_success_iff (s : System T) (index : Nat) (sent : Sent) (rest : List Sent)
    (response : Response) (ok : response.status = .success)
    (answered : deliver s.inFlight index = some (sent, rest)) :
    EndsProperly s (.reply index response) (s.afterReply sent rest response) ↔
      ReadablePage s (.reply index response) := by
  have ends := ended_afterReply_iff s sent rest response ok
  constructor
  · rintro ⟨-, kept⟩ i r sent' rest' he _ answered' notTop isOpen unreadable
    cases he
    rw [answered] at answered'
    cases answered'
    have ended := ends.mpr (.inr ⟨notTop, .inl unreadable⟩)
    rw [kept index response rfl ok unreadable, isOpen] at ended
    cases ended
  · intro readable
    have readable' := fun h₁ h₂ => readable index response sent rest rfl ok answered h₁ h₂
    constructor
    · rintro ⟨isOpen, ended⟩
      rcases ends.mp ended with was | ⟨notTop, unreadable | empty⟩
      · rw [isOpen] at was
        cases was
      · exact absurd unreadable (readable' notTop isOpen)
      · exact ⟨index, response, rfl, ok, empty⟩
    · intro i r he _ unreadable
      cases he
      cases isOpen : s.source.bottomStreamLoadingEnded with
      | true => exact ends.mpr (.inl isOpen)
      | false =>
        by_contra h
        rcases ends.mp (by simpa using h) with was | ⟨notTop, -⟩
        · rw [isOpen] at was
          cases was
        · exact readable' notTop isOpen unreadable

theorem endsProperly_step_iff (s : System T) (e : Event) (t : System T)
    (taken : step s e = some t) : EndsProperly s e t ↔ ReadablePage s e := by
  rcases step_call_or_reply taken with ⟨call, same, -⟩ |
    ⟨index, response, sent, rest, rfl, answered, rfl⟩
  · exact ⟨fun _ index response _ _ he => absurd he (call index response),
      fun _ => endsProperly_call s e t call same.ended⟩
  · cases hstatus : response.status with
    | success =>
      exact endsProperly_success_iff s index sent rest response hstatus answered
    | error message =>
      have same := afterReply_source_error s sent rest response hstatus
      refine ⟨fun _ i r _ _ he ok => ?_, fun _ => ⟨?_, fun i r he ok => ?_⟩⟩
      · cases he
        rw [hstatus] at ok
        cases ok
      · rintro ⟨isOpen, ended⟩
        rw [same, isOpen] at ended
        cases ended
      · cases he
        rw [hstatus] at ok
        cases ok

/-- Along every run from an empty data source, the stream ends properly at every step
exactly when every success reply that `loadFirst` or `loadBottom` receives while the
stream is open is a list of objects. -/
theorem stream_ends_properly_iff_pages_readable
    (configuration : ATCGenericRestAPIDataSourceConfiguration) (es : List Event) :
    AlongRun step EndsProperly (System.initial configuration : System T) es ↔
      AlongRun step (fun s e _ => ReadablePage s e)
        (System.initial configuration : System T) es :=
  alongRun_iff_of_step endsProperly_step_iff (System.initial configuration) es

end

/-- A success reply with a dictionary, such as an error document sent with status 200,
ends the stream for good. -/
theorem stream_ends_on_dictionary :
    ¬ ∀ es : List Event, AlongRun step EndsProperly
      (System.initial sampleConfiguration : System TitledRow) es := by
  intro claim
  have along := claim [.loadFirst, .reply 0 ⟨some (.object []), .success⟩]
  have bad := ((along _ rfl).2 _ rfl).1
  exact absurd (bad.notOnUnreadable 0 _ rfl rfl rfl) (by decide)

end FinanciaApp.Guarantees
