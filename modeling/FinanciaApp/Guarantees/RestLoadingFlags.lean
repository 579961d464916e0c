import FinanciaApp.Source.RestAPISystem

/-!
# The loading flags of a REST data source

`isLoadingBottom` and `isLoadingTop` are raised when a request is sent and lowered
by the success branch of its closure only. So the flags agree with the requests in
flight along a run exactly as long as no `loadBottom` or `loadTop` reply fails; the
first such failure leaves its flag raised with nothing in flight, and no later call
of that operation sends a request. Both flags are treated by one definition each,
with the stream as a parameter.
-/

set_option autoImplicit false

namespace FinanciaApp.Guarantees

open Library Source Source.ATCGenericRestAPIDataSource

universe u v

variable {T : Type u}

/-- The two guarded operations. -/
inductive Stream where
  | bottom
  | top
  deriving DecidableEq, Repr

def Stream.isLoading : Stream → ATCGenericRestAPIDataSource T → Bool
  | .bottom, self => self.isLoadingBottom
  | .top, self => self.isLoadingTop

def Stream.owns : Stream → Operation → Bool
  | .bottom, operation => operation.isLoadBottom
  | .top, operation => operation.isLoadTop

/-- How many requests of a stream are in flight. -/
def pending (stream : Stream) (s : System T) : Nat :=
  s.inFlight.countP fun sent => stream.owns sent.request.operation

/-- The flag is raised exactly when one request is in flight, and is down exactly
when none is. -/
def FlagMatches (stream : Stream) (s : System T) : Prop :=
  (stream.isLoading s.source = true ↔ pending stream s = 1) ∧
    (stream.isLoading s.source = false ↔ pending stream s = 0)

/-- The event is a failed reply to a request of the stream. -/
def FailedReply (stream : Stream) (s : System T) (e : Event) : Prop :=
  ∃ index response message sent rest, e = .reply index response ∧
    response.status = .error message ∧ deliver s.inFlight index = some (sent, rest) ∧
    stream.owns sent.request.operation = true

/-- The call that sends a request of this operation. -/
def call : Operation → ATCGenericRestAPIDataSource T →
    ATCGenericRestAPIDataSource T × Option Request
  | .loadFirst, self => self.loadFirst
  | .loadBottom _, self => self.loadBottom
  | .loadTop, self => self.loadTop

/-- The data source with the flag of the operation down, as before the request. -/
def lowerFlag : Operation → ATCGenericRestAPIDataSource T → ATCGenericRestAPIDataSource T
  | .loadFirst, self => self
  | .loadBottom _, self => { self with isLoadingBottom := false }
  | .loadTop, self => { self with isLoadingTop := false }

/-- After a failed reply the data source is as before the request and the next call
of the same operation sends a request again, unless the bottom stream has ended. -/
def Recovers (s : System T) (e : Event) (t : System T) : Prop :=
  ∀ index response message sent rest, e = .reply index response →
    response.status = .error message → deliver s.inFlight index = some (sent, rest) →
    t.source = lowerFlag sent.request.operation s.source ∧
      ((call sent.request.operation t.source).2.isSome = true ∨
        sent.request.operation.isLoadBottom = true ∧
          t.source.bottomStreamLoadingEnded = true)

theorem flagMatches_iff (stream : Stream) (s : System T) :
    FlagMatches stream s ↔ pending stream s = (stream.isLoading s.source).toNat := by
  unfold FlagMatches
  cases stream.isLoading s.source <;> simp <;> omega

theorem pending_append (stream : Stream) (s t : System T) (sent : Sent)
    (h : t.inFlight = s.inFlight ++ [sent]) :
    pending stream t = pending stream s + (stream.owns sent.request.operation).toNat := by
  unfold pending
  rw [h, countP_concat]

theorem pending_deliver (stream : Stream) (s : System T) (index : Nat) (sent : Sent)
    (rest : List Sent) (answered : deliver s.inFlight index = some (sent, rest)) :
    pending stream s =
      rest.countP (fun r => stream.owns r.request.operation) +
        (stream.owns sent.request.operation).toNat :=
  deliver_countP (fun r : Sent => stream.owns r.request.operation) answered

theorem flagMatches_loadFirst (stream : Stream) (s : System T) (inv : FlagMatches stream s) :
    FlagMatches stream (s.afterCall s.source.loadFirst) := by
  rw [flagMatches_iff] at inv ⊢
  rw [pending_append stream s _ _ rfl, inv, afterCall_loadFirst]
  cases stream <;> simp [Stream.owns, Stream.isLoading, Operation.isLoadBottom,
    Operation.isLoadTop]

theorem flagMatches_loadBottom (stream : Stream) (s : System T) (inv : FlagMatches stream s) :
    FlagMatches stream (s.afterCall s.source.loadBottom) := by
  cases guarded : s.source.isLoadingBottom || s.source.bottomStreamLoadingEnded with
  | true =>
    rw [afterCall_loadBottom_skips s guarded]
    exact inv
  | false =>
    obtain ⟨idle, more⟩ := Bool.or_eq_false_iff.mp guarded
    rw [flagMatches_iff] at inv ⊢
    rw [afterCall_loadBottom_sends s idle more, pending_append stream s _ _ rfl, inv]
    cases stream <;> simp [Stream.owns, Stream.isLoading, Operation.isLoadBottom,
      Operation.isLoadTop, idle]

theorem flagMatches_loadTop (stream : Stream) (s : System T) (inv : FlagMatches stream s) :
    FlagMatches stream (s.afterCall s.source.loadTop) := by
  cases idle : s.source.isLoadingTop with
  | true =>
    rw [afterCall_loadTop_skips s idle]
    exact inv
  | false =>
    rw [flagMatches_iff] at inv ⊢
    rw [afterCall_loadTop_sends s idle, pending_append stream s _ _ rfl, inv]
    cases stream <;> simp [Stream.owns, Stream.isLoading, Operation.isLoadBottom,
      Operation.isLoadTop, idle]

section

variable {Description : Type v} [DecidableEq Description] [ATCGenericBaseModel T Description]

/-- A successful reply lowers the flag of its stream and takes one request away. -/
theorem flagMatches_success (stream : Stream) (s : System T) (index : Nat) (sent : Sent)
    (rest : List Sent) (response : Response) (inv : FlagMatches stream s)
    (answered : deliver s.inFlight index = some (sent, rest))
    (ok : response.status = .success) :
    FlagMatches stream (s.afterReply sent rest response) := by
  rw [flagMatches_iff] at inv ⊢
  have counted := pending_deliver stream s index sent rest answered
  have left : pending stream (s.afterReply sent rest response) =
      rest.countP fun r => stream.owns r.request.operation := rfl
  have lowered : stream.isLoading (s.afterReply sent rest response).source =
      (stream.isLoading s.source && !stream.owns sent.request.operation) := by
    rw [afterReply_source_success s sent rest response ok]
    cases stream <;> rfl
  rw [left, lowered]
  cases hflag : stream.isLoading s.source <;>
    cases howns : stream.owns sent.request.operation <;>
    simp only [hflag, howns, Bool.toNat_true, Bool.toNat_false, Bool.and_true, Bool.and_false,
      Bool.not_true, Bool.not_false] at inv counted ⊢ <;>
    omega

/-- A failed reply keeps the flag as it is and takes the request away, so afterwards
the two agree exactly when the request was none of the stream's. -/
theorem flagMatches_failure (stream : Stream) (s : System T) (index : Nat) (sent : Sent)
    (rest : List Sent) (response : Response) (message : Option String)
    (inv : FlagMatches stream s) (answered : deliver s.inFlight index = some (sent, rest))
    (failed : response.status = .error message) :
    FlagMatches stream (s.afterReply sent rest response) ↔
      stream.owns sent.request.operation = false := by
  rw [flagMatches_iff] at inv ⊢
  have counted := pending_deliver stream s index sent rest answered
  have left : pending stream (s.afterReply sent rest response) =
      rest.countP fun r => stream.owns r.request.operation := rfl
  rw [left, afterReply_source_error s sent rest response failed]
  cases hflag : stream.isLoading s.source <;>
    cases howns : stream.owns sent.request.operation <;>
    simp only [hflag, howns, Bool.toNat_true, Bool.toNat_false, iff_true, iff_false,
      Bool.true_eq_false] at inv counted ⊢ <;>
    omega

/-- From a state whose flags match, a step keeps them matching exactly when it is
no failed reply to the stream. -/
theorem flagMatches_step_iff (stream : Stream) (s : System T) (e : Event) (t : System T)
    (inv : FlagMatches stream s) (taken : step s e = some t) :
    FlagMatches stream t ↔ ¬ FailedReply stream s e := by
  rcases step_cases taken with ⟨rfl, rfl⟩ | ⟨rfl, rfl⟩ | ⟨rfl, rfl⟩ |
    ⟨index, response, sent, rest, rfl, answered, rfl⟩
  · simp [FailedReply, flagMatches_loadFirst stream s inv]
  · simp [FailedReply, flagMatches_loadBottom stream s inv]
  · simp [FailedReply, flagMatches_loadTop stream s inv]
  · cases hstatus : response.status with
    | success =>
      simp [FailedReply, hstatus, flagMatches_success stream s index sent rest response inv
        answered hstatus]
    | error message =>
      rw [flagMatches_failure stream s index sent rest response message inv answered hstatus]
      simp [FailedReply, hstatus, answered]

/-- When a step is no failed reply to either stream, only a `loadFirst` request can
have failed, and that leaves the data source as it was. -/
theorem recovers_of_no_failed_load (s : System T) (e : Event) (t : System T)
    (taken : step s e = some t) (ok : ∀ stream, ¬ FailedReply stream s e) :
    Recovers s e t := by
  intro index response message sent rest he failed answered
  subst he
  have howns : ∀ stream : Stream, stream.owns sent.request.operation = false := by
    intro stream
    by_contra h
    exact ok stream ⟨index, response, message, sent, rest, rfl, failed, answered, by simpa using h⟩
  have hfirst : sent.request.operation = .loadFirst := by
    have hbottom := howns .bottom
    have htop := howns .top
    cases hop : sent.request.operation <;>
      simp_all [Stream.owns, Operation.isLoadBottom, Operation.isLoadTop]
  simp only [step, answered, Option.some.injEq] at taken
  subst taken
  rw [afterReply_source_error s sent rest response failed, hfirst]
  exact ⟨rfl, .inl rfl⟩

theorem flagMatches_initial (configuration : ATCGenericRestAPIDataSourceConfiguration)
    (stream : Stream) : FlagMatches stream (System.initial configuration : System T) := by
  rw [flagMatches_iff]
  cases stream <;> rfl

/-- Along every run from an empty data source: both flags agree with the requests in
flight in every state reached, and every failed reply leaves the data source ready
for the next request, exactly when no `loadBottom` or `loadTop` reply fails. -/
theorem flags_match_iff_no_failed_load
    (configuration : ATCGenericRestAPIDataSourceConfiguration) (es : List Event) :
    AlongRun step (fun s e t => (∀ stream, FlagMatches stream t) ∧ Recovers s e t)
        (System.initial configuration : System T) es ↔
      AlongRun step (fun s e _ => ∀ stream, ¬ FailedReply stream s e)
        (System.initial configuration : System T) es := by
  apply alongRun_iff_of_invariant fun s => ∀ stream, FlagMatches stream s
  · intro s e t inv taken
    constructor
    · rintro ⟨after, -⟩ stream
      exact (flagMatches_step_iff stream s e t (inv stream) taken).mp (after stream)
    · intro ok
      exact ⟨fun stream => (flagMatches_step_iff stream s e t (inv stream) taken).mpr (ok stream),
        recovers_of_no_failed_load s e t taken ok⟩
  · intro s e t inv taken ok stream
    exact (flagMatches_step_iff stream s e t (inv stream) taken).mpr (ok stream)
  · exact flagMatches_initial configuration

end

/-- A first page, a scroll to its end, and a network error. Afterwards the flag is
raised with nothing in flight, and the next `loadBottom` call sends nothing. -/
theorem flags_match_fails_after_network_error :
    ¬ ∀ (es : List Event) (s : System TitledRow),
      run step (System.initial sampleConfiguration) es = some s → FlagMatches .bottom s := by
  intro claim
  have bad := claim [.loadFirst, .reply 0 ⟨some (titledPage ["AAPL"]), .success⟩,
    .loadBottom, .reply 0 ⟨none, .error none⟩] _ rfl
  exact absurd bad.1 (by decide)

end FinanciaApp.Guarantees
