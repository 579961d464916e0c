import FinanciaApp.Library.Numbering
import FinanciaApp.Source.RestAPISystem

/-!
# The page cursor of a REST data source

`loadBottom` reads `currentPage` when it sends a request; a successful `loadBottom`
reply adds one to whatever the cursor is by then, and a successful `loadFirst` reply
puts it back to one. The pages that `loadBottom` fetches are `1, 2, …, k` exactly
when every successful `loadBottom` request was sent after a first page had arrived
and before any first page that arrived after the first bottom page.

The cursor is a function of the delivery log (`cursorOf`), it is one more than the
number of bottom pages exactly when the log is in sequence (`cursorOf_eq_succ_iff`),
and the guard of `loadBottom` keeps bottom replies from landing between the moment a
bottom request is sent and its own reply (`Timed`).
-/

set_option autoImplicit false

namespace FinanciaApp.Guarantees

open Library Source Source.ATCGenericRestAPIDataSource

universe u v

/-- The reply succeeded. -/
def succeeded (d : Delivery) : Bool :=
  match d.response.status with
  | .success => true
  | .error _ => false

def firstLoaded (d : Delivery) : Bool :=
  d.sent.request.operation = .loadFirst && succeeded d

def bottomLoaded (d : Delivery) : Bool :=
  d.sent.request.operation.isLoadBottom && succeeded d

/-- The page that a successful `loadBottom` request asked for. -/
def fetchedPage (d : Delivery) : Option Nat :=
  match d.sent.request.operation with
  | .loadBottom page => if succeeded d then some page else none
  | _ => none

/-- No first page has arrived after the first bottom page. -/
def noFirstAfterBottom : List Delivery → Bool
  | [] => true
  | d :: log =>
    if bottomLoaded d then log.all fun later => !firstLoaded later else noFirstAfterBottom log

/-- A first page has arrived, and none has arrived since the first bottom page. -/
def InSequence (log : List Delivery) : Bool :=
  log.any firstLoaded && noFirstAfterBottom log

/-- Every successful `loadBottom` request was sent while the log was in sequence. -/
def SentInSequence (log : List Delivery) : Prop :=
  ∀ d ∈ log, bottomLoaded d = true → InSequence (log.take d.sent.sentAfter) = true

instance (log : List Delivery) : Decidable (SentInSequence log) :=
  inferInstanceAs (Decidable (∀ d ∈ log, _ → _))

/-- How many bottom pages have arrived. -/
def bottomCount (log : List Delivery) : Nat := log.countP bottomLoaded

/-- The cursor that a log of deliveries leaves behind. -/
def cursorOf (log : List Delivery) : Nat :=
  log.foldl
    (fun page d => if succeeded d then nextPage d.sent.request.operation page else page) 0

theorem cursorOf_concat (log : List Delivery) (d : Delivery) :
    cursorOf (log ++ [d]) =
      if succeeded d then nextPage d.sent.request.operation (cursorOf log)
      else cursorOf log := by
  simp [cursorOf]

theorem bottomCount_concat (log : List Delivery) (d : Delivery) :
    bottomCount (log ++ [d]) = bottomCount log + (bottomLoaded d).toNat :=
  countP_concat bottomLoaded log d

theorem numbers_length (log : List Delivery) :
    (numbers fetchedPage log).length = bottomCount log := by
  induction log with
  | nil => rfl
  | cons d log ih =>
    have hd : (fetchedPage d).isSome = bottomLoaded d := by
      unfold fetchedPage bottomLoaded
      cases d.sent.request.operation <;> cases succeeded d <;> rfl
    simp only [numbers, bottomCount, List.filterMap_cons, List.countP_cons] at ih ⊢
    cases hpage : fetchedPage d <;> simp_all

/-! ## The cursor as a function of the log -/

theorem not_bottomLoaded_of_firstLoaded (d : Delivery) (hfirst : firstLoaded d = true) :
    bottomLoaded d = false := by
  simp only [firstLoaded, Bool.and_eq_true, decide_eq_true_eq] at hfirst
  simp [bottomLoaded, hfirst.1, Operation.isLoadBottom]

theorem noFirstAfterBottom_concat (log : List Delivery) (d : Delivery) :
    noFirstAfterBottom (log ++ [d]) =
      (noFirstAfterBottom log && (bottomCount log = 0 || !firstLoaded d)) := by
  induction log with
  | nil => cases hd : bottomLoaded d <;> simp [noFirstAfterBottom, bottomCount, hd]
  | cons x log ih =>
    cases hx : bottomLoaded x with
    | true => simp [noFirstAfterBottom, bottomCount, hx, List.all_append]
    | false =>
      simp only [List.cons_append, noFirstAfterBottom, hx, Bool.false_eq_true, if_false, ih]
      simp [bottomCount, hx]

/-- What one delivery does to the cursor. -/
theorem cursorOf_concat_cases (log : List Delivery) (d : Delivery) :
    (firstLoaded d = true ∧ cursorOf (log ++ [d]) = 1) ∨
    (bottomLoaded d = true ∧ cursorOf (log ++ [d]) = cursorOf log + 1) ∨
    (firstLoaded d = false ∧ bottomLoaded d = false ∧ cursorOf (log ++ [d]) = cursorOf log) := by
  rw [cursorOf_concat]
  cases hok : succeeded d with
  | false => simp [firstLoaded, bottomLoaded, hok]
  | true =>
    cases hop : d.sent.request.operation <;>
      simp [firstLoaded, bottomLoaded, hok, hop, nextPage, Operation.isLoadBottom]

/-- Before any first page the cursor counts the bottom pages; while the log is in
sequence it is one ahead of them; afterwards it never catches up again. -/
theorem cursorOf_spec (log : List Delivery) :
    (log.any firstLoaded = false → cursorOf log = bottomCount log) ∧
    (log.any firstLoaded = true → noFirstAfterBottom log = true →
      cursorOf log = bottomCount log + 1) ∧
    (noFirstAfterBottom log = false → 1 ≤ bottomCount log ∧ cursorOf log ≤ bottomCount log) := by
  induction log using List.reverseRecOn with
  | nil => simp [cursorOf, bottomCount, noFirstAfterBottom]
  | append_singleton log d ih =>
    obtain ⟨before, inSequence, rewound⟩ := ih
    rw [noFirstAfterBottom_concat, bottomCount_concat, List.any_append]
    rcases cursorOf_concat_cases log d with ⟨hfirst, hc⟩ | ⟨hbottom, hc⟩ | ⟨hfirst, hbottom, hc⟩
    · rw [hc, not_bottomLoaded_of_firstLoaded d hfirst]
      by_cases hn : bottomCount log = 0
      · have notRewound : noFirstAfterBottom log = true := by
          by_contra h
          have := (rewound (by simpa using h)).1
          omega
        simp [hfirst, hn, notRewound]
      · simp [hfirst, hn]
        omega
    · have hfirst : firstLoaded d = false := by
        by_contra h
        have := not_bottomLoaded_of_firstLoaded d (by simpa using h)
        simp [hbottom] at this
      simp only [hc, hbottom, hfirst, List.any_cons, List.any_nil, Bool.or_false, Bool.not_false,
        Bool.or_true, Bool.and_true, Bool.toNat_true]
      refine ⟨fun h => ?_, fun h h' => ?_, fun h => ?_⟩
      · rw [before h]
      · rw [inSequence h h']
      · have := rewound h
        omega
    · simp only [hc, hbottom, hfirst, List.any_cons, List.any_nil, Bool.or_false, Bool.not_false,
        Bool.or_true, Bool.and_true, Bool.toNat_false, Nat.add_zero]
      exact ⟨before, inSequence, rewound⟩

/-- The cursor is one ahead of the bottom pages exactly while the log is in sequence. -/
theorem cursorOf_eq_succ_iff (log : List Delivery) :
    cursorOf log = bottomCount log + 1 ↔ InSequence log = true := by
  obtain ⟨before, inSequence, rewound⟩ := cursorOf_spec log
  unfold InSequence
  cases hany : log.any firstLoaded with
  | false =>
    have := before hany
    simp [this]
  | true =>
    cases hno : noFirstAfterBottom log with
    | true => simp [inSequence hany hno]
    | false =>
      have := (rewound hno).2
      simp
      omega

/-! ## The invariant of a run -/

/-- A request sent when the log was a prefix of `log`, with no bottom page since if it
is a bottom request, and asking for the page that the prefix left the cursor on. -/
def Timed (log : List Delivery) (sent : Sent) : Prop :=
  sent.sentAfter ≤ log.length ∧
    ∀ page, sent.request.operation = .loadBottom page →
      page = cursorOf (log.take sent.sentAfter) ∧
        bottomCount (log.take sent.sentAfter) = bottomCount log

structure PageInvariant {T : Type u} (s : System T) : Prop where
  cursor : s.source.currentPage = cursorOf s.delivered
  guarded : s.inFlight.countP (fun sent => sent.request.operation.isLoadBottom) ≤
    s.source.isLoadingBottom.toNat
  sent : ∀ sent ∈ s.inFlight, Timed s.delivered sent
  log : ∀ i d, s.delivered[i]? = some d → Timed (s.delivered.take i) d.sent

theorem timed_now (log : List Delivery) (request : Request)
    (page : ∀ n, request.operation = .loadBottom n → n = cursorOf log) :
    Timed log ⟨request, log.length⟩ :=
  ⟨Nat.le_refl _, fun n hn => by simpa using page n hn⟩

theorem timed_concat (log : List Delivery) (sent : Sent) (d : Delivery) (h : Timed log sent)
    (frozen : sent.request.operation.isLoadBottom = true → bottomLoaded d = false) :
    Timed (log ++ [d]) sent := by
  obtain ⟨bound, page⟩ := h
  refine ⟨by simp; omega, fun n hn => ?_⟩
  have hd : bottomLoaded d = false := frozen (by simp [hn, Operation.isLoadBottom])
  rw [List.take_append_of_le_length bound, bottomCount_concat, hd]
  exact page n hn

section

variable {T : Type u}

theorem pageInvariant_initial (configuration : ATCGenericRestAPIDataSourceConfiguration) :
    PageInvariant (System.initial configuration : System T) where
  cursor := rfl
  guarded := Nat.le_refl _
  sent := by simp [System.initial]
  log := by simp [System.initial]

/-- A call that sends a request keeps the invariant when the request is no bottom
request, or is the only one and asks for the current page. -/
theorem pageInvariant_send (s t : System T) (request : Request) (inv : PageInvariant s)
    (cursor : t.source.currentPage = s.source.currentPage)
    (inFlight : t.inFlight = s.inFlight ++ [⟨request, s.delivered.length⟩])
    (delivered : t.delivered = s.delivered)
    (page : ∀ n, request.operation = .loadBottom n → n = s.source.currentPage)
    (guarded : s.inFlight.countP (fun sent => sent.request.operation.isLoadBottom) +
      request.operation.isLoadBottom.toNat ≤ t.source.isLoadingBottom.toNat) :
    PageInvariant t where
  cursor := by rw [cursor, delivered, inv.cursor]
  guarded := by
    rw [inFlight, countP_concat]
    exact guarded
  sent := by
    intro sent hsent
    rw [inFlight, List.mem_append, List.mem_singleton] at hsent
    rw [delivered]
    rcases hsent with old | rfl
    · exact inv.sent sent old
    · exact timed_now s.delivered request fun n hn => (page n hn).trans inv.cursor
  log := by
    rw [delivered]
    exact inv.log

theorem pageInvariant_loadBottom (s : System T) (inv : PageInvariant s) :
    PageInvariant (s.afterCall s.source.loadBottom) := by
  cases guarded : s.source.isLoadingBottom || s.source.bottomStreamLoadingEnded with
  | true =>
    rw [afterCall_loadBottom_skips s guarded]
    exact inv
  | false =>
    obtain ⟨idle, more⟩ := Bool.or_eq_false_iff.mp guarded
    rw [afterCall_loadBottom_sends s idle more]
    refine pageInvariant_send s _ _ inv rfl rfl rfl (fun n hn => ?_) ?_
    · simpa using hn.symm
    · have none := inv.guarded
      rw [idle, Bool.toNat_false] at none
      exact Nat.add_le_add_right none 1

theorem pageInvariant_loadTop (s : System T) (inv : PageInvariant s) :
    PageInvariant (s.afterCall s.source.loadTop) := by
  cases idle : s.source.isLoadingTop with
  | true =>
    rw [afterCall_loadTop_skips s idle]
    exact inv
  | false =>
    rw [afterCall_loadTop_sends s idle]
    exact pageInvariant_send s _ _ inv rfl rfl rfl (by simp) (by
      simpa [Operation.isLoadBottom] using inv.guarded)

variable {Description : Type v} [DecidableEq Description] [ATCGenericBaseModel T Description]

theorem afterReply_cursor (s : System T) (sent : Sent) (rest : List Sent) (response : Response)
    (inv : PageInvariant s) :
    (s.afterReply sent rest response).source.currentPage =
      cursorOf (s.delivered ++ [⟨sent, response⟩]) := by
  rw [cursorOf_concat, ← inv.cursor]
  cases hstatus : response.status with
  | success =>
    rw [afterReply_source_success s sent rest response hstatus]
    simp [succeeded, hstatus]
  | error message =>
    rw [afterReply_source_error s sent rest response hstatus]
    simp [succeeded, hstatus]

theorem afterReply_guarded (s : System T) (index : Nat) (sent : Sent) (rest : List Sent)
    (response : Response) (inv : PageInvariant s)
    (answered : deliver s.inFlight index = some (sent, rest)) :
    rest.countP (fun r => r.request.operation.isLoadBottom) ≤
      (s.afterReply sent rest response).source.isLoadingBottom.toNat := by
  have counted := deliver_countP (fun r : Sent => r.request.operation.isLoadBottom) answered
  have bound := inv.guarded
  cases hstatus : response.status with
  | success =>
    rw [afterReply_source_success s sent rest response hstatus]
    cases hop : sent.request.operation.isLoadBottom <;>
      simp only [hop, Bool.not_true, Bool.not_false, Bool.and_true, Bool.and_false,
        Bool.toNat_true, Bool.toNat_false] at counted ⊢
    · omega
    · have := Bool.toNat_le s.source.isLoadingBottom
      omega
  | error message =>
    rw [afterReply_source_error s sent rest response hstatus]
    omega

/-- Two bottom requests are never in flight together, so no bottom page arrives while
another bottom request is waiting. -/
theorem frozen_while_waiting (s : System T) (index : Nat) (sent : Sent) (rest : List Sent)
    (response : Response) (inv : PageInvariant s)
    (answered : deliver s.inFlight index = some (sent, rest)) (other : Sent)
    (waiting : other ∈ rest) (bottom : other.request.operation.isLoadBottom = true) :
    bottomLoaded ⟨sent, response⟩ = false := by
  have counted := deliver_countP (fun r : Sent => r.request.operation.isLoadBottom) answered
  have one : 0 < rest.countP fun r => r.request.operation.isLoadBottom :=
    List.countP_pos_iff.mpr ⟨other, waiting, bottom⟩
  have bound := inv.guarded
  have flag := Bool.toNat_le s.source.isLoadingBottom
  cases hop : sent.request.operation.isLoadBottom with
  | false => simp [bottomLoaded, hop]
  | true =>
    simp only [hop, Bool.toNat_true] at counted
    omega

theorem pageInvariant_step (s : System T) (e : Event) (t : System T) (inv : PageInvariant s)
    (taken : step s e = some t) : PageInvariant t := by
  rcases step_cases taken with ⟨rfl, rfl⟩ | ⟨rfl, rfl⟩ | ⟨rfl, rfl⟩ |
    ⟨index, response, sent, rest, rfl, answered, rfl⟩
  · exact pageInvariant_send s _ _ inv rfl rfl rfl (by simp) (by
      simpa [Operation.isLoadBottom, afterCall_loadFirst] using inv.guarded)
  · exact pageInvariant_loadBottom s inv
  · exact pageInvariant_loadTop s inv
  · refine ⟨afterReply_cursor s sent rest response inv,
      afterReply_guarded s index sent rest response inv answered, ?_, ?_⟩
    · intro other waiting
      exact timed_concat s.delivered other ⟨sent, response⟩
        (inv.sent other (deliver_rest_subset answered other waiting))
        (frozen_while_waiting s index sent rest response inv answered other waiting)
    · intro i d hd
      rw [afterReply_delivered] at hd ⊢
      obtain ⟨bound, -⟩ := List.getElem?_eq_some_iff.mp hd
      rw [List.length_append, List.length_singleton] at bound
      rcases Nat.lt_succ_iff_lt_or_eq.mp bound with hi | rfl
      · rw [List.getElem?_append_left hi] at hd
        rw [List.take_append_of_le_length (Nat.le_of_lt hi)]
        exact inv.log i d hd
      · simp only [List.getElem?_concat_length, Option.some.injEq] at hd
        subst hd
        rw [List.take_left]
        exact inv.sent sent (deliver_mem answered)

/-- In a log whose requests are timed, a bottom page is the next one in line exactly
when its request was sent in sequence. -/
theorem page_is_next_iff (log : List Delivery) (i : Nat) (d : Delivery) (page : Nat)
    (timed : Timed (log.take i) d.sent) (bound : i ≤ log.length)
    (hpage : fetchedPage d = some page) :
    page = (numbers fetchedPage (log.take i)).length + 1 ↔
      InSequence (log.take d.sent.sentAfter) = true := by
  have hop : d.sent.request.operation = .loadBottom page := by
    unfold fetchedPage at hpage
    split at hpage
    · rename_i n hn
      split at hpage
      · cases hpage
        exact hn
      · cases hpage
    · cases hpage
  obtain ⟨early, asked⟩ := timed
  obtain ⟨hcursor, hcount⟩ := asked page hop
  have htake : (log.take i).take d.sent.sentAfter = log.take d.sent.sentAfter := by
    rw [List.take_take, Nat.min_eq_left]
    rw [List.length_take, Nat.min_eq_left bound] at early
    exact early
  rw [htake] at hcursor hcount
  rw [numbers_length, ← hcount, hcursor]
  exact cursorOf_eq_succ_iff _

/-- In every run from an empty data source, the pages of the successful `loadBottom`
requests, in order of delivery, are `1, 2, …, k` exactly when each of those requests
was sent in sequence: after a first page had arrived, and with no first page arriving
between the first bottom page and the sending of the request. -/
theorem pages_in_order_iff (configuration : ATCGenericRestAPIDataSourceConfiguration)
    (es : List Event) (s : System T) (h : run step (System.initial configuration) es = some s) :
    NumberedFromOne fetchedPage s.delivered ↔ SentInSequence s.delivered := by
  have inv : PageInvariant s :=
    run_invariant PageInvariant pageInvariant_step (pageInvariant_initial configuration) h
  have isBottom : ∀ d, bottomLoaded d = true ↔ ∃ page, fetchedPage d = some page := by
    intro d
    unfold bottomLoaded fetchedPage
    cases d.sent.request.operation <;> cases succeeded d <;> simp [Operation.isLoadBottom]
  rw [numberedFromOne_iff]
  constructor
  · intro inOrder d hd hbottom
    obtain ⟨page, hpage⟩ := (isBottom d).mp hbottom
    obtain ⟨i, hi⟩ := List.mem_iff_getElem?.mp hd
    obtain ⟨bound, -⟩ := List.getElem?_eq_some_iff.mp hi
    exact (page_is_next_iff s.delivered i d page (inv.log i d hi) (Nat.le_of_lt bound) hpage).mp
      (inOrder i d page hi hpage)
  · intro sequenced i d page hi hpage
    obtain ⟨bound, -⟩ := List.getElem?_eq_some_iff.mp hi
    exact (page_is_next_iff s.delivered i d page (inv.log i d hi) (Nat.le_of_lt bound) hpage).mpr
      (sequenced d (List.mem_of_getElem? hi) ((isBottom d).mpr ⟨page, hpage⟩))

end

/-- A first page, then two bottom pages, each sent after the reply to the one before. -/
def scrolledTwice : List Event :=
  [.loadFirst, .reply 0 ⟨some (titledPage ["AAPL"]), .success⟩,
    .loadBottom, .reply 0 ⟨some (titledPage ["TSLA"]), .success⟩,
    .loadBottom, .reply 0 ⟨some (titledPage ["MSFT"]), .success⟩]

theorem pages_in_order_scrolledTwice :
    ∃ s : System TitledRow,
      run step (System.initial sampleConfiguration) scrolledTwice = some s ∧
      NumberedFromOne fetchedPage s.delivered :=
  ⟨_, rfl, (pages_in_order_iff sampleConfiguration scrolledTwice _ rfl).mpr (by decide)⟩

/-- A first page, a bottom page, the first page again as on a change of the chart
range, and one more bottom page: page 1 is fetched twice. -/
theorem pages_in_order_fails_after_second_loadFirst :
    ¬ ∀ (es : List Event) (s : System TitledRow),
      run step (System.initial sampleConfiguration) es = some s →
        NumberedFromOne fetchedPage s.delivered := by
  intro claim
  have bad := claim
    [.loadFirst, .reply 0 ⟨some (titledPage ["AAPL"]), .success⟩,
      .loadBottom, .reply 0 ⟨some (titledPage ["TSLA"]), .success⟩,
      .loadFirst, .reply 0 ⟨some (titledPage ["AAPL"]), .success⟩,
      .loadBottom, .reply 0 ⟨some (titledPage ["TSLA"]), .success⟩] _ rfl
  exact absurd bad (by decide)

end FinanciaApp.Guarantees
