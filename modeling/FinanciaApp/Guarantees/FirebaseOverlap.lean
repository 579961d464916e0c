import FinanciaApp.Source.FirebaseSystem

/-!
# Overlapping bottom pages

`loadBottom` of the Firebase data source is guarded by the finished flag only. Two
calls before the first reply send the same query twice, and the second reply appends
a page that is stored already. Over a static table no child is stored twice along
exactly the runs in which every delivered page was asked for from the current cursor
or has no row behind the one that is discarded.

The invariant says what a query in flight can still bring: from the current cursor
only new rows (they lie behind every stored key), from an older one only stored rows.
-/

set_option autoImplicit false

namespace FinanciaApp.Guarantees

open Library Source Source.ATCGenericFirebaseDataSource

universe u w

/-- What happens once the first page is there: `loadBottom` calls and replies. -/
inductive Paging where
  | loadBottom
  | reply (index : Nat)
  deriving DecidableEq, Repr

variable {T : Type u} {K : Type w} [LinearOrder K]

/-- The event, over a table that does not change. -/
def Paging.event (table : Table K) : Paging → Event K
  | .loadBottom => .loadBottom
  | .reply index => .reply index table

/-- The rows that the reply to a query carries, the discarded one included. -/
def pageRows (table : Table K) (sent : Sent K) : List (DataSnapshot K) :=
  dictionaryChildren (sent.query.observeSingleEvent table)

/-- The reply answers a query sent from the current cursor, or its page has no second
row. -/
def AnswersCurrentCursor (table : Table K) (s : System T K) (e : Paging) : Prop :=
  ∀ index sent rest, e = .reply index → deliver s.inFlight index = some (sent, rest) →
    sent.query.startingAt = s.source.lastFetchedObjectKey ∨ (pageRows table sent).length ≤ 1

/-- A query that `loadBottom` sent from a key not behind the cursor. -/
structure SentFrom (cursor : Option K) (sent : Sent K) : Prop where
  operation : sent.query.operation = .loadBottom
  limit : sent.query.limit = kItemsPerPage + 1
  starting : ∃ start key, sent.query.startingAt = some start ∧ cursor = some key ∧ start ≤ key

/-- A query from an older cursor brings only stored children; if it brings none, the
source has finished and no query from the current cursor is in flight. -/
structure Outdated (table : Table K) (s : System T K) (sent : Sent K) : Prop where
  known : ∀ child ∈ (pageRows table sent).tail, child ∈ s.stored
  exhausted : (pageRows table sent).tail = [] →
    s.source.didFinishLoadingBottom = true ∧
    (sent.query.observeSingleEvent table).getLast?.map DataSnapshot.key =
      s.source.lastFetchedObjectKey ∧
    ∀ other ∈ s.inFlight, other.query.startingAt ≠ s.source.lastFetchedObjectKey

section

variable [ATCGenericFirebaseParsable T K]

/-- No child is stored twice. -/
structure StoredOnce (s : System T K) : Prop where
  store : s.source.store = parseResults s.stored
  once : (s.stored.map DataSnapshot.key).Nodup

structure PagingInvariant (table : Table K) (s : System T K) : Prop where
  store : s.source.store = parseResults s.stored
  ordered : OrderedByKey DataSnapshot.key s.stored
  below : ∀ child ∈ s.stored, ∀ key, s.source.lastFetchedObjectKey = some key → child.key ≤ key
  queries : ∀ sent ∈ s.inFlight, SentFrom s.source.lastFetchedObjectKey sent
  outdated : ∀ sent ∈ s.inFlight,
    sent.query.startingAt ≠ s.source.lastFetchedObjectKey → Outdated table s sent

/-- One event after the first page. -/
def pagingStep (table : Table K) (s : System T K) (e : Paging) : Option (System T K) :=
  step s (e.event table)

theorem PagingInvariant.storedOnce {table : Table K} {s : System T K}
    (inv : PagingInvariant table s) : StoredOnce s := ⟨inv.store, inv.ordered.nodup⟩

omit [ATCGenericFirebaseParsable T K] in
/-- Two `loadBottom` queries from one key observe the same page. -/
theorem observe_eq_of_starting_eq (table : Table K) {sent other : Sent K}
    (limit : sent.query.limit = other.query.limit)
    (starting : sent.query.startingAt = other.query.startingAt) :
    sent.query.observeSingleEvent table = other.query.observeSingleEvent table := by
  simp only [Query.observeSingleEvent, limit, starting]

omit [ATCGenericFirebaseParsable T K] in
theorem SentFrom.le {cursor : Option K} {sent : Sent K} (h : SentFrom cursor sent) {key : K}
    (current : cursor = some key) : ∃ start, sent.query.startingAt = some start ∧ start ≤ key := by
  obtain ⟨start, key', starting, cursor', le⟩ := h.starting
  obtain rfl : key' = key := Option.some.inj (cursor'.symm.trans current)
  exact ⟨start, starting, le⟩

theorem pagingInvariant_firstPage (tableName : String) (table : Table K) (s : System T K)
    (loaded : run step (.initial tableName) [.loadFirst, .reply 0 table] = some s) :
    PagingInvariant table s := by
  have first : s = System.withFirstPage (.initial tableName) []
      (table.children.take kItemsPerPage) := by
    have replied := afterReply_loadFirst (T := T)
      (.send (.initial tableName) (new (T := T) tableName).loadFirst)
      ⟨(new (T := T) tableName).loadFirst, none⟩ [] table rfl
    exact (Option.some.inj loaded).symm.trans replied
  subst first
  refine ⟨?_, ?_, ?_, ?_, ?_⟩
  · simp [System.withFirstPage, System.initial, new, parseResults_dictionaryChildren]
  · exact table.ordered.sublist
      ((dictionaryChildren_sublist _).trans (List.take_sublist _ _))
  · intro child member key cursor
    obtain ⟨last, found, rfl⟩ := Option.map_eq_some_iff.mp cursor
    have inPage : child ∈ table.children.take kItemsPerPage :=
      (dictionaryChildren_sublist _).mem member
    exact (table.ordered.sublist (List.take_sublist _ _)).le_last found inPage
  · intro sent member
    cases member
  · intro sent member
    cases member

theorem pagingInvariant_send (table : Table K) (s : System T K) (key : K)
    (inv : PagingInvariant table s) (more : s.source.didFinishLoadingBottom = false)
    (cursor : s.source.lastFetchedObjectKey = some key) :
    PagingInvariant table
      (s.send ⟨.loadBottom, s.source.dbChild, some key, kItemsPerPage + 1⟩) := by
  refine ⟨inv.store, inv.ordered, inv.below, ?_, ?_⟩
  · intro sent member
    rcases List.mem_append.mp member with old | new
    · exact inv.queries sent old
    · rw [List.mem_singleton.mp new]
      exact ⟨rfl, rfl, key, key, rfl, cursor, le_refl key⟩
  · intro sent member older
    rcases List.mem_append.mp member with old | new
    · obtain ⟨known, exhausted⟩ := inv.outdated sent old older
      refine ⟨known, fun none => ?_⟩
      have ended := (exhausted none).1
      rw [more] at ended
      cases ended
    · rw [List.mem_singleton.mp new] at older
      exact absurd cursor.symm older

theorem pagingInvariant_emptyPage (table : Table K) (s : System T K) (rest : List (Sent K))
    (subset : ∀ sent ∈ rest, sent ∈ s.inFlight) (inv : PagingInvariant table s)
    (trap : Option Trap) :
    PagingInvariant table { s with inFlight := rest, trapped := trap } := by
  refine ⟨inv.store, inv.ordered, inv.below,
    fun sent member => inv.queries sent (subset sent member),
    fun sent member older => ?_⟩
  obtain ⟨known, exhausted⟩ := inv.outdated sent (subset sent member) older
  refine ⟨known, fun none => ?_⟩
  obtain ⟨ended, last, others⟩ := exhausted none
  exact ⟨ended, last, fun other member => others other (subset other member)⟩

/-- The reply to a query from an older cursor that brings no row changes no data. -/
theorem pagingInvariant_outdated (table : Table K) (s : System T K)
    (rest : List (Sent K)) (last : DataSnapshot K)
    (subset : ∀ other ∈ rest, other ∈ s.inFlight) (inv : PagingInvariant table s)
    (same : s.source.lastFetchedObjectKey = some last.key)
    (others : ∀ other ∈ s.inFlight, other.query.startingAt ≠ s.source.lastFetchedObjectKey) :
    PagingInvariant table (s.withBottomPage rest [] last) := by
  refine ⟨?_, ?_, ?_, ?_, ?_⟩
  · simpa [System.withBottomPage, parseResults] using inv.store
  · simpa [System.withBottomPage] using inv.ordered
  · intro child member key cursor
    simp only [System.withBottomPage, List.append_nil] at member cursor
    exact inv.below child member key (same.trans cursor)
  · intro other member
    simpa only [System.withBottomPage, same] using inv.queries other (subset other member)
  · intro other member _
    obtain ⟨known, exhausted⟩ :=
      inv.outdated other (subset other member) (others other (subset other member))
    refine ⟨fun child inTail => List.mem_append_left _ (known child inTail), fun none => ?_⟩
    obtain ⟨-, sameLast, -⟩ := exhausted none
    refine ⟨rfl, sameLast.trans same, fun third inRest => ?_⟩
    simpa only [System.withBottomPage, same] using others third (subset third inRest)

/-- Once the page from the current cursor is stored, every query that starts elsewhere
than at its end is outdated. -/
theorem outdated_after_current (table : Table K) (s : System T K) (sent other : Sent K)
    (rest : List (Sent K)) (discarded last : DataSnapshot K) (fresh : List (DataSnapshot K))
    (start : K) (answered : sent ∈ s.inFlight) (subset : ∀ other ∈ rest, other ∈ s.inFlight)
    (member : other ∈ rest) (inv : PagingInvariant table s)
    (starting : sent.query.startingAt = some start)
    (cursor : s.source.lastFetchedObjectKey = some start) (advanced : start ≤ last.key)
    (page : pageRows table sent = discarded :: fresh)
    (ends : (sent.query.observeSingleEvent table).getLast? = some last)
    (older : other.query.startingAt ≠ some last.key) :
    Outdated table (s.withBottomPage rest fresh last) other := by
  have otherQuery := inv.queries other (subset other member)
  by_cases same : other.query.startingAt = some start
  · -- another query for the same page: what it brings has just been stored
    have observe : other.query.observeSingleEvent table = sent.query.observeSingleEvent table :=
      observe_eq_of_starting_eq table
        (otherQuery.limit.trans (inv.queries sent answered).limit.symm) (same.trans starting.symm)
    have tail : (pageRows table other).tail = fresh := by
      rw [pageRows, observe, ← pageRows, page, List.tail_cons]
    refine ⟨fun child inTail => List.mem_append_right _ (tail ▸ inTail), fun none => ?_⟩
    have moved : start ≠ last.key := fun stays => older (same.trans (congrArg some stays))
    refine ⟨?_, by rw [observe, ends]; rfl, fun third inRest atLast => ?_⟩
    · simp only [System.withBottomPage, List.isEmpty_iff]
      exact tail.symm.trans none
    · obtain ⟨start', starting', le⟩ := (inv.queries third (subset third inRest)).le cursor
      have : start' = last.key := Option.some.inj (starting'.symm.trans atLast)
      exact moved (le_antisymm advanced (this ▸ le))
  · -- it was outdated before, and then a page without rows is not followed by this one
    obtain ⟨known, exhausted⟩ := inv.outdated other (subset other member) (cursor ▸ same)
    refine ⟨fun child inTail => List.mem_append_left _ (known child inTail), fun none => ?_⟩
    exact absurd (starting.trans cursor.symm) ((exhausted none).2.2 sent answered)

/-- The reply to a query from the current cursor. -/
theorem pagingInvariant_current (table : Table K) (s : System T K) (sent : Sent K)
    (rest : List (Sent K)) (discarded last : DataSnapshot K) (fresh : List (DataSnapshot K))
    (answered : sent ∈ s.inFlight) (subset : ∀ other ∈ rest, other ∈ s.inFlight)
    (inv : PagingInvariant table s)
    (current : sent.query.startingAt = s.source.lastFetchedObjectKey)
    (page : pageRows table sent = discarded :: fresh)
    (ends : (sent.query.observeSingleEvent table).getLast? = some last) :
    PagingInvariant table (s.withBottomPage rest fresh last) := by
  obtain ⟨-, -, start, -, starting, -, -⟩ := inv.queries sent answered
  have cursor := current.symm.trans starting
  have bounds := pageBounds_of_page sent.query table starting page ends
  refine ⟨?_, ?_, ?_, ?_, ?_⟩
  · simp only [System.withBottomPage, inv.store, parseResults_append]
  · exact inv.ordered.append bounds.ordered
      (fun child member => inv.below child member start cursor) bounds.behind
  · intro child member key' cursor'
    simp only [System.withBottomPage, Option.some.injEq] at cursor'
    subst cursor'
    rcases List.mem_append.mp member with old | new
    · exact le_trans (inv.below child old start cursor) bounds.advanced
    · exact bounds.upTo child new
  · intro other member
    have otherQuery := inv.queries other (subset other member)
    obtain ⟨start', starting', le⟩ := otherQuery.le cursor
    exact ⟨otherQuery.operation, otherQuery.limit, start', last.key, starting', rfl,
      le_trans le bounds.advanced⟩
  · intro other member older
    exact outdated_after_current table s sent other rest discarded last fresh start answered subset
      member inv starting cursor bounds.advanced page ends older

/-- Everything a step after the first page can do to an invariant state. -/
theorem pagingInvariant_step (table : Table K) (s : System T K) (e : Paging) (t : System T K)
    (inv : PagingInvariant table s) (taken : pagingStep table s e = some t)
    (current : AnswersCurrentCursor table s e) : PagingInvariant table t := by
  obtain ⟨-, effect⟩ := step_cases taken
  cases e with
  | loadBottom =>
    cases effect with
    | finished ended => exact inv
    | noCursor more unset =>
      exact ⟨inv.store, inv.ordered, inv.below, inv.queries, fun sent member older =>
        ⟨(inv.outdated sent member older).known, (inv.outdated sent member older).exhausted⟩⟩
    | loadBottom key more cursor => exact pagingInvariant_send table s key inv more cursor
  | reply index =>
    cases effect with
    | firstPage index table sent rest answered operation =>
      have bottom := (inv.queries sent (deliver_mem answered)).operation
      rw [operation] at bottom
      cases bottom
    | emptyPage index table sent rest answered operation page =>
      exact pagingInvariant_emptyPage table s rest (deliver_rest_subset answered) inv _
    | bottomPage index table sent rest answered operation discarded fresh last page ends =>
      have subset := deliver_rest_subset answered
      have member := deliver_mem answered
      by_cases same : sent.query.startingAt = s.source.lastFetchedObjectKey
      · exact pagingInvariant_current table s sent rest discarded last fresh member subset inv same
          page ends
      · have short : (pageRows table sent).length ≤ 1 :=
          (current index sent rest rfl answered).resolve_left same
        have none : fresh = [] := by
          rw [pageRows, page, List.length_cons] at short
          exact List.eq_nil_of_length_eq_zero (by omega)
        subst none
        obtain ⟨-, lastOf, others⟩ := (inv.outdated sent member same).exhausted
          (by rw [pageRows, page, List.tail_cons])
        rw [ends, Option.map_some] at lastOf
        exact pagingInvariant_outdated table s rest last subset inv lastOf.symm others

/-- From an invariant state, a step stores no child twice exactly when it is no reply to
an outdated query that brings rows. -/
theorem storedOnce_step_iff (table : Table K) (s : System T K) (e : Paging) (t : System T K)
    (inv : PagingInvariant table s) (taken : pagingStep table s e = some t) :
    StoredOnce t ↔ AnswersCurrentCursor table s e := by
  constructor
  · intro once index sent rest reply answered
    subst reply
    obtain ⟨-, effect⟩ := step_cases taken
    cases effect with
    | firstPage index table sent' rest' answered' operation =>
      have bottom := (inv.queries sent' (deliver_mem answered')).operation
      rw [operation] at bottom
      cases bottom
    | emptyPage index table sent' rest' answered' operation page =>
      rw [answered] at answered'
      cases answered'
      exact .inr (by simp [pageRows, page])
    | bottomPage index table sent' rest' answered' operation discarded fresh last page ends =>
      rw [answered] at answered'
      cases answered'
      by_contra stale
      obtain ⟨older, long⟩ := not_or.mp stale
      have known := (inv.outdated sent (deliver_mem answered) older).known
      rw [pageRows, page] at known long
      cases fresh with
      | nil => exact long (by simp)
      | cons child more =>
        have twice : ((s.stored ++ child :: more).map DataSnapshot.key).Nodup := once.once
        rw [List.map_append] at twice
        have disjoint := (List.nodup_append.mp twice).2.2
        exact disjoint _ (List.mem_map_of_mem (known child List.mem_cons_self)) _
          (List.mem_map_of_mem List.mem_cons_self) rfl
  · intro current
    exact (pagingInvariant_step table s e t inv taken current).storedOnce

/-- After the first page of a static table, no child is ever stored twice along exactly
the runs in which every reply answers a query sent from the current cursor, or carries
no row behind the one that is discarded. -/
theorem children_stored_once_iff (tableName : String) (table : Table K) (s : System T K)
    (loaded : run step (.initial tableName) [.loadFirst, .reply 0 table] = some s)
    (es : List Paging) :
    AlongRun (pagingStep table) (fun _ _ t => StoredOnce t) s es ↔
      AlongRun (pagingStep table) (fun s e _ => AnswersCurrentCursor table s e) s es :=
  alongRun_iff_of_invariant (PagingInvariant table) (storedOnce_step_iff table)
    (pagingInvariant_step table) (pagingInvariant_firstPage tableName table s loaded)

end

/-- Two pages of twelve children, one after the other. -/
theorem children_stored_once_twelve :
    ∃ s : System TitledRow Nat,
      run step (.initial "rows")
        [.loadFirst, .reply 0 (sampleTable (List.range 12) (by decide))] = some s ∧
      AlongRun (pagingStep (sampleTable (List.range 12) (by decide)))
        (fun _ _ t => StoredOnce t) s [.loadBottom, .reply 0] := by
  refine ⟨_, rfl, (children_stored_once_iff "rows" _ _ rfl _).mpr ?_⟩
  intro called sent
  cases sent
  refine ⟨fun index sent rest call => (by cases call), ?_⟩
  intro replied delivered
  cases delivered
  refine ⟨fun index sent rest call answered => ?_, trivial⟩
  cases call
  cases answered
  exact .inl rfl

/-- The last row is displayed twice before the reply: both replies append the second page. -/
theorem children_stored_twice_on_overlap :
    ¬ ∀ (table : Table Nat) (s : System TitledRow Nat),
      run step (.initial "rows") [.loadFirst, .reply 0 table] = some s →
        ∀ es, AlongRun (pagingStep table) (fun _ _ t => StoredOnce t) s es := by
  intro claim
  have along := claim (sampleTable (List.range 12) (by decide)) _ rfl
    [.loadBottom, .loadBottom, .reply 0, .reply 0]
  have bad := ((((along _ rfl).2 _ rfl).2 _ rfl).2 _ rfl).1
  exact absurd bad.once (by decide)

end FinanciaApp.Guarantees
