import FinanciaApp.Source.FirebaseSystem

/-!
# The boundary child of a bottom page

The reply handler of `loadBottom` drops the first parsed row in the belief that it is
the child its starting key came from. That child has to be a dictionary when it is
fetched, or it was never stored, and it has to be one still when the page is read, or
the row dropped is the next one; without any row `removeFirst()` traps. While the
boundary is kept in this sense, whatever else happens to the table, only stored
children are dropped. For calls made one after the other after a single `loadFirst`
the condition is exact.
-/

set_option autoImplicit false

namespace FinanciaApp.Guarantees

open Library Source Source.ATCGenericFirebaseDataSource

universe u w

variable {T : Type u} {K : Type w} [LinearOrder K]

/-- The child that the starting key of a `loadBottom` query came from was a dictionary
when it was fetched, and the table that answers the query has a dictionary child
under that key. -/
def BoundaryKept (s : System T K) (e : Event K) : Prop :=
  ∀ index table sent rest, e = .reply index table →
    deliver s.inFlight index = some (sent, rest) → sent.query.operation = .loadBottom →
    ∃ fetched now, sent.boundary = some fetched ∧ fetched.value.asDictionary.isSome = true ∧
      now ∈ table.children ∧ now.key = fetched.key ∧ now.value.asDictionary.isSome = true

/-- A call is made while no query is in flight, and `loadFirst` only as long as no child
has been fetched. -/
def Sequential (s : System T K) : Event K → Prop
  | .loadFirst => s.inFlight = [] ∧ s.source.lastFetchedObjectKey = none
  | .loadBottom => s.inFlight = []
  | _ => True

/-- A query as `loadBottom` sends it: from the key of its boundary child, which is
stored if it was a dictionary. -/
structure SentFromBoundary (stored : List (DataSnapshot K)) (sent : Sent K) : Prop where
  limit : sent.query.limit = kItemsPerPage + 1
  starting : sent.query.startingAt = sent.boundary.map DataSnapshot.key
  fetched : sent.boundary ≠ none
  kept : ∀ child, sent.boundary = some child → child.value.asDictionary.isSome = true →
    child.key ∈ stored.map DataSnapshot.key

section

variable [ATCGenericFirebaseParsable T K]

/-- Handling a reply does not trap, and the row that a `loadBottom` reply discards is
one of a child in the store. -/
structure DiscardsStored (s : System T K) (e : Event K) (t : System T K) : Prop where
  rows : s.source.store = parseResults s.stored
  running : ∀ index table, e = .reply index table → t.trapped = none
  stored : ∀ index table sent rest, e = .reply index table →
    deliver s.inFlight index = some (sent, rest) → sent.query.operation = .loadBottom →
    ∀ discarded fresh,
      dictionaryChildren (sent.query.observeSingleEvent table) = discarded :: fresh →
      discarded.key ∈ s.stored.map DataSnapshot.key

structure BoundaryInvariant (s : System T K) : Prop where
  rows : s.source.store = parseResults s.stored
  cursor : s.source.lastFetchedObjectKey = s.boundary.map DataSnapshot.key
  kept : ∀ child, s.boundary = some child → child.value.asDictionary.isSome = true →
    child.key ∈ s.stored.map DataSnapshot.key
  queries : ∀ sent ∈ s.inFlight, sent.query.operation = .loadBottom →
    SentFromBoundary s.stored sent

omit [LinearOrder K] in
theorem SentFromBoundary.mono {stored more : List (DataSnapshot K)} {sent : Sent K}
    (h : SentFromBoundary stored sent) : SentFromBoundary (stored ++ more) sent := by
  refine ⟨h.limit, h.starting, h.fetched, fun child found dictionary => ?_⟩
  rw [List.map_append]
  exact List.mem_append_left _ (h.kept child found dictionary)

omit [LinearOrder K] in
theorem boundaryInvariant_initial (tableName : String) :
    BoundaryInvariant (.initial tableName : System T K) where
  rows := rfl
  cursor := rfl
  kept child found := by cases found
  queries sent member := by cases member

omit [LinearOrder K] in
theorem boundaryInvariant_firstPage (s : System T K) (rest : List (Sent K))
    (children : List (DataSnapshot K)) (subset : ∀ sent ∈ rest, sent ∈ s.inFlight)
    (inv : BoundaryInvariant s) : BoundaryInvariant (s.withFirstPage rest children) where
  rows := by
    simp [System.withFirstPage, inv.rows, parseResults_dictionaryChildren]
  cursor := rfl
  kept child found dictionary := by
    have inChildren : child ∈ children := List.mem_of_getLast? found
    have stored : child ∈ dictionaryChildren children :=
      List.mem_filter.mpr ⟨inChildren, dictionary⟩
    exact List.mem_map_of_mem (List.mem_append_right _ stored)
  queries sent member operation := (inv.queries sent (subset sent member) operation).mono

omit [LinearOrder K] in
theorem boundaryInvariant_bottomPage (s : System T K) (rest : List (Sent K))
    (children : List (DataSnapshot K)) (discarded last : DataSnapshot K)
    (fresh : List (DataSnapshot K)) (subset : ∀ sent ∈ rest, sent ∈ s.inFlight)
    (inv : BoundaryInvariant s) (page : dictionaryChildren children = discarded :: fresh)
    (ends : children.getLast? = some last)
    (stored : discarded.key ∈ s.stored.map DataSnapshot.key) :
    BoundaryInvariant (s.withBottomPage rest fresh last) where
  rows := by simp only [System.withBottomPage, inv.rows, parseResults_append]
  cursor := rfl
  kept child found dictionary := by
    have isLast : last = child := Option.some.inj found
    subst isLast
    have inPage : last ∈ discarded :: fresh := by
      rw [← page]
      exact List.mem_filter.mpr ⟨List.mem_of_getLast? ends, dictionary⟩
    simp only [System.withBottomPage, List.map_append]
    rcases List.mem_cons.mp inPage with rfl | isFresh
    · exact List.mem_append_left _ stored
    · exact List.mem_append_right _ (List.mem_map_of_mem isFresh)
  queries sent member operation := (inv.queries sent (subset sent member) operation).mono

/-- What a step does to the invariant, whether or not the boundary is kept. -/
theorem boundaryInvariant_step (s : System T K) (e : Event K) (t : System T K)
    (inv : BoundaryInvariant s) (taken : step s e = some t) (discards : DiscardsStored s e t) :
    BoundaryInvariant t := by
  obtain ⟨-, effect⟩ := step_cases taken
  cases effect with
  | loadFirst =>
    refine ⟨inv.rows, inv.cursor, inv.kept, fun sent member operation => ?_⟩
    rcases List.mem_append.mp member with old | new
    · exact inv.queries sent old operation
    · rw [List.mem_singleton.mp new] at operation
      cases operation
  | finished ended => exact inv
  | noCursor more unset => exact ⟨inv.rows, inv.cursor, inv.kept, inv.queries⟩
  | loadBottom key more cursor =>
    refine ⟨inv.rows, inv.cursor, inv.kept, fun sent member operation => ?_⟩
    rcases List.mem_append.mp member with old | new
    · exact inv.queries sent old operation
    · rw [List.mem_singleton.mp new]
      have same := inv.cursor
      rw [cursor] at same
      refine ⟨rfl, same, fun none => ?_, inv.kept⟩
      rw [show s.boundary = Option.none from none] at same
      cases same
  | loadTop => exact inv
  | firstPage index table sent rest answered operation =>
    exact boundaryInvariant_firstPage s rest _ (deliver_rest_subset answered) inv
  | bottomPage index table sent rest answered operation discarded fresh last page ends =>
    have stored := discards.stored index table sent rest rfl answered operation discarded fresh page
    exact boundaryInvariant_bottomPage s rest _ discarded last fresh (deliver_rest_subset answered)
      inv page ends stored
  | emptyPage index table sent rest answered operation page =>
    exact ⟨inv.rows, inv.cursor, inv.kept,
      fun other member => inv.queries other (deliver_rest_subset answered other member)⟩

omit [ATCGenericFirebaseParsable T K] in
/-- Where the boundary is kept, the first row of the page is the boundary child. -/
theorem page_of_boundaryKept (sent : Sent K) (table : Table K)
    {stored : List (DataSnapshot K)} (query : SentFromBoundary stored sent)
    {fetched now : DataSnapshot K} (boundary : sent.boundary = some fetched)
    (present : now ∈ table.children) (same : now.key = fetched.key)
    (dictionary : now.value.asDictionary.isSome = true) :
    ∃ fresh, dictionaryChildren (sent.query.observeSingleEvent table) = now :: fresh := by
  obtain ⟨back, window⟩ := fromKey_eq_cons table.ordered present
  have starting : sent.query.startingAt = some now.key := by
    rw [query.starting, boundary, Option.map_some, same]
  have observed : sent.query.observeSingleEvent table = now :: back.take kItemsPerPage := by
    simp only [Query.observeSingleEvent, starting, query.limit, window, List.take_succ_cons]
  refine ⟨dictionaryChildren (back.take kItemsPerPage), ?_⟩
  simp [observed, dictionaryChildren, dictionary]

/-- While the boundary is kept, a step discards only stored children and traps on no reply. -/
theorem discardsStored_of_boundaryKept (s : System T K) (e : Event K) (t : System T K)
    (inv : BoundaryInvariant s) (taken : step s e = some t) (kept : BoundaryKept s e) :
    DiscardsStored s e t := by
  obtain ⟨-, effect⟩ := step_cases taken
  refine ⟨inv.rows, ?_, ?_⟩
  · intro index table reply
    subst reply
    cases effect with
    | firstPage index table sent rest answered operation => rfl
    | bottomPage index table sent rest answered operation discarded fresh last page ends => rfl
    | emptyPage index table sent rest answered operation page =>
      obtain ⟨fetched, now, boundary, -, present, same, dictionary⟩ :=
        kept index table sent rest rfl answered operation
      obtain ⟨fresh, nonempty⟩ := page_of_boundaryKept sent table
        (inv.queries sent (deliver_mem answered) operation) boundary present same dictionary
      rw [page] at nonempty
      cases nonempty
  · intro index table sent rest reply answered operation discarded fresh page
    have query := inv.queries sent (deliver_mem answered) operation
    obtain ⟨fetched, now, boundary, was, present, same, dictionary⟩ :=
      kept index table sent rest reply answered operation
    obtain ⟨others, opens⟩ :=
      page_of_boundaryKept sent table query boundary present same dictionary
    rw [page, List.cons.injEq] at opens
    rw [opens.1, same]
    exact query.kept fetched boundary was

/-- What holds in addition when the calls are made one after the other and `loadFirst`
is called once: the stored keys reach up to the cursor, and a boundary child that was no
dictionary is not stored. -/
structure SequentialInvariant (s : System T K) : Prop extends BoundaryInvariant s where
  unset : s.source.lastFetchedObjectKey = none → s.stored = []
  first : ∀ sent ∈ s.inFlight, sent.query.operation = .loadFirst →
    s.source.lastFetchedObjectKey = none
  current : ∀ sent ∈ s.inFlight, sent.boundary = s.boundary
  below : ∀ child ∈ s.stored, ∀ key, s.source.lastFetchedObjectKey = some key → child.key ≤ key
  skipped : ∀ child, s.boundary = some child → child.value.asDictionary.isSome = false →
    child.key ∉ s.stored.map DataSnapshot.key
  alone : s.inFlight.length ≤ 1

theorem sequentialInvariant_initial (tableName : String) :
    SequentialInvariant (.initial tableName : System T K) where
  toBoundaryInvariant := boundaryInvariant_initial tableName
  unset _ := rfl
  first sent member := by cases member
  current sent member := by cases member
  below child member := by cases member
  skipped child found := by cases found
  alone := Nat.zero_le _

theorem sequentialInvariant_send (s : System T K) (query : Query K) (idle : s.inFlight = [])
    (first : query.operation = .loadFirst → s.source.lastFetchedObjectKey = none)
    (inv : SequentialInvariant s) (sent : BoundaryInvariant (s.send query)) :
    SequentialInvariant (s.send query) := by
  have only : (s.send query).inFlight = [⟨query, s.boundary⟩] := by simp [System.send, idle]
  refine ⟨sent, inv.unset, ?_, ?_, inv.below, inv.skipped, ?_⟩
  · intro other member operation
    rw [only, List.mem_singleton] at member
    subst member
    exact first operation
  · intro other member
    rw [only, List.mem_singleton] at member
    subst member
    rfl
  · rw [only, List.length_singleton]

/-- A child that is no dictionary has a key that no dictionary child of the page has. -/
theorem key_not_mem_dictionaryChildren {children : List (DataSnapshot K)}
    (ordered : OrderedByKey DataSnapshot.key children) {child : DataSnapshot K}
    (member : child ∈ children) (other : child.value.asDictionary.isSome = false) :
    child.key ∉ (dictionaryChildren children).map DataSnapshot.key := by
  intro known
  obtain ⟨same, isRow, keys⟩ := List.mem_map.mp known
  have equal := ordered.eq_of_key_eq ((dictionaryChildren_sublist _).mem isRow) member keys
  have dictionary := isSome_of_mem_dictionaryChildren isRow
  rw [equal, other] at dictionary
  cases dictionary

theorem sequentialInvariant_firstPage (s : System T K) (children : List (DataSnapshot K))
    (ordered : OrderedByKey DataSnapshot.key children)
    (unset : s.source.lastFetchedObjectKey = none) (inv : SequentialInvariant s)
    (loaded : BoundaryInvariant (s.withFirstPage [] children)) :
    SequentialInvariant (s.withFirstPage [] children) := by
  have stored : (s.withFirstPage [] children).stored = dictionaryChildren children := by
    simp [System.withFirstPage, inv.unset unset]
  refine ⟨loaded, ?_, ?_, ?_, ?_, ?_, Nat.zero_le _⟩
  · intro cursor
    have none : children = [] := List.getLast?_eq_none_iff.mp (Option.map_eq_none_iff.mp cursor)
    rw [stored, none]
    rfl
  · intro other member
    cases member
  · intro other member
    cases member
  · intro child member key cursor
    obtain ⟨last, found, rfl⟩ := Option.map_eq_some_iff.mp cursor
    rw [stored] at member
    exact ordered.le_last found ((dictionaryChildren_sublist _).mem member)
  · intro child found other
    rw [stored]
    exact key_not_mem_dictionaryChildren ordered (List.mem_of_getLast? found) other

theorem sequentialInvariant_bottomPage (s : System T K) (sent : Sent K) (table : Table K)
    (discarded last : DataSnapshot K) (fresh : List (DataSnapshot K)) (start : K)
    (starting : sent.query.startingAt = some start)
    (cursor : s.source.lastFetchedObjectKey = some start) (inv : SequentialInvariant s)
    (page : dictionaryChildren (sent.query.observeSingleEvent table) = discarded :: fresh)
    (ends : (sent.query.observeSingleEvent table).getLast? = some last)
    (loaded : BoundaryInvariant (s.withBottomPage [] fresh last)) :
    SequentialInvariant (s.withBottomPage [] fresh last) := by
  have bounds := pageBounds_of_page sent.query table starting page ends
  have observed := observeSingleEvent_ordered sent.query table
  refine ⟨loaded, ?_, ?_, ?_, ?_, ?_, Nat.zero_le _⟩
  · intro none
    cases none
  · intro other member
    cases member
  · intro other member
    cases member
  · intro child member key moved
    obtain rfl : last.key = key := Option.some.inj moved
    rcases List.mem_append.mp member with old | new
    · exact le_trans (inv.below child old start cursor) bounds.advanced
    · exact bounds.upTo child new
  · intro child found other known
    obtain rfl : last = child := Option.some.inj found
    have notRow := key_not_mem_dictionaryChildren observed (List.mem_of_getLast? ends) other
    rw [page] at notRow
    simp only [System.withBottomPage, List.map_append] at known
    rcases List.mem_append.mp known with old | new
    · -- a stored key is not behind the start, so the page would be this one child
      obtain ⟨row, stored, keys⟩ := List.mem_map.mp old
      have upTo : last.key ≤ start := keys ▸ inv.below row stored start cursor
      have inPage : discarded ∈ sent.query.observeSingleEvent table :=
        (dictionaryChildren_sublist _).mem (page ▸ List.mem_cons_self)
      have lower := le_of_mem_observeSingleEvent sent.query table starting inPage
      have same : last.key = discarded.key :=
        le_antisymm (le_trans upTo lower) (observed.le_last ends inPage)
      exact notRow (same ▸ List.mem_cons_self)
    · exact notRow (List.mem_cons_of_mem _ new)

/-- The boundary of the query in flight is the child the cursor is on. -/
theorem starting_eq_cursor (s : System T K) (sent : Sent K) (inv : SequentialInvariant s)
    (member : sent ∈ s.inFlight) (operation : sent.query.operation = .loadBottom) :
    ∃ fetched, s.boundary = some fetched ∧ sent.boundary = some fetched ∧
      sent.query.startingAt = some fetched.key ∧
      s.source.lastFetchedObjectKey = some fetched.key := by
  have query := inv.queries sent member operation
  have same := inv.current sent member
  obtain ⟨fetched, boundary⟩ := Option.ne_none_iff_exists'.mp query.fetched
  refine ⟨fetched, same ▸ boundary, boundary, ?_, ?_⟩
  · rw [query.starting, boundary, Option.map_some]
  · rw [inv.cursor, ← same, boundary, Option.map_some]

theorem sequentialInvariant_step (s : System T K) (e : Event K) (t : System T K)
    (inv : SequentialInvariant s) (taken : step s e = some t) (sequential : Sequential s e)
    (discards : DiscardsStored s e t) : SequentialInvariant t := by
  have next := boundaryInvariant_step s e t inv.toBoundaryInvariant taken discards
  obtain ⟨-, effect⟩ := step_cases taken
  cases effect with
  | loadFirst =>
    exact sequentialInvariant_send s _ sequential.1 (fun _ => sequential.2) inv next
  | finished ended => exact inv
  | noCursor more unset =>
    exact ⟨next, inv.unset, inv.first, inv.current, inv.below, inv.skipped, inv.alone⟩
  | loadBottom key more cursor =>
    refine sequentialInvariant_send s _ sequential (fun operation => ?_) inv next
    cases operation
  | loadTop => exact inv
  | firstPage index table sent rest answered operation =>
    obtain rfl := deliver_rest_eq_nil inv.alone answered
    exact sequentialInvariant_firstPage s _ (observeSingleEvent_ordered _ _)
      (inv.first sent (deliver_mem answered) operation) inv next
  | bottomPage index table sent rest answered operation discarded fresh last page ends =>
    obtain rfl := deliver_rest_eq_nil inv.alone answered
    obtain ⟨fetched, -, -, starting, cursor⟩ :=
      starting_eq_cursor s sent inv (deliver_mem answered) operation
    exact sequentialInvariant_bottomPage s sent table discarded last fresh fetched.key starting
      cursor inv page ends next
  | emptyPage index table sent rest answered operation page =>
    have trapped := discards.running index table rfl
    cases trapped

/-- When the calls are made one after the other, only a kept boundary is discarded. -/
theorem boundaryKept_of_discardsStored (s : System T K) (e : Event K) (t : System T K)
    (inv : SequentialInvariant s) (taken : step s e = some t)
    (discards : DiscardsStored s e t) : BoundaryKept s e := by
  intro index table sent rest reply answered operation
  subst reply
  obtain ⟨fetched, boundary, sentBoundary, starting, cursor⟩ :=
    starting_eq_cursor s sent inv (deliver_mem answered) operation
  obtain ⟨-, effect⟩ := step_cases taken
  cases effect with
  | firstPage index table sent' rest' answered' operation' =>
    rw [answered] at answered'
    cases answered'
    rw [operation] at operation'
    cases operation'
  | emptyPage index table sent' rest' answered' operation' page =>
    have trapped := discards.running index table rfl
    cases trapped
  | bottomPage index table sent' rest' answered' operation' discarded fresh last page ends =>
    rw [answered] at answered'
    cases answered'
    have known := discards.stored index table sent rest rfl answered operation discarded fresh page
    obtain ⟨row, stored, keys⟩ := List.mem_map.mp known
    have isRow : discarded ∈ dictionaryChildren (sent.query.observeSingleEvent table) :=
      page ▸ List.mem_cons_self
    have inPage := (dictionaryChildren_sublist _).mem isRow
    have upTo : discarded.key ≤ fetched.key := keys ▸ inv.below row stored fetched.key cursor
    have lower := le_of_mem_observeSingleEvent sent.query table starting inPage
    have same : discarded.key = fetched.key := le_antisymm upTo lower
    refine ⟨fetched, discarded, sentBoundary, ?_,
      (observeSingleEvent_sublist _ _).mem inPage, same, isSome_of_mem_dictionaryChildren isRow⟩
    cases dictionary : fetched.value.asDictionary.isSome with
    | true => rfl
    | false => exact absurd (same ▸ known) (inv.skipped fetched boundary dictionary)

/-- Whatever tables the replies are answered from and however calls and replies
interleave: in a run that keeps the boundary, every `loadBottom` reply discards only a
stored child and no reply traps. Along the runs whose calls are made one after the
other, keeping the boundary is also necessary. -/
theorem discards_stored_of_boundary_kept (tableName : String) (es : List (Event K)) :
    (AlongRun step (fun s e _ => BoundaryKept s e) (.initial tableName : System T K) es →
      AlongRun step DiscardsStored (.initial tableName : System T K) es) ∧
    (AlongRun step (fun s e t => Sequential s e ∧ DiscardsStored s e t)
        (.initial tableName : System T K) es ↔
      AlongRun step (fun s e _ => Sequential s e ∧ BoundaryKept s e)
        (.initial tableName : System T K) es) := by
  constructor
  · refine alongRun_of_invariant BoundaryInvariant ?_ (boundaryInvariant_initial tableName)
    intro s e t inv taken kept
    have discards := discardsStored_of_boundaryKept s e t inv taken kept
    exact ⟨boundaryInvariant_step s e t inv taken discards, discards⟩
  · refine alongRun_iff_of_invariant SequentialInvariant ?_ ?_
      (sequentialInvariant_initial tableName)
    · intro s e t inv taken
      refine and_congr_right fun _ => ⟨boundaryKept_of_discardsStored s e t inv taken, ?_⟩
      exact discardsStored_of_boundaryKept s e t inv.toBoundaryInvariant taken
    · rintro s e t inv taken ⟨sequential, kept⟩
      exact sequentialInvariant_step s e t inv taken sequential
        (discardsStored_of_boundaryKept s e t inv.toBoundaryInvariant taken kept)

end

/-- The boundary row 9 is deleted before the second page is read, and row 10 is dropped
instead of it. -/
theorem unstored_child_discarded :
    ¬ ∀ es : List (Event Nat),
      AlongRun step DiscardsStored (.initial "rows" : System TitledRow Nat) es := by
  intro claim
  have along := claim [.loadFirst, .reply 0 (sampleTable (List.range 12) (by decide)),
    .loadBottom, .reply 0 (sampleTable [0, 1, 2, 3, 4, 5, 6, 7, 8, 10, 11] (by decide))]
  have bad := ((((along _ rfl).2 _ rfl).2 _ rfl).2 _ rfl).1
  have known := bad.stored 0 _ _ _ rfl rfl rfl _ _ rfl
  exact absurd known (by decide)

/-- The table is emptied before the second page is read. -/
example : ((run step (.initial "rows" : System TitledRow Nat)
    [.loadFirst, .reply 0 (sampleTable [0, 1] (by decide)), .loadBottom,
      .reply 0 (sampleTable [] (by decide))]).bind System.trapped) =
    some .removeFirstOfEmpty := rfl

end FinanciaApp.Guarantees
