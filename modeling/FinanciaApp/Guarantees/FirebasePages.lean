import FinanciaApp.Source.FirebaseSystem

/-!
# Paging through a static table

Each `loadBottom` of a Firebase data source asks for eleven children from the last
stored key on and drops the first one. When the calls are made one after the other
over a table that does not change, the store after `k` of them is the first
`10 * (k + 1)` children. The invariant (`Settled`) ties the cursor to the last child
of that prefix; one page extends the prefix by the next ten children.
-/

set_option autoImplicit false

namespace FinanciaApp.Guarantees

open Library Source Source.ATCGenericFirebaseDataSource

universe u w

variable {T : Type u} {K : Type w} [LinearOrder K] [ATCGenericFirebaseParsable T K]

/-- One call and, if it sent a query, the reply to it. -/
def callAndReply (table : Table K) (call : Event K) (s : System T K) : Option (System T K) :=
  (step s call).bind fun called => match called.inFlight with
    | [] => some called
    | _ :: _ => step called (.reply 0 table)

/-- `loadFirst` and then `k` calls of `loadBottom`, each after the previous reply. -/
def afterLoads (tableName : String) (table : Table K) : Nat → Option (System T K)
  | 0 => callAndReply table .loadFirst (.initial tableName)
  | k + 1 => (afterLoads tableName table k).bind (callAndReply table .loadBottom)

/-- In this state `loadBottom` sends a query, and its page over the table has no child
that is not stored. -/
def BringsNothingNew (table : Table K) (s : System T K) : Prop :=
  ∃ query, s.source.loadBottom = .ok (some query) ∧
    ∀ child ∈ query.observeSingleEvent table, child ∈ s.stored

/-- No query is in flight, and the first `count` children are stored. -/
structure Settled (table : Table K) (count : Nat) (s : System T K) : Prop where
  running : s.trapped = none
  idle : s.inFlight = []
  stored : s.stored = table.children.take count
  store : s.source.store = parseResults s.stored
  cursor : s.source.lastFetchedObjectKey =
    (table.children.take count).getLast?.map DataSnapshot.key

theorem callAndReply_sent (table : Table K) (call : Event K) (s called : System T K)
    (sent : Sent K) (taken : step s call = some called) (running : called.trapped = none)
    (only : called.inFlight = [sent]) :
    callAndReply table call s = some (called.afterReply sent [] table) := by
  rw [callAndReply, taken, Option.bind_some]
  simp [only, step, running, deliver]

theorem callAndReply_loadFirst (tableName : String) (table : Table K) :
    callAndReply table .loadFirst (.initial tableName : System T K) =
      some ((System.initial tableName).withFirstPage [] (table.children.take kItemsPerPage)) := by
  rw [callAndReply_sent table .loadFirst _ _ _ rfl rfl rfl]
  exact congrArg some (afterReply_loadFirst _ _ [] table rfl)

theorem callAndReply_finished (table : Table K) (s : System T K) (running : s.trapped = none)
    (idle : s.inFlight = []) (ended : s.source.didFinishLoadingBottom = true) :
    callAndReply table .loadBottom s = some s := by
  have skipped : step s .loadBottom = some s := by
    simp [step, running, System.afterLoadBottom, loadBottom, ended]
  rw [callAndReply, skipped, Option.bind_some, idle]

omit [LinearOrder K] [ATCGenericFirebaseParsable T K] in
theorem loadBottom_query (s : System T K) {key : K}
    (more : s.source.didFinishLoadingBottom = false)
    (cursor : s.source.lastFetchedObjectKey = some key) :
    s.source.loadBottom =
      .ok (some ⟨.loadBottom, s.source.dbChild, some key, kItemsPerPage + 1⟩) := by
  simp [loadBottom, more, cursor]

theorem callAndReply_loadBottom (table : Table K) (s : System T K) (running : s.trapped = none)
    (idle : s.inFlight = []) (more : s.source.didFinishLoadingBottom = false) {key : K}
    (cursor : s.source.lastFetchedObjectKey = some key) (discarded last : DataSnapshot K)
    (fresh : List (DataSnapshot K))
    (page : dictionaryChildren ((fromKey DataSnapshot.key key table.children).take
      (kItemsPerPage + 1)) = discarded :: fresh)
    (ends : ((fromKey DataSnapshot.key key table.children).take
      (kItemsPerPage + 1)).getLast? = some last) :
    callAndReply table .loadBottom s = some (s.withBottomPage [] fresh last) := by
  have sent : step s .loadBottom =
      some (s.send ⟨.loadBottom, s.source.dbChild, some key, kItemsPerPage + 1⟩) := by
    simp [step, running, System.afterLoadBottom, loadBottom_query s more cursor]
  have only : (s.send ⟨.loadBottom, s.source.dbChild, some key, kItemsPerPage + 1⟩).inFlight =
      [⟨⟨.loadBottom, s.source.dbChild, some key, kItemsPerPage + 1⟩, s.boundary⟩] := by
    simp [System.send, idle]
  rw [callAndReply_sent table .loadBottom s _ _ sent running only]
  exact congrArg some (afterReply_bottomPage _ _ [] table rfl discarded fresh last page ends)

omit [ATCGenericFirebaseParsable T K] in
/-- A nonempty prefix of the table ends in the child whose key the next page starts
from, and that page is this child followed by what comes behind the prefix. -/
theorem window_after_prefix (table : Table K) (nonempty : table.children ≠ []) {count : Nat}
    (positive : 0 < count) :
    ∃ last, (table.children.take count).getLast? = some last ∧
      last ∈ table.children.take count ∧
      fromKey DataSnapshot.key last.key table.children = last :: table.children.drop count := by
  have some_prefix : table.children.take count ≠ [] := by
    simp only [ne_eq, List.take_eq_nil_iff, not_or]
    exact ⟨by omega, nonempty⟩
  have found := List.getLast?_eq_some_getLast some_prefix
  obtain ⟨front, hfront⟩ := List.getLast?_eq_some_iff.mp found
  have split : front ++ (table.children.take count).getLast some_prefix ::
      table.children.drop count = table.children := by
    rw [← List.singleton_append, ← List.append_assoc, ← hfront, List.take_append_drop]
  have window := fromKey_append_cons (split.symm ▸ table.ordered)
  rw [split] at window
  exact ⟨_, found, List.getLast_mem some_prefix, window⟩

omit [ATCGenericFirebaseParsable T K] in
theorem bringsNothingNew_iff (table : Table K) (s : System T K) {key : K}
    (more : s.source.didFinishLoadingBottom = false)
    (cursor : s.source.lastFetchedObjectKey = some key) :
    BringsNothingNew table s ↔
      ∀ child ∈ (fromKey DataSnapshot.key key table.children).take (kItemsPerPage + 1),
        child ∈ s.stored := by
  unfold BringsNothingNew
  rw [loadBottom_query s more cursor]
  constructor
  · rintro ⟨query, same, known⟩
    cases same
    exact known
  · intro known
    exact ⟨_, rfl, known⟩

omit [ATCGenericFirebaseParsable T K] in
/-- A child behind a prefix of the table is not in the prefix. -/
theorem not_mem_prefix (table : Table K) {count : Nat} {child : DataSnapshot K}
    (behind : child ∈ table.children.drop count) : child ∉ table.children.take count := by
  intro inPrefix
  have ordered := table.ordered
  rw [← List.take_append_drop count table.children] at ordered
  have less := (List.pairwise_append.mp ordered).2.2 child inPrefix child behind
  exact lt_irrefl _ less

/-- One more call after a settled state: either the source has finished and nothing
happens, or the next ten children are stored. -/
theorem settled_loadBottom (table : Table K) (nonempty : table.children ≠ [])
    (dictionaries : dictionaryChildren table.children = table.children) {count : Nat}
    (positive : 0 < count) (s : System T K) (settled : Settled table count s)
    (more : s.source.didFinishLoadingBottom = false) :
    ∃ t, callAndReply table .loadBottom s = some t ∧ Settled table (count + kItemsPerPage) t ∧
      (t.source.didFinishLoadingBottom = true ↔ table.children.length ≤ count) ∧
      (BringsNothingNew table s ↔ table.children.length ≤ count) := by
  obtain ⟨last, isLast, inPrefix, window⟩ := window_after_prefix table nonempty positive
  have cursor : s.source.lastFetchedObjectKey = some last.key := by
    rw [settled.cursor, isLast, Option.map_some]
  let fresh := (table.children.drop count).take kItemsPerPage
  have taken : (fromKey DataSnapshot.key last.key table.children).take (kItemsPerPage + 1) =
      last :: fresh := by
    rw [window, List.take_succ_cons]
  have extended : table.children.take (count + kItemsPerPage) =
      table.children.take count ++ fresh := List.take_add
  have page : dictionaryChildren (last :: fresh) = last :: fresh := by
    refine List.filter_eq_self.mpr fun child member => ?_
    have inTable : child ∈ table.children := by
      rcases List.mem_cons.mp member with rfl | member
      · exact List.mem_of_mem_take inPrefix
      · exact List.mem_of_mem_drop (List.mem_of_mem_take member)
    exact List.filter_eq_self.mp dictionaries child inTable
  have exhausted : fresh = [] ↔ table.children.length ≤ count := by
    simp [fresh, kItemsPerPage, List.take_eq_nil_iff, List.drop_eq_nil_iff]
  have ends : (last :: fresh).getLast? = some ((last :: fresh).getLast (by simp)) :=
    List.getLast?_eq_some_getLast _
  refine ⟨_, callAndReply_loadBottom table s settled.running settled.idle more cursor last _ fresh
    (by rw [taken, page]) (by rw [taken, ends]), ?_, ?_, ?_⟩
  · refine ⟨rfl, rfl, ?_, ?_, ?_⟩
    · rw [extended, ← settled.stored]
      rfl
    · simp only [System.withBottomPage, settled.store, parseResults_append]
    · obtain ⟨front, hfront⟩ := List.getLast?_eq_some_iff.mp isLast
      rw [extended, hfront, List.append_assoc, List.singleton_append, List.getLast?_append, ends]
      rfl
  · simp only [System.withBottomPage, List.isEmpty_iff]
    exact exhausted
  · rw [bringsNothingNew_iff table s more cursor, taken, settled.stored, ← exhausted]
    constructor
    · intro known
      refine List.eq_nil_iff_forall_not_mem.mpr fun child isFresh => ?_
      exact not_mem_prefix table (List.mem_of_mem_take isFresh)
        (known child (List.mem_cons_of_mem _ isFresh))
    · intro none child member
      rw [none, List.mem_singleton] at member
      exact member ▸ inPrefix

/-- What holds after `k` calls of `loadBottom`. -/
structure PagedThrough (tableName : String) (table : Table K) (k : Nat) (s : System T K) :
    Prop where
  settled : Settled table (kItemsPerPage * (k + 1)) s
  ended : s.source.didFinishLoadingBottom = true ↔ ∃ j < k, ∃ before : System T K,
    afterLoads tableName table j = some before ∧ BringsNothingNew table before
  complete : s.source.didFinishLoadingBottom = true →
    table.children.length ≤ kItemsPerPage * (k + 1)

theorem pagedThrough_first (tableName : String) (table : Table K)
    (dictionaries : dictionaryChildren table.children = table.children) :
    ∃ s : System T K, afterLoads tableName table 0 = some s ∧
      PagedThrough tableName table 0 s := by
  have page : dictionaryChildren (table.children.take kItemsPerPage) =
      table.children.take kItemsPerPage := by
    refine List.filter_eq_self.mpr fun child member => ?_
    exact List.filter_eq_self.mp dictionaries child (List.mem_of_mem_take member)
  refine ⟨_, callAndReply_loadFirst tableName table, ⟨rfl, rfl, ?_, ?_, rfl⟩, ?_, ?_⟩
  · exact page
  · simp only [System.withFirstPage, System.initial, new, page, List.nil_append]
  · simp [System.withFirstPage, System.initial, new]
  · simp [System.withFirstPage, System.initial, new]

/-- A page that brought nothing new is one of the pages before, or this one. -/
theorem broughtNothing_succ (tableName : String) (table : Table K) (k : Nat) (s : System T K)
    (reached : afterLoads tableName table k = some s) :
    (∃ j < k + 1, ∃ before : System T K,
        afterLoads tableName table j = some before ∧ BringsNothingNew table before) ↔
      (∃ j < k, ∃ before : System T K,
        afterLoads tableName table j = some before ∧ BringsNothingNew table before) ∨
        BringsNothingNew table s := by
  constructor
  · rintro ⟨j, bound, before, at_j, nothing⟩
    rcases Nat.lt_succ_iff_lt_or_eq.mp bound with earlier | rfl
    · exact .inl ⟨j, earlier, before, at_j, nothing⟩
    · rw [reached] at at_j
      cases at_j
      exact .inr nothing
  · rintro (⟨j, bound, before, at_j, nothing⟩ | nothing)
    · exact ⟨j, by omega, before, at_j, nothing⟩
    · exact ⟨k, by omega, s, reached, nothing⟩

theorem pagedThrough_next (tableName : String) (table : Table K) (nonempty : table.children ≠ [])
    (dictionaries : dictionaryChildren table.children = table.children) (k : Nat)
    (s : System T K) (reached : afterLoads tableName table k = some s)
    (paged : PagedThrough tableName table k s) :
    ∃ t : System T K, afterLoads tableName table (k + 1) = some t ∧
      PagedThrough tableName table (k + 1) t := by
  have next : afterLoads tableName table (k + 1) = callAndReply table .loadBottom s := by
    rw [afterLoads, reached, Option.bind_some]
  have grows : kItemsPerPage * (k + 1 + 1) = kItemsPerPage * (k + 1) + kItemsPerPage :=
    Nat.mul_succ _ _
  have history : (∃ j < k + 1, ∃ before : System T K,
        afterLoads tableName table j = some before ∧ BringsNothingNew table before) ↔
      s.source.didFinishLoadingBottom = true ∨ BringsNothingNew table s :=
    (broughtNothing_succ tableName table k s reached).trans (or_congr_left paged.ended.symm)
  cases ended : s.source.didFinishLoadingBottom with
  | true =>
    have all := paged.complete ended
    have same : table.children.take (kItemsPerPage * (k + 1 + 1)) =
        table.children.take (kItemsPerPage * (k + 1)) := by
      rw [List.take_of_length_le all, List.take_of_length_le (by omega)]
    refine ⟨s, next.trans (callAndReply_finished table s paged.settled.running paged.settled.idle
      ended), ⟨paged.settled.running, paged.settled.idle, ?_, paged.settled.store, ?_⟩, ?_, ?_⟩
    · rw [same, paged.settled.stored]
    · rw [same, paged.settled.cursor]
    · rw [history, ended]
      simp
    · intro _
      omega
  | false =>
    obtain ⟨t, replied, settled, finished, nothing⟩ := settled_loadBottom table nonempty
      dictionaries (by simp [kItemsPerPage]) s paged.settled ended
    refine ⟨t, next.trans replied, settled, ?_, ?_⟩
    · rw [history, ended, finished, nothing]
      simp
    · intro done
      have all := finished.mp done
      omega

/-- Over every static table of at least one child, all of them dictionaries, `loadFirst`
and `k` calls of `loadBottom` made one after the other store exactly the first
`min n (10 * (k + 1))` children in key order, each once and as the row of its key and its
dictionary, and the finished flag is up exactly when one of the pages brought no new child. -/
theorem sequential_loads_page_through (tableName : String) (table : Table K)
    (nonempty : table.children ≠ []) (dict : DataSnapshot K → JSONDictionary)
    (dictionaries : ∀ child ∈ table.children, child.value = .object (dict child)) (k : Nat) :
    ∃ s : System T K, afterLoads tableName table k = some s ∧ s.trapped = none ∧
      s.stored =
        table.children.take (min table.children.length (kItemsPerPage * (k + 1))) ∧
      (s.stored.map DataSnapshot.key).Nodup ∧
      s.source.store = parseResults s.stored ∧
      s.source.store =
        (table.children.take (min table.children.length (kItemsPerPage * (k + 1)))).map
          (fun child => ATCGenericFirebaseParsable.init child.key (dict child)) ∧
      s.source.store.length = min table.children.length (kItemsPerPage * (k + 1)) ∧
      (s.source.didFinishLoadingBottom = true ↔ ∃ j < k, ∃ before : System T K,
        afterLoads tableName table j = some before ∧ BringsNothingNew table before) := by
  have all : dictionaryChildren table.children = table.children := by
    refine List.filter_eq_self.mpr fun child member => ?_
    rw [dictionaries child member]
    rfl
  have reached : ∃ s : System T K, afterLoads tableName table k = some s ∧
      PagedThrough tableName table k s := by
    induction k with
    | zero => exact pagedThrough_first tableName table all
    | succ k ih =>
      obtain ⟨s, at_k, paged⟩ := ih
      exact pagedThrough_next tableName table nonempty all k s at_k paged
  obtain ⟨s, at_k, paged⟩ := reached
  have stored : s.stored =
      table.children.take (min table.children.length (kItemsPerPage * (k + 1))) := by
    rw [paged.settled.stored, Nat.min_comm, ← List.take_eq_take_min]
  have rows : s.source.store =
      (table.children.take (min table.children.length (kItemsPerPage * (k + 1)))).map
        fun child => ATCGenericFirebaseParsable.init child.key (dict child) := by
    rw [paged.settled.store, stored]
    exact parseResults_objects _ fun child member =>
      dictionaries child (List.mem_of_mem_take member)
  refine ⟨s, at_k, paged.settled.running, stored, ?_, paged.settled.store, rows, ?_, paged.ended⟩
  · rw [stored]
    exact (table.ordered.sublist (List.take_sublist _ _)).nodup
  · rw [rows, List.length_map, List.length_take]
    omega

theorem sequential_loads_page_through_eleven :
    ∃ s : System TitledRow Nat,
      afterLoads "rows" (sampleTable (List.range 11) (by decide)) 2 = some s ∧
      s.source.store.length = 11 := by
  have dictionaries : ∀ child ∈ (sampleTable (List.range 11) (by decide)).children,
      child.value = .object [("title", .string "row")] := by
    intro child member
    obtain ⟨key, -, same⟩ := List.mem_map.mp member
    exact same ▸ rfl
  obtain ⟨s, reached, -, -, -, -, -, count, -⟩ := sequential_loads_page_through (T := TitledRow)
    "rows" (sampleTable (List.range 11) (by decide)) (by simp [sampleTable])
    (fun _ => [("title", .string "row")]) dictionaries 2
  exact ⟨s, reached, count⟩

end FinanciaApp.Guarantees
