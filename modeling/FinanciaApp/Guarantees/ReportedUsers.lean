import FinanciaApp.Guarantees.ReportRequests

/-!
# Who is blocked or reported

`ATCFirebaseUserReporter.swift:46-98`. A lookup reads the blocks and then the reports, while
requests of other calls and other clients come in between. Its result never has a user who is in
neither collection. Unless the first read fails, every block that was acknowledged before the
lookup is in the result, and so is every report if no read fails; where the first read fails the
result is empty, whoever is blocked.
-/

set_option autoImplicit false

namespace FinanciaApp.Guarantees

open Library Source Source.ATCFirebaseUserReporter

/-- Some document says that a user is the `dest` of another one. -/
def ListsUser (rows : List Row) (id dest : String) : Prop :=
  ∃ row ∈ rows, hasSource id row.data = true ∧
    (row.data "dest").bind FirestoreValue.asString = some dest

theorem mem_destIDs (rows : List Row) (id dest : String) :
    dest ∈ destIDs (whereSource id rows) ↔ ListsUser rows id dest := by
  simp only [destIDs, whereSource, List.mem_filterMap, List.mem_filter, List.mem_map, ListsUser]
  constructor
  · intro ⟨data, ⟨⟨row, there, same⟩, source⟩, isDest⟩
    subst same
    exact ⟨row, there, source, isDest⟩
  · intro ⟨row, there, source, isDest⟩
    exact ⟨row.data, ⟨⟨row, there, rfl⟩, source⟩, isDest⟩

/-- The user blocked or reported the other one, and the completion said so. -/
def Acknowledged (s : System) (collection : Collection) (id dest : String) : Prop :=
  ∃ number call data, (number, .success true) ∈ s.completions ∧ s.calls[number]? = some call ∧
    call.request = some (.addDocument collection data) ∧
    (data "source").bind FirestoreValue.asString = some id ∧
    (data "dest").bind FirestoreValue.asString = some dest

/-- What was acknowledged is in the collection. -/
theorem lists_of_acknowledged {s : System} (kept : Accounted s) {collection : Collection}
    {id dest : String} (h : Acknowledged s collection id dest) :
    ListsUser (s.rows collection) id dest := by
  obtain ⟨number, call, data, succeeded, called, request, source, isDest⟩ := h
  have isRow : number ∈ (allRows s).filterMap Row.call := by
    refine kept.rows.mem_iff.mpr (List.mem_append_left _ ?_)
    exact List.mem_filterMap.mpr ⟨_, succeeded, rfl⟩
  obtain ⟨row, there, isCall⟩ := List.mem_filterMap.mp isRow
  obtain ⟨other, inRows⟩ : ∃ other, row ∈ s.rows other := by
    rcases List.mem_append.mp there with inReports | inBlocks
    · exact ⟨.reports, inReports⟩
    · exact ⟨.blocks, inBlocks⟩
  obtain ⟨call', called', request'⟩ := kept.data other row inRows number isCall
  rw [called] at called'
  cases called'
  rw [request] at request'
  cases request'
  exact ⟨row, inRows, by simp [hasSource, source], isDest⟩

/-- The tables only grow. -/
theorem effect_lists {s t : System} {e : Event} (h : Effect s e t) (collection : Collection)
    (id dest : String) (there : ListsUser (s.rows collection) id dest) :
    ListsUser (t.rows collection) id dest := by
  obtain ⟨row, inRows, found⟩ := there
  refine ⟨row, ?_, found⟩
  cases h with
  | otherClientAdds other data => exact (s.mem_rows_add other _ collection row).mpr (Or.inl inRows)
  | added index number other data rest served =>
    have added := (s.mem_rows_add other ⟨some number, data⟩ collection row).mpr (Or.inl inRows)
    cases collection <;> exact added
  | _ => cases collection <;> exact inRows

/-- A request that is served with an error. -/
def isRefusal : Event → Bool
  | .serve _ (some _) => true
  | _ => false

/-- The bounds of a lookup: what it must list of each collection, and which user asks. -/
structure Lookup where
  number : Nat
  id : String
  blocked : String → Prop
  reported : String → Prop

/-- The blocked users that a lookup has read so far: all it must list, and none else. -/
def BlocksRead (lookup : Lookup) (s : System) (blockedIDs : List String) : Prop :=
  (∀ dest, lookup.blocked dest → dest ∈ blockedIDs) ∧
    ∀ dest ∈ blockedIDs, ListsUser s.blocks lookup.id dest

def AnswerRead (lookup : Lookup) (past : List Event) (s : System) : Answer → Prop
  | .added _ => True
  | .blocks id (.ok documents) => id = lookup.id ∧ BlocksRead lookup s (destIDs documents)
  | .blocks _ (.error _) => ∃ e ∈ past, isRefusal e = true
  | .reports blockedIDs (.ok documents) => BlocksRead lookup s blockedIDs ∧
      (∀ dest, lookup.reported dest → dest ∈ destIDs documents) ∧
      ∀ dest ∈ destIDs documents, ListsUser s.reports lookup.id dest
  | .reports blockedIDs (.error _) =>
      BlocksRead lookup s blockedIDs ∧ ∃ e ∈ past, isRefusal e = true

/-- What the completion of a lookup is called with. -/
structure Result (lookup : Lookup) (past : List Event) (s : System) (users : Finset String) :
    Prop where
  listed : ∀ dest ∈ users, ListsUser s.blocks lookup.id dest ∨ ListsUser s.reports lookup.id dest
  blocked : users = ∅ ∨ ∀ dest, lookup.blocked dest → dest ∈ users
  all : (∀ e ∈ past, isRefusal e = false) →
    ∀ dest, lookup.blocked dest ∨ lookup.reported dest → dest ∈ users

/-- What holds of a lookup after the events since its call. -/
structure LookupKept (lookup : Lookup) (past : List Event) (s : System) : Prop where
  called : lookup.number < s.calls.length
  blocks : ∀ dest, lookup.blocked dest → ListsUser s.blocks lookup.id dest
  reports : ∀ dest, lookup.reported dest → ListsUser s.reports lookup.id dest
  getBlocks : ∀ id, (lookup.number, .getBlocks id) ∈ s.sent → id = lookup.id
  getReports : ∀ id blockedIDs, (lookup.number, .getReports id blockedIDs) ∈ s.sent →
    id = lookup.id ∧ BlocksRead lookup s blockedIDs
  served : ∀ answer, (lookup.number, answer) ∈ s.served → AnswerRead lookup past s answer
  completed : ∀ users, (lookup.number, .users users) ∈ s.completions → Result lookup past s users

section Step

variable {lookup : Lookup} {past : List Event} {s t : System} {e : Event}

theorem blocksRead_of_effect (h : Effect s e t) {blockedIDs : List String}
    (read : BlocksRead lookup s blockedIDs) : BlocksRead lookup t blockedIDs :=
  ⟨read.1, fun dest there => effect_lists h .blocks _ _ (read.2 dest there)⟩

theorem answerRead_of_effect (h : Effect s e t) {answer : Answer}
    (read : AnswerRead lookup past s answer) : AnswerRead lookup (past ++ [e]) t answer := by
  have later : (∃ e' ∈ past, isRefusal e' = true) → ∃ e' ∈ past ++ [e], isRefusal e' = true := by
    intro ⟨e', there, refusal⟩
    exact ⟨e', List.mem_append_left _ there, refusal⟩
  cases answer with
  | added error => trivial
  | blocks id reply =>
    cases reply with
    | error error => exact later read
    | ok documents => exact ⟨read.1, blocksRead_of_effect h read.2⟩
  | reports blockedIDs reply =>
    cases reply with
    | error error => exact ⟨blocksRead_of_effect h read.1, later read.2⟩
    | ok documents =>
      exact ⟨blocksRead_of_effect h read.1, read.2.1,
        fun dest there => effect_lists h .reports _ _ (read.2.2 dest there)⟩

theorem result_of_effect (h : Effect s e t) {users : Finset String}
    (result : Result lookup past s users) : Result lookup (past ++ [e]) t users where
  listed := fun dest there => (result.listed dest there).imp
    (effect_lists h .blocks _ _) (effect_lists h .reports _ _)
  blocked := result.blocked
  all := fun noRefusal => result.all fun e' there => noRefusal e' (List.mem_append_left _ there)

theorem effect_calls_length (h : Effect s e t) : s.calls.length ≤ t.calls.length := by
  rw [effect_callsOf h, List.length_append]
  omega

theorem not_refused (answered : ∃ e ∈ past, isRefusal e = true) :
    ¬∀ e ∈ past, isRefusal e = false := by
  obtain ⟨e, there, refusal⟩ := answered
  intro none
  rw [none e there] at refusal
  cases refusal

theorem lookup_getBlocks (kept : LookupKept lookup past s) (h : Effect s e t) :
    ∀ id, (lookup.number, .getBlocks id) ∈ t.sent → id = lookup.id := by
  intro id there
  have old := kept.getBlocks id
  cases h with
  | call c =>
    rcases List.mem_append.mp there with before | new
    · exact old before
    · obtain ⟨request, -, same⟩ := List.mem_map.mp new
      exact absurd (congrArg Prod.fst same).symm kept.called.ne
  | otherClientAdds => exact old (by simpa using there)
  | refused _ _ _ _ _ _ served => exact old (deliver_rest_subset served _ there)
  | added _ _ _ _ _ served => exact old (deliver_rest_subset served _ there)
  | readBlocks _ _ _ _ _ served => exact old (deliver_rest_subset served _ there)
  | readReports _ _ _ _ _ _ served => exact old (deliver_rest_subset served _ there)
  | gotBlocks =>
    rcases List.mem_append.mp there with before | new
    · exact old before
    · cases List.mem_singleton.mp new
  | acknowledged => exact old there
  | gotNoBlocks => exact old there
  | gotReports => exact old there
  | gotNoReports => exact old there

theorem lookup_getReports (kept : LookupKept lookup past s) (h : Effect s e t) :
    ∀ id blockedIDs, (lookup.number, .getReports id blockedIDs) ∈ t.sent →
      id = lookup.id ∧ BlocksRead lookup t blockedIDs := by
  intro id blockedIDs there
  have old : (lookup.number, .getReports id blockedIDs) ∈ s.sent →
      id = lookup.id ∧ BlocksRead lookup t blockedIDs := fun before =>
    (kept.getReports id blockedIDs before).imp_right (blocksRead_of_effect h)
  have effect := h
  cases h with
  | call c =>
    rcases List.mem_append.mp there with before | new
    · exact old before
    · obtain ⟨request, -, same⟩ := List.mem_map.mp new
      exact absurd (congrArg Prod.fst same).symm kept.called.ne
  | otherClientAdds => exact old (by simpa using there)
  | refused _ _ _ _ _ _ served => exact old (deliver_rest_subset served _ there)
  | added _ _ _ _ _ served => exact old (deliver_rest_subset served _ there)
  | readBlocks _ _ _ _ _ served => exact old (deliver_rest_subset served _ there)
  | readReports _ _ _ _ _ _ served => exact old (deliver_rest_subset served _ there)
  | gotBlocks _ _ _ _ _ answered =>
    rcases List.mem_append.mp there with before | new
    · exact old before
    · cases List.mem_singleton.mp new
      exact (kept.served _ (deliver_mem answered)).imp_right (blocksRead_of_effect effect)
  | acknowledged => exact old there
  | gotNoBlocks => exact old there
  | gotReports => exact old there
  | gotNoReports => exact old there

/-- The read of the blocks: exactly those of the moment. -/
theorem answerRead_blocks (kept : LookupKept lookup past s) (index : Nat)
    (error : Option String) :
    AnswerRead lookup (past ++ [.serve index error]) s
      (.blocks lookup.id (s.documents .blocks lookup.id error)) := by
  cases error with
  | some error => exact ⟨_, List.mem_append_right _ List.mem_cons_self, rfl⟩
  | none =>
    refine ⟨rfl, fun dest isBlocked => ?_, fun dest there => ?_⟩
    · exact (mem_destIDs _ _ _).mpr (kept.blocks dest isBlocked)
    · exact (mem_destIDs _ _ _).mp there

theorem answerRead_reports (kept : LookupKept lookup past s) (index : Nat)
    (error : Option String) {blockedIDs : List String} (read : BlocksRead lookup s blockedIDs) :
    AnswerRead lookup (past ++ [.serve index error]) s
      (.reports blockedIDs (s.documents .reports lookup.id error)) := by
  cases error with
  | some error => exact ⟨read, _, List.mem_append_right _ List.mem_cons_self, rfl⟩
  | none =>
    refine ⟨read, fun dest isReported => ?_, fun dest there => ?_⟩
    · exact (mem_destIDs _ _ _).mpr (kept.reports dest isReported)
    · exact (mem_destIDs _ _ _).mp there

theorem lookup_served (kept : LookupKept lookup past s) (h : Effect s e t) :
    ∀ answer, (lookup.number, answer) ∈ t.served →
      AnswerRead lookup (past ++ [e]) t answer := by
  intro answer there
  have old : (lookup.number, answer) ∈ s.served →
      AnswerRead lookup (past ++ [e]) t answer := fun before =>
    answerRead_of_effect h (kept.served answer before)
  cases h with
  | call c => exact old there
  | otherClientAdds => exact old (by simpa using there)
  | refused =>
    rcases List.mem_append.mp there with before | new
    · exact old before
    · cases List.mem_singleton.mp new
      trivial
  | added =>
    rcases List.mem_append.mp there with before | new
    · exact old before
    · cases List.mem_singleton.mp new
      trivial
  | readBlocks index number id rest error served =>
    rcases List.mem_append.mp there with before | new
    · exact old before
    · cases List.mem_singleton.mp new
      cases kept.getBlocks id (deliver_mem served)
      exact answerRead_blocks kept index error
  | readReports index number id blockedIDs rest error served =>
    rcases List.mem_append.mp there with before | new
    · exact old before
    · cases List.mem_singleton.mp new
      obtain ⟨same, read⟩ := kept.getReports id blockedIDs (deliver_mem served)
      cases same
      exact answerRead_reports kept index error read
  | gotBlocks _ _ _ _ _ answered => exact old (deliver_rest_subset answered _ there)
  | acknowledged _ _ _ _ answered => exact old (deliver_rest_subset answered _ there)
  | gotNoBlocks _ _ _ _ _ answered => exact old (deliver_rest_subset answered _ there)
  | gotReports _ _ _ _ _ answered => exact old (deliver_rest_subset answered _ there)
  | gotNoReports _ _ _ _ _ answered => exact old (deliver_rest_subset answered _ there)

theorem lookup_completed (kept : LookupKept lookup past s) (h : Effect s e t) :
    ∀ users, (lookup.number, .users users) ∈ t.completions →
      Result lookup (past ++ [e]) t users := by
  intro users there
  have old : (lookup.number, .users users) ∈ s.completions →
      Result lookup (past ++ [e]) t users := fun before =>
    result_of_effect h (kept.completed users before)
  have new (result : Result lookup past s users) : Result lookup (past ++ [e]) t users :=
    result_of_effect h result
  cases h with
  | call c => exact old there
  | otherClientAdds => exact old (by simpa using there)
  | refused => exact old there
  | added => exact old (by simpa using there)
  | readBlocks => exact old there
  | readReports => exact old there
  | gotBlocks => exact old there
  | acknowledged =>
    rcases List.mem_append.mp there with before | last
    · exact old before
    · cases List.mem_singleton.mp last
  | gotNoBlocks _ _ id error _ answered =>
    rcases List.mem_append.mp there with before | last
    · exact old before
    · cases List.mem_singleton.mp last
      have refused := not_refused (kept.served _ (deliver_mem answered))
      exact new ⟨fun _ absurd_ => absurd absurd_ (Finset.notMem_empty _), Or.inl rfl,
        fun noRefusal => absurd noRefusal refused⟩
  | gotReports _ _ blockedIDs documents _ answered =>
    rcases List.mem_append.mp there with before | last
    · exact old before
    · cases List.mem_singleton.mp last
      obtain ⟨read, least, most⟩ := kept.served _ (deliver_mem answered)
      refine new ⟨fun dest isIn => ?_, Or.inr fun dest isBlocked => ?_, fun _ dest isEither => ?_⟩
      · exact (List.mem_append.mp (List.mem_toFinset.mp isIn)).imp (read.2 dest) (most dest)
      · exact List.mem_toFinset.mpr (List.mem_append_left _ (read.1 dest isBlocked))
      · exact List.mem_toFinset.mpr (List.mem_append.mpr
          (isEither.imp (read.1 dest) (least dest)))
  | gotNoReports _ _ blockedIDs error _ answered =>
    rcases List.mem_append.mp there with before | last
    · exact old before
    · cases List.mem_singleton.mp last
      obtain ⟨read, refusal⟩ := kept.served _ (deliver_mem answered)
      refine new ⟨fun dest isIn => ?_, Or.inr fun dest isBlocked => ?_, fun noRefusal => ?_⟩
      · exact Or.inl (read.2 dest (List.mem_toFinset.mp isIn))
      · exact List.mem_toFinset.mpr (read.1 dest isBlocked)
      · exact absurd noRefusal (not_refused refusal)

theorem lookupKept_step (kept : LookupKept lookup past s) (h : step s e = some t) :
    LookupKept lookup (past ++ [e]) t where
  called := lt_of_lt_of_le kept.called (effect_calls_length (step_cases h))
  blocks := fun dest isBlocked =>
    effect_lists (step_cases h) .blocks _ _ (kept.blocks dest isBlocked)
  reports := fun dest isReported =>
    effect_lists (step_cases h) .reports _ _ (kept.reports dest isReported)
  getBlocks := lookup_getBlocks kept (step_cases h)
  getReports := lookup_getReports kept (step_cases h)
  served := lookup_served kept (step_cases h)
  completed := lookup_completed kept (step_cases h)

end Step

/-- Nothing has the number of a call that is only being made. -/
theorem number_unused {s : System} (kept : Accounted s) :
    (∀ request, (s.calls.length, request) ∉ s.sent) ∧
      (∀ answer, (s.calls.length, answer) ∉ s.served) ∧
      ∀ completion, (s.calls.length, completion) ∉ s.completions := by
  have unused (call : Call) : ¬s.calls[s.calls.length]? = some call := by simp
  refine ⟨fun request there => ?_, fun answer there => ?_, fun completion there => ?_⟩
  · obtain ⟨call, called, -⟩ := kept.sent _ there
    exact unused call called
  · obtain ⟨call, called, -⟩ := kept.served _ there
    exact unused call called
  · obtain ⟨call, called, -⟩ := kept.completions _ there
    exact unused call called

/-- A lookup by a user, after any run and with any events after it: what it returns is in the
collections; it is empty or has every user whose block was acknowledged before; and unless some
request is refused after the call it also has every user whose report was. -/
theorem lookup_result (blocks reports : List DocumentData) (before after : List Event)
    (id : String) (s₀ s : System) (h₀ : run step (.initial blocks reports) before = some s₀)
    (h : run step s₀ (.call (.userIDsBlockedOrReported (some id)) :: after) = some s)
    (users : Finset String) (completed : (s₀.calls.length, .users users) ∈ s.completions) :
    (∀ dest ∈ users, ListsUser s.blocks id dest ∨ ListsUser s.reports id dest) ∧
    (users = ∅ ∨ ∀ dest, Acknowledged s₀ .blocks id dest → dest ∈ users) ∧
    ((∀ e ∈ after, isRefusal e = false) → ∀ (collection : Collection) (dest : String),
      Acknowledged s₀ collection id dest → dest ∈ users) := by
  have kept₀ := accounted_run h₀
  obtain ⟨notSent, notServed, notCompleted⟩ := number_unused kept₀
  obtain ⟨s₁, called, rest⟩ := (run_cons_eq_some _ _ _ _).mp h
  cases called
  have atCall : LookupKept ⟨s₀.calls.length, id, ListsUser s₀.blocks id, ListsUser s₀.reports id⟩ []
      (s₀.call (.userIDsBlockedOrReported (some id))) := by
    refine ⟨?_, fun _ listed => listed, fun _ listed => listed, fun other there => ?_,
      fun other blockedIDs there => ?_, fun answer there => ?_, fun users there => ?_⟩
    · simp [System.call]
    · rcases List.mem_append.mp there with old | new
      · exact absurd old (notSent _)
      · cases List.mem_singleton.mp new
        rfl
    · rcases List.mem_append.mp there with old | new
      · exact absurd old (notSent _)
      · cases List.mem_singleton.mp new
    · exact absurd there (notServed answer)
    · exact absurd there (notCompleted _)
  have kept := run_history (LookupKept _) (fun _ _ _ _ kept h' => lookupKept_step kept h')
    atCall rest
  obtain ⟨listed, blocked, all⟩ := kept.completed users completed
  refine ⟨listed, blocked.imp_right fun has dest acknowledged => ?_,
    fun noRefusal collection dest acknowledged => ?_⟩
  · exact has dest (lists_of_acknowledged kept₀ acknowledged)
  · have inTable := lists_of_acknowledged kept₀ acknowledged
    cases collection with
    | reports => exact all noRefusal dest (Or.inr inTable)
    | blocks => exact all noRefusal dest (Or.inl inTable)

/-- A block that is acknowledged. -/
def anaBlocksBob : List Event :=
  [.call (.block (some "ana") (some "bob") 0), .serve 0 none, .answer 0]

/-- What comes after the call of a lookup, with a block of another client. -/
def lookupServed : List Event :=
  [.serve 0 none, .otherClientAdds .blocks (blockData "bob" "ana" 0), .answer 0, .serve 0 none,
    .answer 0]

theorem lookup_result_of_block : ∃ s₀ s users,
    run step (.initial [] []) anaBlocksBob = some s₀ ∧
    run step s₀ (.call (.userIDsBlockedOrReported (some "ana")) :: lookupServed) = some s ∧
    (s₀.calls.length, .users users) ∈ s.completions ∧ "bob" ∈ users := by
  refine ⟨_, _, _, rfl, rfl, List.mem_cons_of_mem _ List.mem_cons_self, ?_⟩
  have result := lookup_result [] [] anaBlocksBob lookupServed "ana" _ _ rfl rfl _
    (List.mem_cons_of_mem _ List.mem_cons_self)
  exact result.2.2 (by decide) .blocks "bob"
    ⟨0, .block (some "ana") (some "bob") 0, _, List.mem_cons_self, rfl, rfl, rfl, rfl⟩

end FinanciaApp.Guarantees
