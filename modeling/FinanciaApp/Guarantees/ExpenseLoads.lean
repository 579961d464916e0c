import FinanciaApp.Library.FailableMaps
import FinanciaApp.Library.Runs
import FinanciaApp.Source.Expenses
import FinanciaApp.Guarantees.CollectionViewRows

/-!
# What the expenses on screen are

`loadFirst` announces the expenses it has when the query is sent, so the announced list is
the list of rows only where the replies bring nothing new. `fetchExpenses` hands out the
static array, so a call receives its own snapshot only where the array was empty. The two
decode a snapshot to the same list exactly when every field is a string; otherwise
`loadFirst` traps.
-/

set_option autoImplicit false

namespace FinanciaApp.Guarantees

open Library Source

section LoadFirst

open ExpenseDataProvider

/-- The list most recently announced through `didLoadFirst`. -/
def announced (s : System) : Option (List ATCExpenseCategory) :=
  s.delegate.notifications.getLast?.map Notification.objects

/-- While no fetch is in flight, the announced list is the list of rows of the provider,
and the rows on screen are these rows. -/
def AnnouncedIsShown (_s : System) (_e : Event) (t : System) : Prop :=
  t.trapped = false → t.inFlight = 0 → ∀ objects, announced t = some objects →
    objects.map some = sourceRows t.provider ∧ t.delegate.rows = sourceRows t.provider

/-- The reply brings the announced categories, or it is an error and the provider has them. -/
def Brings (objects expenses : List ATCExpenseCategory) : DocumentsReply → Prop
  | .ok documents => ∀ categories, documents.mapM expenseOf = some categories → categories = objects
  | .error _ => expenses = objects

/-- A reply that leaves no fetch in flight brings what was announced last. -/
def BringsTheAnnounced (s : System) (e : Event) : Prop :=
  ∀ reply objects, e = .reply reply → s.inFlight = 1 → announced s = some objects →
    Brings objects s.provider.expenses reply

/-- The screen shows what was announced last. -/
def ShowsAnnounced (s : System) : Prop :=
  ∀ objects, announced s = some objects → s.delegate.rows = objects.map some

theorem provider_lists (provider : ExpenseDataProvider) : Lists provider provider.expenses where
  count := rfl
  rows i _ := if_pos (Int.natCast_nonneg i)

theorem provider_rows (provider : ExpenseDataProvider) :
    sourceRows provider = provider.expenses.map some :=
  sourceRows_of_lists (provider_lists provider)

theorem showsAnnounced_loadFirst (s : System) : ShowsAnnounced s.loadFirst := by
  intro objects last
  have isLast : announced s.loadFirst = some s.provider.expenses := by
    simp [announced, System.loadFirst, Notification.objects]
  rw [isLast, Option.some.injEq] at last
  subst last
  exact provider_rows s.provider

/-- What a step can do. -/
theorem expense_step_cases {s t : System} {e : Event} (taken : step s e = some t) :
    (e = .loadFirst ∧ t = s.loadFirst) ∨
      ∃ reply, e = .reply reply ∧ s.trapped = false ∧ s.inFlight ≠ 0 ∧
        ((∃ provider, getDocumentsCompletion reply s.provider = some provider ∧
            t = { s with provider := provider, inFlight := s.inFlight - 1 }) ∨
          getDocumentsCompletion reply s.provider = none ∧
            t = { s with inFlight := s.inFlight - 1, trapped := true }) := by
  cases e with
  | loadFirst =>
    simp only [step] at taken
    split at taken
    · cases taken
    · cases taken
      exact .inl ⟨rfl, rfl⟩
  | reply reply =>
    simp only [step] at taken
    split at taken
    · cases taken
    · rename_i running
      simp only [Bool.or_eq_true, decide_eq_true_eq, not_or, Bool.not_eq_true] at running
      refine .inr ⟨reply, rfl, running.1, running.2, ?_⟩
      split at taken
      · rename_i provider completed
        cases taken
        exact .inl ⟨provider, completed, rfl⟩
      · rename_i trap
        cases taken
        exact .inr ⟨trap, rfl⟩

theorem showsAnnounced_step {s t : System} {e : Event} (h : ShowsAnnounced s)
    (taken : step s e = some t) : ShowsAnnounced t := by
  rcases expense_step_cases taken with
    ⟨-, rfl⟩ | ⟨reply, -, -, -, ⟨provider, -, rfl⟩ | ⟨-, rfl⟩⟩
  · exact showsAnnounced_loadFirst s
  · exact h
  · exact h

/-- The rows a reply leaves are the announced ones exactly when it brings them. -/
theorem brings_iff {reply : DocumentsReply} {before provider : ExpenseDataProvider}
    (objects : List ATCExpenseCategory)
    (completed : getDocumentsCompletion reply before = some provider) :
    Brings objects before.expenses reply ↔ objects = provider.expenses := by
  cases reply with
  | error message =>
    cases completed
    exact eq_comm
  | ok documents =>
    obtain ⟨results, decoded, rfl⟩ := Option.map_eq_some_iff.mp completed
    constructor
    · intro brings
      exact (brings results decoded).symm
    · intro same categories decoded'
      rw [decoded, Option.some.injEq] at decoded'
      rw [← decoded', same]

/-- A reply that traps brings no categories. -/
theorem brings_of_trap {reply : DocumentsReply} {before : ExpenseDataProvider}
    (objects : List ATCExpenseCategory) (trap : getDocumentsCompletion reply before = none) :
    Brings objects before.expenses reply := by
  cases reply with
  | error message => cases trap
  | ok documents =>
    intro categories decoded
    simp [getDocumentsCompletion, decoded] at trap

theorem announcedIsShown_step_iff (s : System) (e : Event) (t : System) (h : ShowsAnnounced s)
    (taken : step s e = some t) : AnnouncedIsShown s e t ↔ BringsTheAnnounced s e := by
  rcases expense_step_cases taken with
    ⟨rfl, rfl⟩ | ⟨reply, rfl, running, waiting, ⟨provider, completed, rfl⟩ | ⟨trap, rfl⟩⟩
  · refine iff_of_true (fun _ idle => absurd idle (Nat.succ_ne_zero _)) ?_
    intro reply objects isReply
    cases isReply
  · have left : s.inFlight - 1 = 0 ↔ s.inFlight = 1 := by omega
    constructor
    · intro shown reply' objects isReply last isAnnounced
      cases isReply
      have rows := (shown running (left.mpr last) objects isAnnounced).1
      rw [provider_rows] at rows
      exact (brings_iff objects completed).mpr
        (List.map_injective_iff.mpr (fun _ _ => Option.some.inj) rows)
    · intro brings _ idle objects isAnnounced
      have same := (brings_iff objects completed).mp
        (brings reply objects rfl (left.mp idle) isAnnounced)
      rw [provider_rows, ← same]
      exact ⟨rfl, h objects isAnnounced⟩
  · refine iff_of_true (fun alive => by cases alive) ?_
    intro reply' objects isReply _ _
    cases isReply
    exact brings_of_trap objects trap

/-- Along every run, the announced list is the list of rows whenever no fetch is in flight
exactly when every reply that leaves none in flight brings what was announced last. -/
theorem announced_is_shown_iff (es : List Event) :
    AlongRun step AnnouncedIsShown .initial es ↔
      AlongRun step (fun s e _ => BringsTheAnnounced s e) .initial es :=
  alongRun_iff_of_invariant ShowsAnnounced announcedIsShown_step_iff
    (fun _ _ _ h taken _ => showsAnnounced_step h taken) (fun _ none => by cases none)

end LoadFirst

/-- A document with the four fields. -/
def rentDocument : DocumentData := fun field =>
  if field = "title" then some (.string "Rent")
  else if field = "color" then some (.string "#fff")
  else if field = "logoURL" then some (.string "rent.png")
  else if field = "spending" then some (.string "$1200")
  else none

open ExpenseDataProvider in
/-- The first load announces an empty list, and its reply brings one category. -/
theorem first_load_announces_nothing :
    ¬ ∀ es : List Event, AlongRun step AnnouncedIsShown .initial es := by
  intro claim
  have along := claim [.loadFirst, .reply (.ok [rentDocument])]
  have shown := ((along _ rfl).2 _ rfl).1 rfl rfl [] rfl
  exact absurd shown.1 (by decide)

section FetchExpenses

open FetchExpenses

/-- The completion of a call receives one category for each document of its snapshot. -/
def ReceivesItsSnapshot (s : System) (e : Event) (t : System) : Prop :=
  ∀ index documents call rest, e = .reply index (.ok documents) →
    deliver s.inFlight index = some (call, rest) →
    t.completions = s.completions ++ [(call, documents.map expenseCategory)]

/-- A snapshot arrives while the static array is empty. -/
def ArrivesFirst (s : System) (e : Event) : Prop :=
  ∀ index documents, e = .reply index (.ok documents) → s.expenses = []

theorem receivesItsSnapshot_step_iff (s : System) (e : Event) (t : System)
    (taken : step s e = some t) : ReceivesItsSnapshot s e t ↔ ArrivesFirst s e := by
  cases e with
  | fetchExpenses =>
    exact iff_of_true (fun _ _ _ _ isReply => by cases isReply)
      (fun _ _ isReply => by cases isReply)
  | reply index reply =>
    obtain ⟨⟨call, rest⟩, answered, rfl⟩ := Option.map_eq_some_iff.mp taken
    cases reply with
    | error message =>
      exact iff_of_true (fun _ _ _ _ isReply => by cases isReply)
        (fun _ _ isReply => by cases isReply)
    | ok documents =>
      constructor
      · intro receives index' documents' isReply
        cases isReply
        have completed := receives index documents call rest rfl answered
        simpa [System.complete, getDocumentsCompletion_ok] using completed
      · intro first index' documents' call' rest' isReply answered'
        cases isReply
        rw [answered, Option.some.injEq, Prod.mk.injEq] at answered'
        obtain ⟨rfl, rfl⟩ := answered'
        simp [System.complete, getDocumentsCompletion_ok, first index documents rfl]

/-- Along every run, every call receives the categories of its own snapshot exactly when
every snapshot arrives while the static array is empty. -/
theorem receives_its_snapshot_iff (es : List Event) :
    AlongRun step ReceivesItsSnapshot .initial es ↔
      AlongRun step (fun s e _ => ArrivesFirst s e) .initial es :=
  alongRun_iff_of_step receivesItsSnapshot_step_iff .initial es

/-- The second call receives the document twice. -/
theorem second_fetch_receives_both :
    ¬ ∀ es : List Event, AlongRun step ReceivesItsSnapshot .initial es := by
  intro claim
  have along := claim [.fetchExpenses, .reply 0 (.ok [rentDocument]), .fetchExpenses,
    .reply 0 (.ok [rentDocument])]
  have receives := ((((along _ rfl).2 _ rfl).2 _ rfl).2 _ rfl).1 0 [rentDocument] 1 [] rfl rfl
  exact absurd receives (by decide)

end FetchExpenses

section SameSnapshot

/-- The two first loads of a snapshot end without a trap and with one list of categories. -/
def FirstLoadsAgree (documents : List DocumentData) : Prop :=
  ∃ categories : List ATCExpenseCategory,
    (∃ t, run ExpenseDataProvider.step .initial [.loadFirst, .reply (.ok documents)] = some t ∧
      t.trapped = false ∧ t.provider.expenses = categories) ∧
    ∃ t, run FetchExpenses.step .initial [.fetchExpenses, .reply 0 (.ok documents)] = some t ∧
      t.completions = [(0, categories)]

/-- All four fields are there and are strings. -/
def FieldsAreStrings (data : DocumentData) : Prop :=
  ∀ field ∈ ["title", "color", "logoURL", "spending"], ∃ value, data field = some (.string value)

theorem isString_iff (data : DocumentData) (field : String) :
    (∃ value, data field = some (.string value)) ↔ (forcedString data field).isSome := by
  cases found : data field with
  | none => simp [forcedString, found]
  | some stored => cases stored <;> simp [forcedString, found, FirestoreValue.asString]

/-- The forced decoding of a document succeeds exactly when its fields are strings. -/
theorem expenseOf_isSome_iff (data : DocumentData) :
    (ExpenseDataProvider.expenseOf data).isSome ↔ FieldsAreStrings data := by
  simp only [FieldsAreStrings, List.forall_mem_cons, List.not_mem_nil, false_imp_iff,
    implies_true, and_true, isString_iff]
  cases title : forcedString data "title" <;> cases color : forcedString data "color" <;>
    cases url : forcedString data "logoURL" <;> cases spending : forcedString data "spending" <;>
    simp [ExpenseDataProvider.expenseOf, title, color, url, spending]

/-- Where it succeeds, the decoding with defaults gives the same category. -/
theorem expenseOf_eq {data : DocumentData} {category : ATCExpenseCategory}
    (decoded : ExpenseDataProvider.expenseOf data = some category) :
    category = FetchExpenses.expenseCategory data := by
  simp only [ExpenseDataProvider.expenseOf, Option.bind_eq_bind, Option.bind_eq_some_iff,
    Option.pure_def, Option.some.injEq] at decoded
  obtain ⟨title, isTitle, color, isColor, url, isURL, spending, isSpending, rfl⟩ := decoded
  simp only [forcedString] at isTitle isColor isURL isSpending
  simp [FetchExpenses.expenseCategory, stringOrEmpty, isTitle, isColor, isURL, isSpending]

theorem mapM_expenseOf_iff (documents : List DocumentData) (categories : List ATCExpenseCategory) :
    documents.mapM ExpenseDataProvider.expenseOf = some categories ↔
      (∀ data ∈ documents, FieldsAreStrings data) ∧
        categories = documents.map FetchExpenses.expenseCategory := by
  rw [mapM_eq_some_map_iff fun _ _ => expenseOf_eq]
  simp only [expenseOf_isSome_iff]

/-- The first load decodes every document, or stops the app. -/
theorem run_first_load (documents : List DocumentData) :
    ∃ t, run ExpenseDataProvider.step .initial [.loadFirst, .reply (.ok documents)] = some t ∧
      match documents.mapM ExpenseDataProvider.expenseOf with
      | some categories => t.trapped = false ∧ t.provider.expenses = categories
      | none => t.trapped = true := by
  let delegate := ExpenseDataProvider.System.initial.loadFirst.delegate
  cases decoded : documents.mapM ExpenseDataProvider.expenseOf with
  | none =>
    refine ⟨⟨⟨[]⟩, delegate, 0, true⟩, ?_, rfl⟩
    simp [delegate, run, ExpenseDataProvider.step, ExpenseDataProvider.System.initial,
      ExpenseDataProvider.System.loadFirst, ExpenseDataProvider.getDocumentsCompletion, decoded]
  | some categories =>
    refine ⟨⟨⟨categories⟩, delegate, 0, false⟩, ?_, rfl, rfl⟩
    simp [delegate, run, ExpenseDataProvider.step, ExpenseDataProvider.System.initial,
      ExpenseDataProvider.System.loadFirst, ExpenseDataProvider.getDocumentsCompletion, decoded]

theorem run_first_fetch (documents : List DocumentData) :
    ∃ t, run FetchExpenses.step .initial [.fetchExpenses, .reply 0 (.ok documents)] = some t ∧
      t.completions = [(0, documents.map FetchExpenses.expenseCategory)] := by
  refine ⟨_, rfl, ?_⟩
  simp [FetchExpenses.System.complete, FetchExpenses.getDocumentsCompletion_ok,
    FetchExpenses.System.initial]

/-- The two first loads of a snapshot agree and do not trap exactly when every document
has all four fields as strings. -/
theorem first_loads_agree_iff (documents : List DocumentData) :
    FirstLoadsAgree documents ↔ ∀ data ∈ documents, FieldsAreStrings data := by
  obtain ⟨loaded, taken, outcome⟩ := run_first_load documents
  obtain ⟨fetched, takenFetch, completions⟩ := run_first_fetch documents
  constructor
  · rintro ⟨categories, ⟨t, taken', alive, -⟩, -⟩
    rw [taken, Option.some.injEq] at taken'
    subst taken'
    cases decoded : documents.mapM ExpenseDataProvider.expenseOf with
    | none =>
      rw [decoded] at outcome
      rw [outcome] at alive
      cases alive
    | some categories => exact ((mapM_expenseOf_iff documents categories).mp decoded).1
  · intro strings
    rw [(mapM_expenseOf_iff documents _).mpr ⟨strings, rfl⟩] at outcome
    exact ⟨_, ⟨loaded, taken, outcome.1, outcome.2⟩, fetched, takenFetch, completions⟩

/-- A document without fields stops the app in one of the two. -/
theorem empty_document_traps :
    ¬ ∀ documents : List DocumentData, FirstLoadsAgree documents := by
  intro claim
  obtain ⟨-, ⟨t, taken, alive, -⟩, -⟩ := claim [fun _ => none]
  obtain rfl := Option.some.inj taken
  cases alive

end SameSnapshot

end FinanciaApp.Guarantees
