import FinanciaApp.Library.InFlight
import FinanciaApp.Source.ATCGenericCollectionViewController

/-!
# The two ways to fetch expenses

`FinanceApp/FinanceApp/ExpenseDataProvider.swift` and `fetchExpenses` with its static array
(`FinanceApp/FinanceApp/FinanceStaticDataProvider.swift:398-427`). Both read the documents
of the `expenses` collection; the provider forces every field to be a string, and a failed
forced cast stops the app. `loadFirst` calls its delegate right after it has sent the
query, before any reply.
-/

set_option autoImplicit false

namespace FinanciaApp.Source

open Library

/-- The values of a document's fields. -/
inductive FirestoreValue where
  | null
  | boolean (value : Bool)
  | number (value : Rat)
  | timestamp (seconds : Rat)
  | string (value : String)
  | bytes (value : List UInt8)
  | reference (path : String)
  | geoPoint (latitude longitude : Rat)
  | array (elements : List FirestoreValue)
  | map (members : List (String × FirestoreValue))

/-- `value as? String`. -/
def FirestoreValue.asString : FirestoreValue → Option String
  | .string value => some value
  | _ => none

/-- `document.data()`. -/
abbrev DocumentData := String → Option FirestoreValue

/-- What the closure of `getDocuments` is called with: an error or the documents. -/
abbrev DocumentsReply := Except String (List DocumentData)

structure ATCExpenseCategory where
  title : String
  color : String
  logoURL : String
  spending : String
  deriving DecidableEq, Repr

/-- `data[field] as! String`; `none` is a trap. -/
def forcedString (data : DocumentData) (field : String) : Option String :=
  (data field).bind FirestoreValue.asString

/-- `data[field] as? String ?? ""`. -/
def stringOrEmpty (data : DocumentData) (field : String) : String :=
  ((data field).bind FirestoreValue.asString).getD ""

structure ExpenseDataProvider where
  expenses : List ATCExpenseCategory
  deriving DecidableEq, Repr

namespace ExpenseDataProvider

/-- A negative index traps in the source and is `none` here. -/
instance : ATCGenericCollectionViewControllerDataSource ExpenseDataProvider ATCExpenseCategory where
  object provider index := if 0 ≤ index then provider.expenses[index.toNat]? else none
  numberOfObjects provider := provider.expenses.length

/-- The body of the loop of `loadFirst`. -/
def expenseOf (data : DocumentData) : Option ATCExpenseCategory := do
  let ti ← forcedString data "title"
  let co ← forcedString data "color"
  let url ← forcedString data "logoURL"
  let sp ← forcedString data "spending"
  return ⟨ti, co, url, sp⟩

/-- The closure that `loadFirst` passes to `getDocuments`; `none` is a trap. -/
def getDocumentsCompletion (reply : DocumentsReply) (provider : ExpenseDataProvider) :
    Option ExpenseDataProvider :=
  match reply with
  | .error _ => some provider
  | .ok documents => (documents.mapM expenseOf).map fun results => ⟨results⟩

/-- The provider, its delegate, the number of queries in flight, and whether the app has
been stopped by a trap. -/
structure System where
  provider : ExpenseDataProvider
  delegate : ATCGenericCollectionViewController ATCExpenseCategory
  inFlight : Nat
  trapped : Bool

def System.initial : System := ⟨⟨[]⟩, .empty, 0, false⟩

/-- Replies do not differ by the query they answer. -/
inductive Event where
  | loadFirst
  | reply (documents : DocumentsReply)

/-- The query is sent and the delegate is called with the present expenses. -/
def System.loadFirst (s : System) : System :=
  { s with
    delegate := s.delegate.handle s.provider (.didLoadFirst s.provider.expenses)
    inFlight := s.inFlight + 1 }

def step (s : System) : Event → Option System
  | .loadFirst => if s.trapped then none else some s.loadFirst
  | .reply documents =>
    if s.trapped || s.inFlight = 0 then none
    else
      match getDocumentsCompletion documents s.provider with
      | some provider => some { s with provider := provider, inFlight := s.inFlight - 1 }
      | none => some { s with inFlight := s.inFlight - 1, trapped := true }

end ExpenseDataProvider

namespace FetchExpenses

/-- The body of the loop of `fetchExpenses`. -/
def expenseCategory (data : DocumentData) : ATCExpenseCategory :=
  let color := stringOrEmpty data "color"
  let logoURL := stringOrEmpty data "logoURL"
  let spending := stringOrEmpty data "spending"
  let title := stringOrEmpty data "title"
  ⟨title, color, logoURL, spending⟩

/-- The closure that `fetchExpenses` passes to `getDocuments`, on the static array; the
completion is called with the array that is left. -/
def getDocumentsCompletion (reply : DocumentsReply) (expenses : List ATCExpenseCategory) :
    List ATCExpenseCategory :=
  match reply with
  | .error _ => expenses
  | .ok documents =>
    documents.foldl (fun array document => array ++ [expenseCategory document]) expenses

/-- The static array `ExpenseObject.expenses`, the calls in flight by number, and the lists
that completions received, with the number of their call. -/
structure System where
  expenses : List ATCExpenseCategory
  calls : Nat
  inFlight : List Nat
  completions : List (Nat × List ATCExpenseCategory)
  deriving DecidableEq, Repr

/-- The static array starts empty. -/
def System.initial : System := ⟨[], 0, [], []⟩

inductive Event where
  | fetchExpenses
  | reply (index : Nat) (documents : DocumentsReply)

def System.complete (s : System) (call : Nat) (rest : List Nat) (reply : DocumentsReply) :
    System :=
  { s with
    expenses := getDocumentsCompletion reply s.expenses
    inFlight := rest
    completions := s.completions ++ [(call, getDocumentsCompletion reply s.expenses)] }

def step (s : System) : Event → Option System
  | .fetchExpenses => some { s with calls := s.calls + 1, inFlight := s.inFlight ++ [s.calls] }
  | .reply index documents =>
    (deliver s.inFlight index).map fun answered => s.complete answered.1 answered.2 documents

theorem getDocumentsCompletion_ok (documents : List DocumentData)
    (expenses : List ATCExpenseCategory) :
    getDocumentsCompletion (.ok documents) expenses =
      expenses ++ documents.map expenseCategory := by
  induction documents generalizing expenses with
  | nil => exact (List.append_nil expenses).symm
  | cons document documents ih =>
    have rest := ih (expenses ++ [expenseCategory document])
    rw [List.append_assoc] at rest
    exact rest

end FetchExpenses

end FinanciaApp.Source
