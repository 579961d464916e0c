import FinanciaApp.Source.RestAPISystem
import FinanciaApp.Source.FirebaseSystem

/-!
# The displayed rows are the rows of the data source

`Lists dataSource xs` says that a data source answers the list `xs` row by row.
Whatever notification a data source sends after it appended the reported objects,
the controller ends up displaying its rows, and a batch update has the counts that
UIKit asserts. Both data sources notify in this way in every run.
-/

set_option autoImplicit false

namespace FinanciaApp.Guarantees

open Library Source ATCGenericCollectionViewControllerDataSource

universe u v w

section Controller

variable {D : Type v} {T : Type u} [ATCGenericCollectionViewControllerDataSource D T]

/-- The data source counts and answers the rows of `xs`. -/
structure Lists (dataSource : D) (xs : List T) : Prop where
  count : numberOfObjects dataSource = (xs.length : Int)
  rows : ∀ i : Nat, i < xs.length → object dataSource (i : Int) = xs[i]?

/-- Every inserted index path is `numberOfObjects - objects.count + i` and shows
`objects[i]`, and the row counts before and after differ by the inserted rows. -/
structure ConsistentBatch (batch : BatchUpdate T) : Prop where
  indexPaths : ∀ i : Nat, i < batch.objects.length →
    batch.indexPaths[i]? = some (batch.numberOfItems - batch.objects.length + i)
  shows : ∀ (i : Nat) (row : Int), batch.indexPaths[i]? = some row →
    0 ≤ row ∧ row < batch.numberOfItems ∧ batch.rowsAfter[row.toNat]? = some batch.objects[i]?
  counts : (batch.rowsBefore.length : Int) + batch.indexPaths.length = batch.numberOfItems
  displayed : (batch.rowsAfter.length : Int) = batch.numberOfItems

/-- The controller displays the rows of the data source, and all its batch updates
so far were consistent. -/
structure Displays (controller : ATCGenericCollectionViewController T) (dataSource : D) :
    Prop where
  rows : controller.rows = sourceRows dataSource
  batches : ∀ batch ∈ controller.batches, ConsistentBatch batch

variable {dataSource : D} {before objects : List T}

theorem sourceRows_of_lists {xs : List T} (lists : Lists dataSource xs) :
    sourceRows dataSource = xs.map some := by
  unfold sourceRows
  rw [lists.count, Int.toNat_natCast]
  apply List.ext_getElem
  · simp
  · intro i hi _
    have bound : i < xs.length := by simpa using hi
    simp [lists.rows i bound, List.getElem?_eq_getElem bound]

/-- Inserting the reported rows one after the other at the end extends the display. -/
theorem insertItems_of_lists (lists : Lists dataSource (before ++ objects)) (n : Nat)
    (bound : n ≤ objects.length) :
    insertItems dataSource (before.map some)
        ((List.range n).map fun i : Nat => (before.length : Int) + (i : Int)) =
      (before ++ objects.take n).map some := by
  induction n with
  | zero => simp [insertItems]
  | succ n ih =>
    have inside : n < objects.length := bound
    have index : ((before.length : Int) + (n : Int)).toNat = before.length + n := by omega
    have shown : object dataSource ((before.length : Int) + (n : Int)) = some objects[n] := by
      have answer := lists.rows (before.length + n) (by rw [List.length_append]; omega)
      rw [List.getElem?_append_right (by omega), Nat.add_sub_cancel_left,
        List.getElem?_eq_getElem inside] at answer
      exact_mod_cast answer
    have atEnd : before.length + n = ((before ++ objects.take n).map some).length := by
      simp only [List.length_map, List.length_append, List.length_take]
      omega
    rw [List.range_succ, List.map_append, insertItems_append, ih (Nat.le_of_lt inside),
      List.map_singleton, insertItems_singleton, shown, index, atEnd, List.insertIdx_length_self,
      List.take_succ_eq_append_getElem inside]
    simp only [List.map_append, List.map_cons, List.map_nil, List.append_assoc]

theorem didLoadBottom_displays (controller : ATCGenericCollectionViewController T)
    (lists : Lists dataSource (before ++ objects)) (rows : controller.rows = before.map some)
    (batches : ∀ batch ∈ controller.batches, ConsistentBatch batch) :
    Displays (controller.didLoadBottom dataSource objects) dataSource := by
  have offset : numberOfObjects dataSource - (objects.length : Int) = (before.length : Int) := by
    rw [lists.count, List.length_append]
    omega
  have inserted := insertItems_of_lists lists objects.length (Nat.le_refl _)
  rw [List.take_length, ← rows] at inserted
  have consistent : ConsistentBatch (T := T)
      ⟨objects, (List.range objects.length).map fun i : Nat => (before.length : Int) + (i : Int),
        controller.rows, (before ++ objects).map some, numberOfObjects dataSource⟩ := by
    refine ⟨fun i hi => ?_, fun i row hrow => ?_, ?_, ?_⟩
    · simp [List.getElem?_range hi, lists.count]
    · obtain ⟨hi, rfl⟩ : i < objects.length ∧ (before.length : Int) + i = row := by
        simpa [List.getElem?_eq_some_iff] using hrow
      have index : ((before.length : Int) + (i : Int)).toNat = before.length + i := by omega
      refine ⟨by omega, ?_, ?_⟩
      · simp only [lists.count, List.length_append]
        omega
      · simp only [index, List.getElem?_map]
        rw [List.getElem?_append_right (by omega), Nat.add_sub_cancel_left,
          List.getElem?_eq_getElem hi]
        rfl
    · simp [rows, lists.count]
    · simp [lists.count]
  constructor
  · simp only [ATCGenericCollectionViewController.didLoadBottom, offset, inserted]
    rw [sourceRows_of_lists lists]
  · intro batch member
    simp only [ATCGenericCollectionViewController.didLoadBottom, offset, inserted,
      List.mem_append, List.mem_singleton] at member
    rcases member with old | rfl
    · exact batches batch old
    · exact consistent

/-- A notification about objects that the data source has appended. -/
theorem handle_displays {before : List T} (controller : ATCGenericCollectionViewController T)
    (notification : Notification T) {old : D} (displayed : Displays controller old)
    (was : Lists old before) (lists : Lists dataSource (before ++ notification.objects)) :
    Displays (controller.handle dataSource notification) dataSource := by
  have rows : controller.rows = before.map some :=
    displayed.rows.trans (sourceRows_of_lists was)
  cases notification with
  | didLoadFirst objects => exact ⟨rfl, displayed.batches⟩
  | didLoadBottom objects =>
    obtain ⟨shown, consistent⟩ := didLoadBottom_displays controller lists rows displayed.batches
    exact ⟨shown, consistent⟩
  | didLoadTop objects => exact ⟨rfl, displayed.batches⟩

end Controller

section Rest

variable {T : Type u}

open ATCGenericRestAPIDataSource

theorem rest_lists (source : ATCGenericRestAPIDataSource T) : Lists source source.store where
  count := rfl
  rows i bound := by
    have inside : (i : Int) < (source.store.length : Int) := by omega
    change ATCGenericRestAPIDataSource.object source (i : Int) = _
    rw [ATCGenericRestAPIDataSource.object, if_pos inside, Int.toNat_natCast]

variable {Description : Type v} [DecidableEq Description] [ATCGenericBaseModel T Description]

open ATCGenericBaseModel

theorem rest_displays_reply (s : System T) (sent : Sent) (rest : List Sent) (response : Response)
    (displayed : Displays s.delegate s.source) :
    Displays (s.afterReply sent rest response).delegate
      (s.afterReply sent rest response).source := by
  cases status : response.status with
  | error message =>
    rw [afterReply_delegate_error s sent rest response status,
      afterReply_source_error s sent rest response status]
    exact displayed
  | success =>
    have source := afterReply_source_success s sent rest response status
    have lists := rest_lists (s.afterReply sent rest response).source
    rw [afterReply_delegate_success s sent rest response status]
    apply handle_displays s.delegate _ displayed (rest_lists s.source)
    rw [notificationOf_objects]
    simpa only [source] using lists

theorem rest_displays_step (s : System T) (e : Event) (t : System T)
    (displayed : Displays s.delegate s.source) (taken : step s e = some t) :
    Displays t.delegate t.source := by
  rcases step_call_or_reply taken with ⟨-, same, delegate⟩ |
    ⟨index, response, sent, rest, -, -, rfl⟩
  · refine ⟨?_, delegate ▸ displayed.batches⟩
    rw [delegate, displayed.rows, sourceRows_of_lists (rest_lists s.source),
      sourceRows_of_lists (rest_lists t.source), same.store]
  · exact rest_displays_reply s sent rest response displayed

end Rest

section Firebase

variable {T : Type u} {K : Type w}

open ATCGenericFirebaseDataSource

theorem firebase_lists (source : ATCGenericFirebaseDataSource T K) :
    Lists source source.store where
  count := rfl
  rows i _ := by
    have notNegative : ¬ (i : Int) < 0 := by omega
    change ATCGenericFirebaseDataSource.object source (i : Int) = _
    rw [ATCGenericFirebaseDataSource.object, if_neg notNegative, Int.toNat_natCast]

variable [LinearOrder K] [ATCGenericFirebaseParsable T K]

theorem firebase_displays_step (s : System T K) (e : Event K) (t : System T K)
    (displayed : Displays s.delegate s.source) (taken : step s e = some t) :
    Displays t.delegate t.source := by
  have old := firebase_lists s.source
  obtain ⟨-, effect⟩ := step_cases taken
  cases effect with
  | loadFirst => exact displayed
  | finished ended => exact displayed
  | noCursor more unset => exact displayed
  | loadBottom key more cursor => exact displayed
  | loadTop => exact displayed
  | firstPage index table sent rest answered operation =>
    have now := firebase_lists
      (s.withFirstPage rest (sent.query.observeSingleEvent table)).source
    exact handle_displays s.delegate
      (.didLoadFirst (parseResults (sent.query.observeSingleEvent table))) displayed old now
  | bottomPage index table sent rest answered operation discarded fresh last page ends =>
    have now := firebase_lists (s.withBottomPage rest fresh last).source
    exact handle_displays s.delegate (.didLoadBottom (parseResults fresh)) displayed old now
  | emptyPage index table sent rest answered operation page => exact displayed

end Firebase

/-- In every reachable state of either data source, so after every notification, its
controller displays the rows of the source, and every batch update so far inserted
`objects[i]` at `numberOfObjects - objects.count + i` with the row counts that UIKit
asserts. -/
theorem displayed_rows_are_source_rows {T : Type u} {K : Type w} {Description : Type v}
    [DecidableEq Description] [ATCGenericBaseModel T Description] [LinearOrder K]
    [ATCGenericFirebaseParsable T K] :
    (∀ configuration es (s : ATCGenericRestAPIDataSource.System T),
      run ATCGenericRestAPIDataSource.step (.initial configuration) es = some s →
        Displays s.delegate s.source) ∧
    (∀ tableName es (s : ATCGenericFirebaseDataSource.System T K),
      run ATCGenericFirebaseDataSource.step (.initial tableName) es = some s →
        Displays s.delegate s.source) := by
  constructor
  · intro configuration es s reached
    refine run_invariant (fun s => Displays s.delegate s.source) rest_displays_step ?_ reached
    exact ⟨rfl, by simp [ATCGenericRestAPIDataSource.System.initial,
      ATCGenericCollectionViewController.empty]⟩
  · intro tableName es s reached
    refine run_invariant (fun s => Displays s.delegate s.source) firebase_displays_step ?_ reached
    exact ⟨rfl, by simp [ATCGenericFirebaseDataSource.System.initial,
      ATCGenericCollectionViewController.empty]⟩

/-- A first page and a bottom page with one row that is stored already. -/
def duplicateRowBelow : List ATCGenericRestAPIDataSource.Event :=
  [.loadFirst, .reply 0 ⟨some (titledPage ["AAPL"]), .success⟩,
    .loadBottom, .reply 0 ⟨some (titledPage ["AAPL", "TSLA"]), .success⟩]

/-- Eleven children in two pages. -/
def elevenChildren : List (ATCGenericFirebaseDataSource.Event Nat) :=
  let table := ATCGenericFirebaseDataSource.sampleTable (List.range 11) (by decide)
  [.loadFirst, .reply 0 table, .loadBottom, .reply 0 table]

theorem displayed_rows_are_source_rows_duplicate :
    (∃ s : ATCGenericRestAPIDataSource.System TitledRow,
      run ATCGenericRestAPIDataSource.step
        (.initial ATCGenericRestAPIDataSource.sampleConfiguration) duplicateRowBelow = some s ∧
      Displays s.delegate s.source) ∧
    ∃ s : ATCGenericFirebaseDataSource.System TitledRow Nat,
      run ATCGenericFirebaseDataSource.step (.initial "rows") elevenChildren = some s ∧
      Displays s.delegate s.source :=
  ⟨⟨_, rfl, (displayed_rows_are_source_rows (K := Nat)).1 _ duplicateRowBelow _ rfl⟩,
    ⟨_, rfl, displayed_rows_are_source_rows.2 "rows" elevenChildren _ rfl⟩⟩

end FinanciaApp.Guarantees
