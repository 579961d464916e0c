import FinanciaApp.Library.KeyedTables
import FinanciaApp.Guarantees.ConstraintRemake

/-!
# Updating constraints instead of remaking them

`Core/ThirdParty/SnapKit/Constraint.swift`: `activateIfNeeded(updatingExisting: true)` looks,
for each layout constraint that a closure describes, for the first existing one that is equal
but for its constant and its label, and traps where there is none. So `updateConstraints`
makes keyed updates in the table of the existing layout constraints of the item, and where the
closure describes the existing ones, each once, it ends with the layout that
`remakeConstraints` makes.
-/

set_option autoImplicit false

namespace FinanciaApp.Guarantees

open Library Source Source.ConstraintState

/-- A layout constraint as a row: its key and its constant. -/
def row (one : LayoutConstraint) : LayoutConstraintKey × Rat := (one.key, one.constant)

def rowsAt (places : List (Nat × Nat)) (state : ConstraintState) :
    List (LayoutConstraintKey × Rat) :=
  places.filterMap fun place => (state.layoutConstraint? place).map row

/-- The rows of the layout constraints of an item's constraints. -/
def existingRows (item : UIObject) (state : ConstraintState) :
    List (LayoutConstraintKey × Rat) :=
  (state.constraintsOf item).flatMap fun ref =>
    match state.constraints[ref]? with
    | some constraint => constraint.layoutConstraints.map row
    | none => []

/-- A constraint, but for the constants of its layout constraints. -/
def withoutConstants (constraint : Constraint) : Constraint :=
  { constraint with
    layoutConstraints := constraint.layoutConstraints.map fun one => { one with constant := 0 } }

/-- What an update of an item's constraints leaves alone: everything but constants of layout
constraints, and all of the constraints that the item does not keep. -/
structure Like (item : UIObject) (state next : ConstraintState) : Prop where
  interface : next.interface = state.interface
  constraintsSet : next.constraintsSet = state.constraintsSet
  translates : next.translatesAutoresizingMaskIntoConstraints =
    state.translatesAutoresizingMaskIntoConstraints
  apart : ∀ ref, ref ∉ state.constraintsSet item → next.constraints[ref]? = state.constraints[ref]?
  shape : ∀ ref : Nat,
    next.constraints[ref]?.map withoutConstants = state.constraints[ref]?.map withoutConstants

theorem Like.refl (item : UIObject) (state : ConstraintState) : Like item state state :=
  ⟨rfl, rfl, rfl, fun _ _ => rfl, fun _ => rfl⟩

theorem Like.trans {item : UIObject} {state next last : ConstraintState}
    (h : Like item state next) (h' : Like item next last) : Like item state last :=
  ⟨h'.interface.trans h.interface, h'.constraintsSet.trans h.constraintsSet,
    h'.translates.trans h.translates,
    fun ref absent => (h'.apart ref (h.constraintsSet ▸ absent)).trans (h.apart ref absent),
    fun ref => (h'.shape ref).trans (h.shape ref)⟩

section Places

variable {item : UIObject} {state next : ConstraintState}

/-- The number of layout constraints of each constraint stays. -/
theorem Like.length (h : Like item state next) (ref : Nat) :
    next.constraints[ref]?.map (fun constraint => constraint.layoutConstraints.length) =
      state.constraints[ref]?.map fun constraint => constraint.layoutConstraints.length := by
  have lengths := congrArg
    (Option.map fun constraint => constraint.layoutConstraints.length) (h.shape ref)
  simpa only [Option.map_map, Function.comp_def, withoutConstants, List.length_map] using lengths

theorem Like.existingLayoutConstraints (h : Like item state next) :
    next.existingLayoutConstraints item = state.existingLayoutConstraints item := by
  unfold ConstraintState.existingLayoutConstraints constraintsOf
  rw [h.interface, h.constraintsSet]
  apply List.flatMap_congr
  intro ref _
  have length := h.length ref
  cases isNext : next.constraints[ref]? with
  | none =>
    cases isOld : state.constraints[ref]? with
    | none => rfl
    | some old =>
      rw [isNext, isOld] at length
      cases length
  | some new =>
    cases isOld : state.constraints[ref]? with
    | none =>
      rw [isNext, isOld] at length
      cases length
    | some old =>
      rw [isNext, isOld] at length
      have same : new.layoutConstraints.length = old.layoutConstraints.length :=
        Option.some.inj length
      dsimp only
      rw [same]

theorem filterMap_range_getElem? {α β : Type} (f : α → β) (xs : List α) :
    ((List.range xs.length).filterMap fun i => xs[i]?.map f) = xs.map f := by
  induction xs using List.reverseRecOn with
  | nil => rfl
  | append_singleton xs x ih =>
    rw [List.length_append, List.length_singleton, List.range_succ, List.filterMap_append,
      List.map_append, ← ih]
    congr 1
    · apply List.filterMap_congr
      intro i inRange
      rw [List.getElem?_append_left (List.mem_range.mp inRange)]
    · simp

theorem rowsAt_existing : rowsAt (state.existingLayoutConstraints item) state =
    existingRows item state := by
  unfold rowsAt ConstraintState.existingLayoutConstraints existingRows
  rw [List.filterMap_flatMap]
  apply List.flatMap_congr
  intro ref _
  cases isConstraint : state.constraints[ref]? with
  | none => rfl
  | some constraint =>
    dsimp only
    rw [List.filterMap_map, ← filterMap_range_getElem? row]
    apply List.filterMap_congr
    intro index _
    simp only [Function.comp_apply, layoutConstraint?, isConstraint, Option.bind_some]

theorem mem_existingLayoutConstraints {ref index : Nat} :
    (ref, index) ∈ state.existingLayoutConstraints item ↔
      ref ∈ state.constraintsSet item ∧ (state.layoutConstraint? (ref, index)).isSome = true := by
  unfold ConstraintState.existingLayoutConstraints layoutConstraint?
  rw [List.mem_flatMap]
  constructor
  · rintro ⟨other, tracked, there⟩
    cases isConstraint : state.constraints[other]? with
    | none =>
      rw [isConstraint] at there
      cases there
    | some constraint =>
      rw [isConstraint] at there
      obtain ⟨i, inRange, same⟩ := List.mem_map.mp there
      cases same
      refine ⟨(mem_constraintsOf ref).mp tracked, ?_⟩
      simp only [isConstraint, Option.bind_some]
      rw [List.getElem?_eq_getElem (List.mem_range.mp inRange)]
      rfl
  · rintro ⟨tracked, isSome⟩
    obtain ⟨one, isOne⟩ := Option.isSome_iff_exists.mp isSome
    obtain ⟨constraint, isConstraint, isAt⟩ := Option.bind_eq_some_iff.mp isOne
    refine ⟨ref, (mem_constraintsOf ref).mpr tracked, ?_⟩
    rw [isConstraint]
    exact List.mem_map.mpr ⟨index, List.mem_range.mpr (List.getElem?_eq_some_iff.mp isAt).1, rfl⟩

theorem nodup_existingLayoutConstraints (distinct : (state.constraintsSet item).Nodup) :
    (state.existingLayoutConstraints item).Nodup := by
  unfold ConstraintState.existingLayoutConstraints
  apply List.nodup_flatMap.mpr
  constructor
  · intro ref _
    cases state.constraints[ref]? with
    | none => exact List.nodup_nil
    | some constraint =>
      exact List.nodup_range.map fun i j same => congrArg Prod.snd same
  · apply ((state.interface.allObjects_perm _).nodup_iff.mpr distinct).imp
    intro ref other apart place there there'
    have first : ∀ ref, place ∈ (match state.constraints[ref]? with
        | some constraint =>
          (List.range constraint.layoutConstraints.length).map fun index => (ref, index)
        | none => []) → place.1 = ref := by
      intro ref there
      cases isConstraint : state.constraints[ref]? with
      | none =>
        rw [isConstraint] at there
        cases there
      | some constraint =>
        rw [isConstraint] at there
        obtain ⟨i, -, rfl⟩ := List.mem_map.mp there
        rfl
    exact apart ((first ref there).symm.trans (first other there'))

end Places

section Loops

variable {item : UIObject} {state : ConstraintState} {direction : LayoutDirection}

/-- One constant set at a place. -/
theorem layoutConstraint?_setConstantAt (constant : ConstraintConstantTarget) (ref index : Nat)
    (place : Nat × Nat) :
    (state.modifyConstraint ref (.setConstantAt direction constant index)).layoutConstraint? place =
      (state.layoutConstraint? place).map fun one =>
        if (ref, index) = place then
          { one with
            constant := constant.constraintConstantTargetValueFor direction
              one.updateLayoutAttribute }
        else one := by
  obtain ⟨other, i⟩ := place
  unfold layoutConstraint? modifyConstraint
  dsimp only
  rw [List.getElem?_modify]
  cases isConstraint : state.constraints[other]? with
  | none => rfl
  | some constraint =>
    by_cases same : ref = other
    · subst same
      simp only [Option.map_eq_map, Option.map_some, Option.bind_some, Prod.mk.injEq, true_and,
        if_true, Constraint.setConstantAt, List.getElem?_modify]
    · simp [same]

theorem like_setConstantAt (constant : ConstraintConstantTarget) {ref : Nat} (index : Nat)
    (tracked : ref ∈ state.constraintsSet item) :
    Like item state (state.modifyConstraint ref (.setConstantAt direction constant index)) := by
  refine ⟨rfl, rfl, rfl, fun other absent => ?_, fun other => ?_⟩
  · rw [modifyConstraint, List.getElem?_modify_ne]
    rintro rfl
    exact absent tracked
  · rw [modifyConstraint, List.getElem?_modify]
    cases state.constraints[other]? with
    | none => rfl
    | some constraint =>
      by_cases same : ref = other
      · subst same
        simp only [Option.map_eq_map, Option.map_some, if_true, Constraint.setConstantAt,
          withoutConstants]
        congr 2
        apply List.ext_getElem?
        intro i
        rw [List.getElem?_map, List.getElem?_map, List.getElem?_modify]
        cases constraint.layoutConstraints[i]? with
        | none => rfl
        | some one => by_cases at_i : index = i <;> simp [at_i]
      · simp [same]

/-- A result agrees with keyed updates of the table of the places. -/
def Agrees (item : UIObject) (places : List (Nat × Nat)) (state : ConstraintState)
    (result : Except ConstraintTrap ConstraintState)
    (updated : Option (List (LayoutConstraintKey × Rat))) : Prop :=
  (updated = none ∧ ∃ trap, result = .error trap) ∨
    ∃ next, result = .ok next ∧ updated = some (rowsAt places next) ∧ Like item state next

theorem updateExisting_agrees (distinct : (state.constraintsSet item).Nodup)
    {constant : ConstraintConstantTarget} {one : LayoutConstraint}
    (given : constant.constraintConstantTargetValueFor state.interface.interfaceLayoutDirection
      one.updateLayoutAttribute = one.constant) :
    Agrees item (state.existingLayoutConstraints item) state
      (state.updateExisting (state.existingLayoutConstraints item) constant one)
      (setFirst one.key one.constant (rowsAt (state.existingLayoutConstraints item) state)) := by
  have nodup := nodup_existingLayoutConstraints distinct
  have valid : ∀ place ∈ state.existingLayoutConstraints item,
      place.1 ∈ state.constraintsSet item ∧ ∃ old, state.layoutConstraint? place = some old := by
    rintro ⟨ref, index⟩ there
    obtain ⟨tracked, isSome⟩ := mem_existingLayoutConstraints.mp there
    exact ⟨tracked, Option.isSome_iff_exists.mp isSome⟩
  generalize state.existingLayoutConstraints item = places at nodup valid ⊢
  unfold updateExisting
  cases found : places.find? (state.matchesKey one) with
  | none =>
    refine .inl ⟨?_, _, rfl⟩
    rw [← Option.not_isSome_iff_eq_none, isSome_setFirst_iff]
    intro there
    obtain ⟨existing, inRows, isKey⟩ := List.mem_map.mp there
    obtain ⟨place, inPlaces, isRow⟩ := List.mem_filterMap.mp inRows
    obtain ⟨old, isOld, rfl⟩ := Option.map_eq_some_iff.mp isRow
    have noMatch := List.find?_eq_none.mp found place inPlaces
    simp only [matchesKey, isOld, Option.map_some, decide_eq_true_eq, Option.some.injEq]
      at noMatch
    exact noMatch isKey
  | some place =>
    obtain ⟨ref, index⟩ := place
    obtain ⟨isMatch, before, after, rfl, noneBefore⟩ := List.find?_eq_some_iff_append.mp found
    obtain ⟨tracked, old, isOld⟩ := valid (ref, index) (by simp)
    have isKey : old.key = one.key := by
      simpa [matchesKey, isOld] using isMatch
    refine .inr ⟨_, rfl, ?_, like_setConstantAt constant index tracked⟩
    -- the rows before and after the place stay
    have untouched : ∀ others : List (Nat × Nat), (ref, index) ∉ others →
        rowsAt others (state.modifyConstraint ref
            (.setConstantAt state.interface.interfaceLayoutDirection constant index)) =
          rowsAt others state := by
      intro others absent
      apply List.filterMap_congr
      intro place there
      rw [layoutConstraint?_setConstantAt]
      cases state.layoutConstraint? place with
      | none => rfl
      | some other =>
        rw [Option.map_some, if_neg]
        rintro rfl
        exact absent there
    have nodupParts := List.nodup_middle.mp nodup
    rw [List.nodup_cons, List.mem_append, not_or] at nodupParts
    have split : ∀ state : ConstraintState, rowsAt (before ++ (ref, index) :: after) state =
        rowsAt before state ++ (((state.layoutConstraint? (ref, index)).map row).toList ++
          rowsAt after state) := by
      intro state
      unfold rowsAt
      rw [List.filterMap_append, List.filterMap_cons]
      cases state.layoutConstraint? (ref, index) <;> rfl
    rw [split, split, untouched before nodupParts.1.1, untouched after nodupParts.1.2,
      layoutConstraint?_setConstantAt, isOld]
    simp only [Option.map_some, if_true, Option.toList_some, List.singleton_append]
    have sameUpdate : old.updateLayoutAttribute = one.updateLayoutAttribute := by
      have firsts := congrArg LayoutConstraintKey.firstAttribute isKey
      have seconds := congrArg LayoutConstraintKey.secondAttribute isKey
      simp only [LayoutConstraint.key] at firsts seconds
      simp only [LayoutConstraint.updateLayoutAttribute, firsts, seconds]
    have oldRow : row old = (one.key, old.constant) := congrArg (·, old.constant) isKey
    rw [oldRow, setFirst_append]
    · congr 3
      unfold row
      rw [sameUpdate, given]
      exact congrArg (·, one.constant) isKey.symm
    · intro other there
      obtain ⟨place, inBefore, isRow⟩ := List.mem_filterMap.mp there
      obtain ⟨another, isAnother, rfl⟩ := Option.map_eq_some_iff.mp isRow
      have noMatch : another.key ≠ one.key := by
        simpa [matchesKey, isAnother] using noneBefore place inBefore
      exact noMatch

theorem setAll_append {κ ν : Type} [DecidableEq κ] (updates others table : List (κ × ν)) :
    setAll (updates ++ others) table = (setAll updates table).bind fun next =>
      setAll others next := by
  unfold setAll
  rw [List.foldlM_append]
  rfl

/-- Two results in a row, each of which agrees with its updates. -/
theorem Agrees.bind {places : List (Nat × Nat)} {result : Except ConstraintTrap ConstraintState}
    {updates others table : List (LayoutConstraintKey × Rat)}
    {rest : ConstraintState → Except ConstraintTrap ConstraintState}
    (first : Agrees item places state result (setAll updates table))
    (then_ : ∀ next, Like item state next →
      Agrees item places next (rest next) (setAll others (rowsAt places next))) :
    Agrees item places state (result.bind rest) (setAll (updates ++ others) table) := by
  rw [setAll_append]
  rcases first with ⟨missing, trap, failed⟩ | ⟨next, succeeded, updated, like⟩
  · rw [missing, failed]
    exact .inl ⟨rfl, trap, rfl⟩
  · rw [succeeded, updated]
    rcases then_ next like with ⟨missing, trap, failed⟩ | ⟨last, ended, final, still⟩
    · exact .inl ⟨missing, trap, failed⟩
    · exact .inr ⟨last, ended, final, like.trans still⟩

/-- The loop over the layout constraints of one new constraint. -/
theorem foldlM_updateExisting_agrees (distinct : (state.constraintsSet item).Nodup)
    {constant : ConstraintConstantTarget} {ones : List LayoutConstraint}
    (given : ∀ one ∈ ones, constant.constraintConstantTargetValueFor
      state.interface.interfaceLayoutDirection one.updateLayoutAttribute = one.constant) :
    Agrees item (state.existingLayoutConstraints item) state
      (ones.foldlM (updateExisting (state.existingLayoutConstraints item) constant) state)
      (setAll (ones.map row) (rowsAt (state.existingLayoutConstraints item) state)) := by
  induction ones generalizing state with
  | nil => exact .inr ⟨state, rfl, rfl, .refl item state⟩
  | cons one ones ih =>
    have first := updateExisting_agrees distinct (given one List.mem_cons_self)
    rw [List.foldlM_cons, List.map_cons, ← List.singleton_append]
    refine Agrees.bind ?_ fun next like => ?_
    · have single : ∀ table, setAll [row one] table = setFirst one.key one.constant table := by
        intro table
        rw [setAll_cons]
        exact Option.bind_fun_some _
      rw [single]
      exact first
    · rw [← like.existingLayoutConstraints]
      apply ih (like.constraintsSet ▸ distinct)
      intro other later
      rw [like.interface]
      exact given other (List.mem_cons_of_mem one later)

/-- The constants of a new constraint are those that an update asks for. -/
theorem DescribedFor.constants {interface : Interface} {made : Constraint}
    (h : DescribedFor interface item made) :
    ∀ one ∈ made.layoutConstraints, made.constant.constraintConstantTargetValueFor
      interface.interfaceLayoutDirection one.updateLayoutAttribute = one.constant := by
  obtain ⟨arguments, -, targeted, initialized⟩ := h
  obtain ⟨layoutFrom, layoutConstraints, -, each, rfl⟩ := Constraint.initialized_ok initialized
  intro one there
  obtain ⟨first, isFirst, isOne⟩ := exists_of_mem_mapM_ok each there
  obtain ⟨second, partner, fields⟩ := Constraint.layoutConstraint_ok isOne
  rw [Constraint.updateLayoutAttribute_constant targeted isFirst isOne arguments.constant second
    partner interface.interfaceLayoutDirection, fields]

/-- The loop over the new constraints. -/
theorem foldlM_activateUpdatingExisting_agrees (distinct : (state.constraintsSet item).Nodup)
    {made : List Constraint} (start : Nat)
    (there : ∀ (i : Nat) (constraint : Constraint), made[i]? = some constraint →
      state.constraints[start + i]? = some constraint)
    (fresh : ∀ ref ∈ state.constraintsSet item, ref < start)
    (new : ∀ constraint ∈ made, DescribedFor state.interface item constraint) :
    Agrees item (state.existingLayoutConstraints item) state
      ((List.range' start made.length).foldlM
        (fun state ref => state.activateUpdatingExisting ref) state)
      (setAll ((made.flatMap Constraint.layoutConstraints).map row)
        (rowsAt (state.existingLayoutConstraints item) state)) := by
  induction made generalizing start state with
  | nil => exact .inr ⟨state, rfl, rfl, .refl item state⟩
  | cons constraint made ih =>
    have isNew := new constraint List.mem_cons_self
    have found : state.constraints[start]? = some constraint := there 0 constraint rfl
    rw [List.length_cons, List.range'_succ, List.foldlM_cons, List.flatMap_cons, List.map_append]
    refine Agrees.bind ?_ fun next like => ?_
    · unfold activateUpdatingExisting
      simp only [found, isNew.fields.1]
      exact foldlM_updateExisting_agrees distinct isNew.constants
    · rw [← like.existingLayoutConstraints]
      refine ih (like.constraintsSet ▸ distinct) (start + 1) (fun i other isOther => ?_) ?_ ?_
      · rw [like.apart _ fun tracked => absurd (fresh _ tracked) (by omega)]
        have later := there (i + 1) other isOther
        rwa [← Nat.add_assoc, Nat.add_right_comm] at later
      · rw [like.constraintsSet]
        exact fun ref tracked => Nat.lt_succ_of_lt (fresh ref tracked)
      · rw [like.interface]
        exact fun other later => new other (List.mem_cons_of_mem constraint later)

end Loops

section Results

variable {item : UIObject} {state : ConstraintState}

/-- `updateConstraints` of an item with constraints, as keyed updates of their table. -/
theorem updateConstraints_agrees (tracked : WellTracked state)
    (some_ : state.constraintsOf item ≠ []) {closure : List MakerStatement}
    {made : List Constraint} (isMade : described state.interface item closure = .ok made) :
    (setAll ((made.flatMap Constraint.layoutConstraints).map row) (existingRows item state) =
        none ∧ ∃ trap, state.updateConstraints item closure = .error trap) ∨
      ∃ next, state.updateConstraints item closure = .ok next ∧
        setAll ((made.flatMap Constraint.layoutConstraints).map row) (existingRows item state) =
          some (existingRows item next) ∧
        Like item { state.prepare item with constraints := state.constraints ++ made } next := by
  have old : ∀ ref ∈ state.constraintsSet item, ref < state.constraints.length := by
    intro ref there
    obtain ⟨constraint, isConstraint, -⟩ := tracked.owner item ref there
    exact (List.getElem?_eq_some_iff.mp isConstraint).1
  unfold updateConstraints prepareConstraints
  rw [if_neg some_, isMade]
  dsimp only
  generalize hPrepared : ({ state.prepare item with
    constraints := state.constraints ++ made } : ConstraintState) = prepared
  have setsPrepared : prepared.constraintsSet = state.constraintsSet := by
    rw [← hPrepared, prepare_constraintsSet]
  have interfacePrepared : prepared.interface = state.interface := by
    rw [← hPrepared, prepare_interface]
  have constraintsPrepared : prepared.constraints = state.constraints ++ made := by
    rw [← hPrepared]
  -- the new constraints are not among the existing ones
  have rows : existingRows item prepared = existingRows item state := by
    unfold existingRows constraintsOf
    rw [setsPrepared, interfacePrepared]
    apply List.flatMap_congr
    intro ref there
    rw [constraintsPrepared,
      List.getElem?_append_left (old ref ((mem_constraintsOf ref).mp there))]
  have distinct : (prepared.constraintsSet item).Nodup := setsPrepared ▸ tracked.nodup item
  have there : ∀ (i : Nat) (constraint : Constraint), made[i]? = some constraint →
      prepared.constraints[state.constraints.length + i]? = some constraint := by
    intro i constraint isAt
    rw [constraintsPrepared, List.getElem?_append_right (Nat.le_add_right _ _),
      Nat.add_sub_cancel_left, isAt]
  have agrees := foldlM_activateUpdatingExisting_agrees distinct state.constraints.length there
    (setsPrepared ▸ old) (interfacePrepared ▸ describedFor_of_described isMade)
  rw [rowsAt_existing, rows] at agrees
  rcases agrees with ⟨missing, trap, failed⟩ | ⟨next, succeeded, updated, like⟩
  · exact .inl ⟨missing, trap, failed⟩
  · refine .inr ⟨next, succeeded, ?_, like⟩
    rw [updated, ← like.existingLayoutConstraints, rowsAt_existing]

/-- The elements of a list, by the positions that matter. -/
theorem flatMap_perm_refs {α β : Type} {xs : List α} (refs : List Nat) (distinct : refs.Nodup)
    (bound : ∀ ref ∈ refs, ref < xs.length) (f : α → List β)
    (empty : ∀ (i : Nat) (x : α), xs[i]? = some x → i ∉ refs → f x = []) :
    (xs.flatMap f).Perm (refs.flatMap fun ref => (xs[ref]?.map f).getD []) := by
  have whole : xs.flatMap f =
      (List.range xs.length).flatMap fun ref => (xs[ref]?.map f).getD [] := by
    rw [List.flatMap_def, List.flatMap_def, ← filterMap_range_getElem? f, ← List.filterMap_eq_map]
    congr 1
    apply List.filterMap_congr
    intro i inRange
    rw [Function.comp_apply, List.getElem?_eq_getElem (List.mem_range.mp inRange)]
    rfl
  have kept : ((List.range xs.length).filter fun i => decide (i ∈ refs)).Perm refs := by
    apply (List.perm_ext_iff_of_nodup (List.nodup_range.filter _) distinct).mpr
    intro i
    rw [List.mem_filter, List.mem_range, decide_eq_true_eq]
    exact ⟨And.right, fun there => ⟨bound i there, there⟩⟩
  have others : ((List.range xs.length).filter fun i => !decide (i ∈ refs)).flatMap
      (fun ref => (xs[ref]?.map f).getD []) = [] := by
    apply List.flatMap_eq_nil_iff.mpr
    intro i there
    obtain ⟨inRange, absent⟩ := List.mem_filter.mp there
    have isAt := List.getElem?_eq_getElem (List.mem_range.mp inRange)
    rw [isAt]
    exact empty i _ isAt (by simpa using absent)
  rw [whole]
  refine ((List.filter_append_perm (fun i => decide (i ∈ refs)) _).symm.flatMap_right _).trans ?_
  rw [List.flatMap_append, others, List.append_nil]
  exact kept.flatMap_right _

/-- Where all layout constraints of the item's constraints are active, they are the active
ones on the item. -/
theorem activeRows_perm (tracked : WellTracked state)
    (allActive : ∀ ref ∈ state.constraintsOf item, ∀ constraint,
      state.constraints[ref]? = some constraint →
        ∀ one ∈ constraint.layoutConstraints, one.isActive = true) :
    ((activeLayoutConstraints item state).map row).Perm (existingRows item state) := by
  unfold activeLayoutConstraints existingRows
  rw [List.map_flatMap]
  refine (flatMap_perm_refs (state.constraintsOf item)
    ((state.interface.allObjects_perm _).nodup_iff.mpr (tracked.nodup item)) ?_ _ ?_).trans ?_
  · intro ref there
    obtain ⟨constraint, isConstraint, -⟩ :=
      tracked.owner item ref ((mem_constraintsOf ref).mp there)
    exact (List.getElem?_eq_some_iff.mp isConstraint).1
  · intro ref constraint isConstraint absent
    rw [List.map_eq_nil_iff]
    cases isActive : constraint.isActive with
    | false => exact activeOn_of_inactive isActive
    | true =>
      obtain ⟨owner, owned, inSet⟩ := tracked.active ref constraint isConstraint isActive
      refine activeOn_of_owned owner (fun one inOnes => ?_) ?_
      · exact Option.some.inj
          ((tracked.firstItem ref constraint isConstraint one inOnes).symm.trans owned)
      · rintro rfl
        exact absent ((mem_constraintsOf ref).mpr inSet)
  · apply List.Perm.of_eq
    apply List.flatMap_congr
    intro ref there
    obtain ⟨constraint, isConstraint, owned⟩ :=
      tracked.owner item ref ((mem_constraintsOf ref).mp there)
    rw [isConstraint]
    simp only [Option.map_some, Option.getD_some]
    congr 1
    apply List.filter_eq_self.mpr
    intro one inOnes
    have first := tracked.firstItem ref constraint isConstraint one inOnes
    rw [owned] at first
    simp [allActive ref there constraint isConstraint one inOnes, Option.some.inj first]

theorem Like.allActive {next : ConstraintState} (like : Like item state next)
    (allActive : ∀ ref ∈ state.constraintsOf item, ∀ constraint,
      state.constraints[ref]? = some constraint →
        ∀ one ∈ constraint.layoutConstraints, one.isActive = true) :
    ∀ ref ∈ next.constraintsOf item, ∀ constraint, next.constraints[ref]? = some constraint →
      ∀ one ∈ constraint.layoutConstraints, one.isActive = true := by
  intro ref there constraint isConstraint one inOnes
  have tracked : ref ∈ state.constraintsOf item := by
    rw [mem_constraintsOf, ← like.constraintsSet]
    exact (mem_constraintsOf ref).mp there
  have shape := like.shape ref
  rw [isConstraint] at shape
  obtain ⟨old, isOld, same⟩ := Option.map_eq_some_iff.mp shape.symm
  have inErased : { one with constant := 0 } ∈ (withoutConstants old).layoutConstraints := by
    rw [same]
    exact List.mem_map_of_mem (f := fun one : LayoutConstraint => { one with constant := 0 }) inOnes
  obtain ⟨oldOne, inOld, isOne⟩ := List.mem_map.mp inErased
  have active : oldOne.isActive = one.isActive := (LayoutConstraint.mk.inj isOne).2.2.2.2.2.2.2.2.2
  exact active ▸ allActive ref tracked old isOld oldOne inOld

/-- The layout constraints of other items stay as they are. -/
theorem Like.active_others {next : ConstraintState} (like : Like item state next)
    (tracked : WellTracked state) (trackedNext : WellTracked next) {other : UIObject}
    (apart : other ≠ item) :
    activeLayoutConstraints other next = activeLayoutConstraints other state := by
  have empty : ∀ state : ConstraintState, WellTracked state → ∀ ref ∈ state.constraintsSet item,
      ∃ constraint, state.constraints[ref]? = some constraint ∧ activeOn other constraint = [] := by
    intro state tracked ref there
    obtain ⟨constraint, isConstraint, owned⟩ := tracked.owner item ref there
    refine ⟨constraint, isConstraint, activeOn_of_owned item (fun one inOnes => ?_) apart⟩
    exact Option.some.inj
      ((tracked.firstItem ref constraint isConstraint one inOnes).symm.trans owned)
  apply flatMap_congr_getElem?
  intro ref
  by_cases there : ref ∈ state.constraintsSet item
  · obtain ⟨old, isOld, noneOld⟩ := empty state tracked ref there
    obtain ⟨new, isNew, noneNew⟩ := empty next trackedNext ref (like.constraintsSet ▸ there)
    rw [isOld, isNew, Option.map_some, Option.map_some, noneOld, noneNew]
  · rw [like.apart ref there]

theorem isActive_of_described {interface : Interface} {owner : UIObject} {made : List Constraint}
    (new : ∀ constraint ∈ made, DescribedFor interface owner constraint) :
    ∀ constraint ∈ made, constraint.isActive = false := by
  intro constraint there
  apply List.any_eq_false.mpr
  intro one inOnes
  rw [((new constraint there).fields.2 one inOnes).2]
  exact Bool.false_ne_true

theorem active_appended {interface : Interface} {owner : UIObject} {made : List Constraint}
    (new : ∀ constraint ∈ made, DescribedFor interface owner constraint) (other : UIObject)
    (before : List Constraint) :
    (before ++ made).flatMap (activeOn other) = before.flatMap (activeOn other) := by
  have inactive : made.flatMap (activeOn other) = [] := by
    apply List.flatMap_eq_nil_iff.mpr
    intro constraint there
    exact activeOn_of_inactive (isActive_of_described new constraint there)
  rw [List.flatMap_append, inactive, List.append_nil]

theorem activated_rows (made : List Constraint) :
    (activated made).map row = (made.flatMap Constraint.layoutConstraints).map row := by
  unfold activated
  rw [List.flatMap_map, List.map_flatMap, List.map_flatMap]
  apply List.flatMap_congr
  intro constraint _
  rw [Constraint.setActive, List.map_map]
  rfl

theorem map_row_fst (made : List Constraint) :
    ((made.flatMap Constraint.layoutConstraints).map row).map Prod.fst =
      (made.flatMap Constraint.layoutConstraints).map LayoutConstraint.key := by
  rw [List.map_map]
  rfl

/-- `updateConstraints` of an item with constraints succeeds where every layout constraint that
the closure describes matches an existing one. -/
theorem updateConstraints_succeeds_iff (tracked : WellTracked state)
    (keeps : state.constraintsOf item ≠ []) {closure : List MakerStatement}
    {made : List Constraint} (isMade : described state.interface item closure = .ok made) :
    (∃ next, state.updateConstraints item closure = .ok next) ↔
      ∀ one ∈ made.flatMap Constraint.layoutConstraints,
        one.key ∈ (existingRows item state).map Prod.fst := by
  have all_iff := isSome_setAll_iff ((made.flatMap Constraint.layoutConstraints).map row)
    (existingRows item state)
  rw [List.forall_mem_map] at all_iff
  refine Iff.trans ?_ all_iff
  rcases updateConstraints_agrees tracked keeps isMade with
    ⟨missing, trap, failed⟩ | ⟨next, succeeded, updated, -⟩
  · rw [missing, failed]
    exact iff_of_false (fun ⟨_, h⟩ => nomatch h) nofun
  · rw [updated]
    exact iff_of_true ⟨next, succeeded⟩ rfl

/-- What a successful update leaves, by the table of the existing rows. -/
theorem updateConstraints_ok (tracked : WellTracked state)
    (keeps : state.constraintsOf item ≠ []) {closure : List MakerStatement}
    {made : List Constraint} (isMade : described state.interface item closure = .ok made)
    {next : ConstraintState} (succeeded : state.updateConstraints item closure = .ok next) :
    setAll ((made.flatMap Constraint.layoutConstraints).map row) (existingRows item state) =
        some (existingRows item next) ∧
      Like item { state.prepare item with constraints := state.constraints ++ made } next := by
  rcases updateConstraints_agrees tracked keeps isMade with
    ⟨-, trap, failed⟩ | ⟨next', succeeded', updated, like⟩
  · rw [failed] at succeeded
    cases succeeded
  · cases Except.ok.inj (succeeded'.symm.trans succeeded)
    exact ⟨updated, like⟩

/-- Where all layout constraints of the item's constraints are active, an update leaves its rows
as the active ones. -/
theorem activeRows_updateConstraints (tracked : WellTracked state) {made : List Constraint}
    {next : ConstraintState} (trackedNext : WellTracked next)
    (like : Like item { state.prepare item with constraints := state.constraints ++ made } next)
    (allActive : ∀ ref ∈ state.constraintsOf item, ∀ constraint,
      state.constraints[ref]? = some constraint →
        ∀ one ∈ constraint.layoutConstraints, one.isActive = true) :
    ((activeLayoutConstraints item next).map row).Perm (existingRows item next) := by
  refine activeRows_perm trackedNext (like.allActive fun ref there constraint isConstraint => ?_)
  have kept : ref ∈ state.constraintsOf item := by
    rw [mem_constraintsOf] at there ⊢
    rwa [prepare_constraintsSet] at there
  obtain ⟨old, isOld, -⟩ := tracked.owner item ref ((mem_constraintsOf ref).mp kept)
  rw [List.getElem?_append_left (List.getElem?_eq_some_iff.mp isOld).1] at isConstraint
  exact allActive ref kept constraint isConstraint

/-- After `remakeConstraints` the active layout constraints of the item are those described. -/
theorem remakeConstraints_rows (tracked : WellTracked state) {closure : List MakerStatement}
    {made : List Constraint} (isMade : described state.interface item closure = .ok made) :
    ∃ remade, state.remakeConstraints item closure = .ok remade ∧
      (activeLayoutConstraints item remade).map row =
        (made.flatMap Constraint.layoutConstraints).map row := by
  have sameInterface : (state.removeConstraints item).interface = state.interface := by
    rw [removeConstraints_eq tracked]
  obtain ⟨remade, isRemade⟩ : ∃ remade, state.remakeConstraints item closure = .ok remade :=
    exists_makeConstraints (sameInterface ▸ isMade)
  obtain ⟨made', isMade', active, -⟩ := active_makeConstraints
    (wellTracked_removeConstraints tracked item) isRemade
  rw [sameInterface] at isMade'
  cases Except.ok.inj (isMade.symm.trans isMade')
  rw [(active_removeConstraints tracked item).1, List.nil_append] at active
  exact ⟨remade, isRemade, by rw [active, activated_rows]⟩

end Results

/-- After any run, `updateConstraints` of an item that keeps constraints traps exactly when the
closure describes a layout constraint that differs from every existing one by more than its
constant and label. Otherwise, where the existing ones are pairwise different, each takes the
latest constant described for it; all else stays as the preparation leaves it, and the new
constraints are not active. Where all of the existing ones are active and the closure describes
just these, the active layout constraints are those that `remakeConstraints` leaves. -/
theorem update_agrees_with_remake (interface : Interface) (translates : UIObject → Bool)
    (events : List Event) (state : ConstraintState)
    (reached : run step (initial interface translates) events = some state) (item : UIObject)
    (keeps : state.constraintsOf item ≠ []) (closure : List MakerStatement)
    (made : List Constraint) (isMade : described state.interface item closure = .ok made) :
    ((∃ next, state.updateConstraints item closure = .ok next) ↔
      ∀ one ∈ made.flatMap Constraint.layoutConstraints,
        one.key ∈ (existingRows item state).map Prod.fst) ∧
    (((existingRows item state).map Prod.fst).Nodup →
      ∀ next, state.updateConstraints item closure = .ok next →
        existingRows item next = (existingRows item state).map (fun existing =>
          (existing.1, latest ((made.flatMap Constraint.layoutConstraints).map row) existing.1
            existing.2)) ∧
        next.constraintsSet = state.constraintsSet ∧
        Like item { state.prepare item with constraints := state.constraints ++ made } next ∧
        (∀ constraint ∈ made, constraint.isActive = false) ∧
        ∀ other, other ≠ item →
          activeLayoutConstraints other next = activeLayoutConstraints other state) ∧
    (((existingRows item state).map Prod.fst).Nodup →
      ((made.flatMap Constraint.layoutConstraints).map LayoutConstraint.key).Perm
        ((existingRows item state).map Prod.fst) →
      (∀ ref ∈ state.constraintsOf item, ∀ constraint,
        state.constraints[ref]? = some constraint →
          ∀ one ∈ constraint.layoutConstraints, one.isActive = true) →
      ∃ updated remade, state.updateConstraints item closure = .ok updated ∧
        state.remakeConstraints item closure = .ok remade ∧
        ((activeLayoutConstraints item updated).map row).Perm
          ((activeLayoutConstraints item remade).map row)) := by
  have tracked := wellTracked_run reached
  have new := describedFor_of_described isMade
  have succeeds_iff := updateConstraints_succeeds_iff tracked keeps isMade
  refine ⟨succeeds_iff, fun distinct next succeeded => ?_, fun distinct same allActive => ?_⟩
  · obtain ⟨updated, like⟩ := updateConstraints_ok tracked keeps isMade succeeded
    refine ⟨setAll_eq distinct updated,
      like.constraintsSet.trans (prepare_constraintsSet item state), like,
      isActive_of_described new, fun other apart => ?_⟩
    rw [like.active_others (wellTracked_prepared tracked isMade)
      (wellTracked_updateConstraints tracked succeeded) apart]
    exact active_appended new other state.constraints
  · have described_there : ∀ one ∈ made.flatMap Constraint.layoutConstraints,
        one.key ∈ (existingRows item state).map Prod.fst := fun one there =>
      same.mem_iff.mp (List.mem_map_of_mem there)
    obtain ⟨updated, succeeded⟩ := succeeds_iff.mpr described_there
    obtain ⟨rows, like⟩ := updateConstraints_ok tracked keeps isMade succeeded
    obtain ⟨remade, isRemade, remadeRows⟩ := remakeConstraints_rows tracked isMade
    refine ⟨updated, remade, succeeded, isRemade, ?_⟩
    rw [remadeRows]
    exact (activeRows_updateConstraints tracked (wellTracked_updateConstraints tracked succeeded)
      like allActive).trans (setAll_perm distinct (map_row_fst made ▸ same) rows)

/-- A view with its edges at those of another view finds them again in an update. -/
theorem update_agrees_with_remake_edges :
    ∃ state updated, run step (initial (.plain fun _ => none) fun _ => true)
        [.makeConstraints ⟨.view, 0⟩ (equalTo .edges)] = some state ∧
      state.updateConstraints ⟨.view, 0⟩ (equalTo .edges) = .ok updated := by
  obtain ⟨updated, succeeded⟩ := (update_agrees_with_remake (.plain fun _ => none)
    (fun _ => true) [.makeConstraints ⟨.view, 0⟩ (equalTo .edges)] _ rfl ⟨.view, 0⟩ (by decide)
    (equalTo .edges) _ rfl).1.mpr (by decide)
  exact ⟨_, updated, rfl, succeeded⟩

end FinanciaApp.Guarantees
