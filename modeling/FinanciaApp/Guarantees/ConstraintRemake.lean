import FinanciaApp.Guarantees.ConstraintTracking

/-!
# Remaking the constraints of an item

`Core/ThirdParty/SnapKit/ConstraintMaker.swift`: after any run, `remakeConstraints` leaves of
an item exactly the layout constraints that its closure describes active, `removeConstraints`
none, and `makeConstraints` adds the described ones to those there were. The layout
constraints of the other items stay as they are.
-/

set_option autoImplicit false

namespace FinanciaApp.Guarantees

open Library Source Source.ConstraintState

/-- The active layout constraints of one constraint on an item. -/
def activeOn (item : UIObject) (constraint : Constraint) : List LayoutConstraint :=
  constraint.layoutConstraints.filter fun layoutConstraint =>
    layoutConstraint.isActive && decide (layoutConstraint.firstItem = item)

/-- The active layout constraints on an item, in the order in which they were made. -/
def activeLayoutConstraints (item : UIObject) (state : ConstraintState) :
    List LayoutConstraint :=
  state.constraints.flatMap (activeOn item)

/-- The layout constraints of new constraints, once they are active. -/
def activated (made : List Constraint) : List LayoutConstraint :=
  (made.map (Constraint.setActive true)).flatMap Constraint.layoutConstraints

section Folds

variable {item : UIObject}

theorem modify_length_append {α : Type} (change : α → α) (xs ys : List α) (x : α) :
    (xs ++ x :: ys).modify xs.length change = xs ++ change x :: ys := by
  induction xs with
  | nil => rfl
  | cons y xs ih => exact congrArg (List.cons y) ih

theorem activateIfNeeded_eq {state : ConstraintState} {ref : Nat} {constraint : Constraint}
    (there : state.constraints[ref]? = some constraint)
    (isItem : constraint.fromItem.layoutConstraintItem = some item) :
    state.activateIfNeeded ref = (state.modifyConstraint ref (.setActive true)).add item ref := by
  unfold activateIfNeeded
  rw [there]
  simp only [Option.bind_some, isItem]

theorem deactivateIfNeeded_eq {state : ConstraintState} {ref : Nat} {constraint : Constraint}
    (there : state.constraints[ref]? = some constraint)
    (isItem : constraint.fromItem.layoutConstraintItem = some item) :
    state.deactivateIfNeeded ref =
      (state.modifyConstraint ref (.setActive false)).remove item ref := by
  unfold deactivateIfNeeded
  rw [there]
  simp only [Option.bind_some, isItem]

/-- The new constraints become active one after the other, each at the end of the set. -/
theorem foldl_activateIfNeeded (made : List Constraint)
    (new : ∀ constraint ∈ made, constraint.fromItem.layoutConstraintItem = some item) :
    ∀ (before : List Constraint) (state : ConstraintState),
      state.constraints = before ++ made →
      (∀ ref ∈ state.constraintsSet item, ref < before.length) →
      (List.range' before.length made.length).foldl (fun state ref => state.activateIfNeeded ref)
          state =
        { state with
          constraints := before ++ made.map (Constraint.setActive true)
          constraintsSet := Function.update state.constraintsSet item
            (state.constraintsSet item ++ List.range' before.length made.length) } := by
  induction made with
  | nil =>
    intro before state are _
    simp only [List.length_nil, List.range'_zero, List.foldl_nil, List.map_nil, List.append_nil,
      Function.update_eq_self]
    rw [List.append_nil] at are
    rw [← are]
  | cons constraint made ih =>
    intro before state are fresh
    have there : state.constraints[before.length]? = some constraint := by
      rw [are, List.getElem?_append_right (Nat.le_refl _), Nat.sub_self]
      rfl
    have isNew : before.length ∉ state.constraintsSet item :=
      fun tracked => Nat.lt_irrefl _ (fresh _ tracked)
    rw [List.length_cons, List.range'_succ, List.foldl_cons,
      activateIfNeeded_eq there (new constraint List.mem_cons_self), add, modifyConstraint]
    dsimp only
    rw [if_neg isNew, are, modify_length_append]
    have rest := ih (fun other inMade => new other (List.mem_cons_of_mem _ inMade))
      (before ++ [constraint.setActive true])
      { state with
        constraints := before ++ constraint.setActive true :: made
        constraintsSet := Function.update state.constraintsSet item
          (state.constraintsSet item ++ [before.length]) }
      (by simp) (by
        intro ref tracked
        dsimp only at tracked
        rw [Function.update_self, List.mem_append, List.mem_singleton] at tracked
        rw [List.length_append, List.length_singleton]
        rcases tracked with old | rfl
        · exact Nat.lt_succ_of_lt (fresh ref old)
        · exact Nat.lt_succ_self _)
    rw [List.length_append, List.length_singleton] at rest
    rw [rest]
    simp

/-- The constraints with some of them switched off. -/
def switchedOff (refs : List Nat) (constraints : List Constraint) : List Constraint :=
  constraints.mapIdx fun ref constraint =>
    if ref ∈ refs then constraint.setActive false else constraint

theorem getElem?_switchedOff (refs : List Nat) (constraints : List Constraint) (ref : Nat) :
    (switchedOff refs constraints)[ref]? = constraints[ref]?.map fun constraint =>
      if ref ∈ refs then constraint.setActive false else constraint := by
  rw [switchedOff, List.getElem?_mapIdx]

theorem switchedOff_nil (constraints : List Constraint) :
    switchedOff [] constraints = constraints := by
  apply List.ext_getElem?
  intro ref
  rw [getElem?_switchedOff]
  simp

theorem switchedOff_cons (ref : Nat) (refs : List Nat) (constraints : List Constraint) :
    switchedOff refs (constraints.modify ref (.setActive false)) =
      switchedOff (ref :: refs) constraints := by
  apply List.ext_getElem?
  intro other
  rw [getElem?_switchedOff, getElem?_switchedOff, List.getElem?_modify]
  cases constraints[other]? with
  | none => rfl
  | some constraint =>
    have twice : (constraint.setActive false).setActive false = constraint.setActive false := by
      simp [Constraint.setActive]
    by_cases same : ref = other
    · subst same
      by_cases later : ref ∈ refs
      · simp [later, twice]
      · simp [later]
    · by_cases later : other ∈ refs
      · simp [later, same]
      · simp [later, same, Ne.symm same]

/-- Constraints of one item are switched off and leave its set. -/
theorem foldl_deactivateIfNeeded (refs : List Nat) :
    ∀ state : ConstraintState,
      (∀ ref ∈ refs, ∃ constraint, state.constraints[ref]? = some constraint ∧
        constraint.fromItem.layoutConstraintItem = some item) →
      refs.foldl (fun state ref => state.deactivateIfNeeded ref) state =
        { state with
          constraints := switchedOff refs state.constraints
          constraintsSet := Function.update state.constraintsSet item
            ((state.constraintsSet item).filter fun ref => ref ∉ refs) } := by
  induction refs with
  | nil =>
    intro state _
    have whole : ((state.constraintsSet item).filter fun ref => ref ∉ ([] : List Nat)) =
        state.constraintsSet item := by simp
    rw [switchedOff_nil, whole, Function.update_eq_self]
    rfl
  | cons ref refs ih =>
    intro state owned
    obtain ⟨constraint, there, isItem⟩ := owned ref List.mem_cons_self
    rw [List.foldl_cons, deactivateIfNeeded_eq there isItem, ih]
    · simp only [ConstraintState.remove, modifyConstraint, switchedOff_cons,
        Function.update_self, Function.update_idem, List.filter_filter, List.mem_cons, not_or]
      simp [Bool.and_comm]
    · intro other later
      obtain ⟨old, isOld, owned⟩ := owned other (List.mem_cons_of_mem _ later)
      rw [remove_constraints, getElem?_setActive, isOld]
      refine ⟨_, rfl, ?_⟩
      split_ifs
      · exact owned
      · exact owned

end Folds

section Active

variable {item other : UIObject} {state : ConstraintState}

theorem flatMap_congr_getElem? {α β : Type} {xs ys : List α} {f : α → List β}
    (same : ∀ i : Nat, xs[i]?.map f = ys[i]?.map f) : xs.flatMap f = ys.flatMap f := by
  rw [List.flatMap_def, List.flatMap_def]
  congr 1
  apply List.ext_getElem?
  intro i
  rw [List.getElem?_map, List.getElem?_map, same]

theorem activeOn_setActive_true {constraint : Constraint}
    (owned : ∀ one ∈ constraint.layoutConstraints, one.firstItem = item) :
    activeOn item (constraint.setActive true) =
      (constraint.setActive true).layoutConstraints := by
  apply List.filter_eq_self.mpr
  intro one there
  obtain ⟨old, inOld, rfl⟩ := List.mem_map.mp there
  simp [owned old inOld]

theorem activeOn_of_owned (item : UIObject) {constraint : Constraint}
    (owned : ∀ one ∈ constraint.layoutConstraints, one.firstItem = item) (apart : other ≠ item) :
    activeOn other constraint = [] := by
  apply List.filter_eq_nil_iff.mpr
  intro one there
  simp [owned one there, Ne.symm apart]

theorem activeOn_of_inactive {constraint : Constraint} (inactive : constraint.isActive = false) :
    activeOn item constraint = [] := by
  apply List.filter_eq_nil_iff.mpr
  intro one there
  have off := List.any_eq_false.mp inactive one there
  simp [off]

theorem setActive_false_isActive (constraint : Constraint) :
    (constraint.setActive false).isActive = false := by
  simp [Constraint.isActive, Constraint.setActive]

theorem owned_of_described {interface : Interface} {made : List Constraint}
    (new : ∀ constraint ∈ made, DescribedFor interface item constraint) :
    ∀ constraint ∈ made, ∀ one ∈ constraint.layoutConstraints, one.firstItem = item :=
  fun constraint there one inOnes => ((new constraint there).fields.2 one inOnes).1

theorem makeConstraints_ok (tracked : WellTracked state) {closure : List MakerStatement}
    {next : ConstraintState} (h : state.makeConstraints item closure = .ok next) :
    ∃ made, described state.interface item closure = .ok made ∧
      next = { state.prepare item with
        constraints := state.constraints ++ made.map (Constraint.setActive true)
        constraintsSet := Function.update state.constraintsSet item
          (state.constraintsSet item ++
            List.range' state.constraints.length made.length) } := by
  unfold makeConstraints at h
  split at h
  · rename_i refs prepared isPrepared
    cases h
    obtain ⟨made, isMade, rfl, rfl⟩ := prepareConstraints_ok isPrepared
    have sets := prepare_constraintsSet item state
    refine ⟨made, isMade, ?_⟩
    rw [foldl_activateIfNeeded made
      (fun constraint there => (describedFor_of_described isMade constraint there).fields.1)
      state.constraints _ rfl]
    · simp only [sets]
    · intro ref there
      dsimp only at there
      rw [sets] at there
      obtain ⟨constraint, isConstraint, -⟩ := tracked.owner item ref there
      exact (List.getElem?_eq_some_iff.mp isConstraint).1
  · cases h

theorem exists_makeConstraints {closure : List MakerStatement} {made : List Constraint}
    (isMade : described state.interface item closure = .ok made) :
    ∃ next, state.makeConstraints item closure = .ok next := by
  unfold makeConstraints prepareConstraints
  rw [isMade]
  exact ⟨_, rfl⟩

theorem mem_constraintsOf (ref : Nat) :
    ref ∈ state.constraintsOf item ↔ ref ∈ state.constraintsSet item :=
  (state.interface.allObjects_perm _).mem_iff

theorem removeConstraints_eq (tracked : WellTracked state) :
    state.removeConstraints item =
      { state with
        constraints := switchedOff (state.constraintsOf item) state.constraints
        constraintsSet := Function.update state.constraintsSet item [] } := by
  unfold removeConstraints
  rw [foldl_deactivateIfNeeded]
  · have none_left : ((state.constraintsSet item).filter fun ref =>
        ref ∉ state.constraintsOf item) = [] := by
      simp [mem_constraintsOf]
    rw [none_left]
  · exact fun ref there => tracked.owner item ref ((mem_constraintsOf ref).mp there)

theorem active_makeConstraints (tracked : WellTracked state) {closure : List MakerStatement}
    {next : ConstraintState} (h : state.makeConstraints item closure = .ok next) :
    ∃ made, described state.interface item closure = .ok made ∧
      activeLayoutConstraints item next = activeLayoutConstraints item state ++ activated made ∧
      ∀ other, other ≠ item →
        activeLayoutConstraints other next = activeLayoutConstraints other state := by
  obtain ⟨made, isMade, rfl⟩ := makeConstraints_ok tracked h
  have owned := owned_of_described (describedFor_of_described isMade)
  have active : ∀ constraint ∈ made.map (Constraint.setActive true),
      ∀ one ∈ constraint.layoutConstraints, one.firstItem = item := by
    intro constraint there one inOnes
    obtain ⟨old, inMade, rfl⟩ := List.mem_map.mp there
    obtain ⟨oldOne, inOld, rfl⟩ := List.mem_map.mp inOnes
    exact owned old inMade oldOne inOld
  refine ⟨made, isMade, ?_, fun other apart => ?_⟩
  · unfold activeLayoutConstraints activated
    rw [List.flatMap_append, List.flatMap_map, List.flatMap_map]
    congr 1
    exact List.flatMap_congr fun constraint there =>
      activeOn_setActive_true (owned constraint there)
  · unfold activeLayoutConstraints
    rw [List.flatMap_append, List.flatMap_eq_nil_iff.mpr fun constraint there =>
      activeOn_of_owned item (active constraint there) apart, List.append_nil]

theorem active_removeConstraints (tracked : WellTracked state) (item : UIObject) :
    activeLayoutConstraints item (state.removeConstraints item) = [] ∧
      ∀ other, other ≠ item →
        activeLayoutConstraints other (state.removeConstraints item) =
          activeLayoutConstraints other state := by
  rw [removeConstraints_eq tracked]
  unfold activeLayoutConstraints
  constructor
  · apply List.flatMap_eq_nil_iff.mpr
    intro constraint there
    obtain ⟨ref, isAt⟩ := List.mem_iff_getElem?.mp there
    rw [getElem?_switchedOff] at isAt
    obtain ⟨old, isOld, rfl⟩ := Option.map_eq_some_iff.mp isAt
    split_ifs with off
    · exact activeOn_of_inactive (setActive_false_isActive old)
    · -- what is not tracked is not active, or belongs to another item
      cases isActive : old.isActive with
      | false => exact activeOn_of_inactive isActive
      | true =>
        obtain ⟨owner, owned, inSet⟩ := tracked.active ref old isOld isActive
        refine activeOn_of_owned owner (fun one inOnes => ?_) ?_
        · exact Option.some.inj ((tracked.firstItem ref old isOld one inOnes).symm.trans owned)
        · rintro rfl
          exact off ((mem_constraintsOf ref).mpr inSet)
  · intro other apart
    apply flatMap_congr_getElem?
    intro ref
    rw [getElem?_switchedOff, Option.map_map]
    cases isOld : state.constraints[ref]? with
    | none => rfl
    | some old =>
      simp only [Option.map_some, Function.comp_apply]
      split_ifs with off
      · obtain ⟨constraint, isConstraint, owned⟩ :=
          tracked.owner item ref ((mem_constraintsOf ref).mp off)
        cases Option.some.inj (isOld.symm.trans isConstraint)
        have first : ∀ one ∈ old.layoutConstraints, one.firstItem = item := fun one inOnes =>
          Option.some.inj ((tracked.firstItem ref old isOld one inOnes).symm.trans owned)
        rw [activeOn_of_owned item first apart, activeOn_of_owned item _ apart]
        intro one inOnes
        obtain ⟨oldOne, inOld, rfl⟩ := List.mem_map.mp inOnes
        exact first oldOne inOld
      · rfl

end Active

/-- An item keeps the constraints that it had, and they are as they were. -/
structure Unaffected (item : UIObject) (state next : ConstraintState) : Prop where
  constraintsSet : next.constraintsSet item = state.constraintsSet item
  constraints : ∀ ref ∈ state.constraintsSet item,
    next.constraints[ref]? = state.constraints[ref]?
  active : activeLayoutConstraints item next = activeLayoutConstraints item state

theorem Unaffected.trans {item : UIObject} {state next last : ConstraintState}
    (h : Unaffected item state next) (h' : Unaffected item next last) :
    Unaffected item state last :=
  ⟨h'.constraintsSet.trans h.constraintsSet,
    fun ref there =>
      (h'.constraints ref (h.constraintsSet ▸ there)).trans (h.constraints ref there),
    h'.active.trans h.active⟩

section Others

variable {item other : UIObject} {state : ConstraintState}

theorem unaffected_removeConstraints (tracked : WellTracked state) (apart : other ≠ item) :
    Unaffected other state (state.removeConstraints item) := by
  refine ⟨?_, fun ref there => ?_, (active_removeConstraints tracked item).2 other apart⟩
  · rw [removeConstraints_eq tracked]
    exact Function.update_of_ne apart _ _
  · obtain ⟨constraint, isConstraint, owned⟩ := tracked.owner other ref there
    have not_off : ref ∉ state.constraintsOf item := by
      intro off
      obtain ⟨same, isSame, ofItem⟩ := tracked.owner item ref ((mem_constraintsOf ref).mp off)
      cases Option.some.inj (isConstraint.symm.trans isSame)
      exact apart (Option.some.inj (owned.symm.trans ofItem))
    rw [removeConstraints_eq tracked, getElem?_switchedOff, isConstraint, Option.map_some,
      if_neg not_off]

theorem unaffected_makeConstraints (tracked : WellTracked state) {closure : List MakerStatement}
    {next : ConstraintState} (h : state.makeConstraints item closure = .ok next)
    (apart : other ≠ item) : Unaffected other state next := by
  obtain ⟨_, _, _, active⟩ := active_makeConstraints tracked h
  obtain ⟨made, _, same⟩ := makeConstraints_ok tracked h
  refine ⟨?_, fun ref there => ?_, active other apart⟩
  · rw [same]
    exact Function.update_of_ne apart _ _
  · obtain ⟨constraint, isConstraint, -⟩ := tracked.owner other ref there
    rw [same, List.getElem?_append_left (List.getElem?_eq_some_iff.mp isConstraint).1]

end Others

/-- After any run every active layout constraint belongs to a constraint that its item keeps.
So removing the constraints of an item leaves none of them active and remaking them leaves
exactly those that the closure describes, whatever the app did with constraints it kept; the
other items are left alone. -/
theorem remake_after_run (interface : Interface) (translates : UIObject → Bool)
    (events : List Event) (state : ConstraintState)
    (reached : run step (initial interface translates) events = some state) (item : UIObject) :
    (∀ one ∈ activeLayoutConstraints item state, ∃ ref ∈ state.constraintsOf item,
      ∃ constraint, state.constraints[ref]? = some constraint ∧
        one ∈ constraint.layoutConstraints) ∧
    (activeLayoutConstraints item (state.removeConstraints item) = [] ∧
      (state.removeConstraints item).constraintsOf item = [] ∧
      ∀ other, other ≠ item → Unaffected other state (state.removeConstraints item)) ∧
    ∀ closure next, state.remakeConstraints item closure = .ok next →
      ∃ made, described state.interface item closure = .ok made ∧
        activeLayoutConstraints item next = activated made ∧
        ∀ other, other ≠ item → Unaffected other state next := by
  have tracked := wellTracked_run reached
  obtain ⟨none_active, _⟩ := active_removeConstraints tracked item
  refine ⟨?_, ⟨none_active, ?_, fun other apart => unaffected_removeConstraints tracked apart⟩, ?_⟩
  · intro one there
    obtain ⟨constraint, inAll, inActive⟩ := List.mem_flatMap.mp there
    obtain ⟨inOnes, isActive⟩ := List.mem_filter.mp inActive
    obtain ⟨oneActive, first⟩ := Bool.and_eq_true_iff.mp isActive
    obtain ⟨ref, isAt⟩ := List.mem_iff_getElem?.mp inAll
    obtain ⟨owner, owned, inSet⟩ := tracked.active ref constraint isAt
      (List.any_eq_true.mpr ⟨one, inOnes, oneActive⟩)
    have isFirst := tracked.firstItem ref constraint isAt one inOnes
    cases Option.some.inj (owned.symm.trans isFirst)
    rw [of_decide_eq_true first] at inSet
    exact ⟨ref, (mem_constraintsOf ref).mpr inSet, constraint, isAt, inOnes⟩
  · rw [List.eq_nil_iff_forall_not_mem]
    intro ref there
    rw [mem_constraintsOf, removeConstraints_eq tracked] at there
    simp at there
  · intro closure next made
    have removed := wellTracked_removeConstraints tracked item
    obtain ⟨described, isDescribed, active, -⟩ := active_makeConstraints removed made
    rw [none_active, List.nil_append] at active
    rw [removeConstraints_eq tracked] at isDescribed
    exact ⟨described, isDescribed, active, fun other apart =>
      (unaffected_removeConstraints tracked apart).trans
        (unaffected_makeConstraints removed made apart)⟩

/-- The closure that puts the attributes of a property where those of a second view are. -/
def equalTo (property : MakerProperty) : List MakerStatement :=
  [⟨⟨property, []⟩, some (.relatedTo (.view ⟨.view, 1⟩) .equal "" 0, [])⟩]

/-- A view with its edges at those of another view is remade with its centers there. -/
theorem remake_after_run_edges :
    ∃ state next, run step (initial (.plain fun _ => none) fun _ => true)
        [.makeConstraints ⟨.view, 0⟩ (equalTo .edges)] = some state ∧
      state.remakeConstraints ⟨.view, 0⟩ (equalTo .center) = .ok next ∧
      ∃ made, described state.interface ⟨.view, 0⟩ (equalTo .center) = .ok made ∧
        activeLayoutConstraints ⟨.view, 0⟩ next = activated made := by
  refine ⟨_, _, rfl, rfl, ?_⟩
  obtain ⟨made, isMade, active, -⟩ := (remake_after_run (.plain fun _ => none) (fun _ => true)
    [.makeConstraints ⟨.view, 0⟩ (equalTo .edges)] _ rfl ⟨.view, 0⟩).2.2 (equalTo .center) _ rfl
  exact ⟨made, isMade, active⟩

end FinanciaApp.Guarantees
