import Mathlib.Data.List.ReduceOption
import FinanciaApp.Source.ConstraintMaker

/-!
# Active constraints are tracked

`Core/ThirdParty/SnapKit/ConstraintMaker.swift` finds the constraints of an item in a set that
`Constraint.activateIfNeeded` and `deactivateIfNeeded` keep. In every run, whatever the app
does with constraints it kept and whatever UIKit switches off, an active layout constraint
belongs to a constraint in the set of its item. So remaking the constraints of an item leaves
exactly the new ones active, and touches no other item.
-/

set_option autoImplicit false

namespace FinanciaApp.Guarantees

open Library Source Source.ConstraintState

section Described

variable {interface : Interface} {item : UIObject}

/-- A constraint that a closure for `item` describes, straight from `init`. -/
def DescribedFor (interface : Interface) (item : UIObject) (made : Constraint) : Prop :=
  ∃ arguments : Constraint, arguments.fromItem.target = some item ∧
    (arguments.toItem.target = none → arguments.toItem.attributes = .none) ∧
    Constraint.initialized interface arguments = .ok made

/-- What holds of a description from its start until its constraint is asked for. -/
def DescribesItem (item : UIObject) (description : ConstraintDescription) : Prop :=
  description.item = item ∧ ∀ related, description.related = some related →
    related.target = none → related.attributes = .none

theorem describesItem_related {description related : ConstraintDescription}
    {relation : MakerRelation} (start : DescribesItem item description)
    (h : MakerStatement.related interface relation description = .ok related) :
    DescribesItem item related := by
  have relatedTo : ∀ other relation file line,
      description.relatedTo other relation file line = .ok related →
        DescribesItem item related := by
    intro other relation file line h
    unfold ConstraintDescription.relatedTo at h
    cases other with
    | item target attributes =>
      dsimp only at h
      split_ifs at h
      cases h
      exact ⟨start.1, fun related same missing => by cases same; cases missing⟩
    | view view =>
      cases h
      exact ⟨start.1, fun related same missing => by cases same; cases missing⟩
    | constant constant =>
      cases h
      exact ⟨start.1, fun related same _ => by cases same; rfl⟩
    | layoutGuide guide =>
      cases h
      exact ⟨start.1, fun related same missing => by cases same; cases missing⟩
  cases relation with
  | relatedTo other relation file line => exact relatedTo other relation file line h
  | relatedToSuperview relation file line =>
    unfold MakerStatement.related ConstraintDescription.relatedToSuperview at h
    dsimp only at h
    split at h
    · exact relatedTo _ _ _ _ h
    · cases h

theorem describesItem_edited {description : ConstraintDescription} (edits : List MakerEdit)
    (start : DescribesItem item description) :
    DescribesItem item (edits.foldl MakerStatement.edited description) := by
  induction edits generalizing description with
  | nil => exact start
  | cons edit edits ih =>
    apply ih
    cases edit <;> exact start

theorem describedFor_of_constraint {statement : MakerStatement} {made : Constraint}
    (h : statement.constraint interface item = .ok (some made)) :
    DescribedFor interface item made := by
  unfold MakerStatement.constraint at h
  cases described : statement.description interface item with
  | error trap =>
    rw [described] at h
    cases h
  | ok description =>
    rw [described] at h
    have describes : DescribesItem item description := by
      have start : DescribesItem item (.new item statement.chain.attributes) :=
        ⟨rfl, fun _ same => nomatch same⟩
      unfold MakerStatement.description at described
      dsimp only at described
      split at described
      · cases described
        exact start
      · split at described
        · cases described
        · rename_i related
          cases described
          exact describesItem_edited _ (describesItem_related start related)
    dsimp only [ConstraintDescription.constraint] at h
    split at h
    · rename_i relation related location _ isRelated _
      cases initialized : Constraint.initialized interface _ with
      | error trap =>
        rw [initialized] at h
        cases h
      | ok one =>
        rw [initialized] at h
        cases Option.some.inj (Except.ok.inj h)
        exact ⟨_, congrArg some describes.1, describes.2 related isRelated, initialized⟩
    · cases h

theorem describedFor_of_described {closure : List MakerStatement} {made : List Constraint}
    (h : described interface item closure = .ok made) :
    ∀ constraint ∈ made, DescribedFor interface item constraint := by
  unfold described at h
  split at h
  · rename_i constraints mapped
    cases h
    intro constraint there
    obtain ⟨statement, -, isMade⟩ := exists_of_mem_mapM_ok (mapM_ok_iff_forall₂.mp mapped)
      (List.reduceOption_mem_iff.mp there)
    exact describedFor_of_constraint isMade
  · cases h

/-- The item of a new constraint and of its layout constraints, none of which is active. -/
theorem DescribedFor.fields {made : Constraint} (h : DescribedFor interface item made) :
    made.fromItem.layoutConstraintItem = some item ∧
      ∀ layoutConstraint ∈ made.layoutConstraints,
        layoutConstraint.firstItem = item ∧ layoutConstraint.isActive = false := by
  obtain ⟨arguments, isItem, -, initialized⟩ := h
  obtain ⟨layoutFrom, layoutConstraints, isFrom, each, rfl⟩ :=
    Constraint.initialized_ok initialized
  have same : layoutFrom = item :=
    Option.some.inj ((Option.filter_eq_some_iff.mp isFrom).1.symm.trans isItem)
  refine ⟨same ▸ isFrom, fun layoutConstraint there => ?_⟩
  obtain ⟨first, -, one⟩ := exists_of_mem_mapM_ok each there
  obtain ⟨second, -, rfl⟩ := Constraint.layoutConstraint_ok one
  exact ⟨same, rfl⟩

end Described

structure WellTracked (state : ConstraintState) : Prop where
  nodup : ∀ item, (state.constraintsSet item).Nodup
  owner : ∀ item, ∀ ref ∈ state.constraintsSet item, ∃ constraint,
    state.constraints[ref]? = some constraint ∧
      constraint.fromItem.layoutConstraintItem = some item
  active : ∀ (ref : Nat) (constraint : Constraint), state.constraints[ref]? = some constraint →
    constraint.isActive = true → ∃ item,
      constraint.fromItem.layoutConstraintItem = some item ∧ ref ∈ state.constraintsSet item
  firstItem : ∀ (ref : Nat) (constraint : Constraint), state.constraints[ref]? = some constraint →
    ∀ layoutConstraint ∈ constraint.layoutConstraints,
      constraint.fromItem.layoutConstraintItem = some layoutConstraint.firstItem

/-- A change of a constraint that keeps its items and activates nothing. -/
def Quiet (change : Constraint → Constraint) : Prop :=
  ∀ constraint, (change constraint).fromItem = constraint.fromItem ∧
    ∀ layoutConstraint ∈ (change constraint).layoutConstraints,
      ∃ old ∈ constraint.layoutConstraints, old.firstItem = layoutConstraint.firstItem ∧
        (layoutConstraint.isActive = true → old.isActive = true)

section Changes

theorem mem_modify {α : Type} {change : α → α} {index : Nat} {xs : List α} {x : α}
    (there : x ∈ xs.modify index change) : ∃ y ∈ xs, x = y ∨ x = change y := by
  obtain ⟨i, hi⟩ := List.mem_iff_getElem?.mp there
  rw [List.getElem?_modify] at hi
  obtain ⟨y, isY, hy⟩ := Option.map_eq_some_iff.mp hi
  refine ⟨y, List.mem_of_getElem? isY, ?_⟩
  split at hy
  · exact .inr hy.symm
  · exact .inl hy.symm

theorem quiet_map {change : Constraint → Constraint} (edit : Constraint → LayoutConstraint →
      LayoutConstraint)
    (items : ∀ constraint, (change constraint).fromItem = constraint.fromItem)
    (edited : ∀ constraint, (change constraint).layoutConstraints =
      constraint.layoutConstraints.map (edit constraint))
    (keeps : ∀ constraint one, (edit constraint one).firstItem = one.firstItem ∧
      ((edit constraint one).isActive = true → one.isActive = true)) : Quiet change := by
  intro constraint
  refine ⟨items constraint, fun layoutConstraint there => ?_⟩
  rw [edited] at there
  obtain ⟨old, inOld, rfl⟩ := List.mem_map.mp there
  exact ⟨old, inOld, (keeps constraint old).1.symm, (keeps constraint old).2⟩

theorem quiet_modify {index : Nat} {edit : LayoutConstraint → LayoutConstraint}
    {change : Constraint → Constraint}
    (items : ∀ constraint, (change constraint).fromItem = constraint.fromItem)
    (edited : ∀ constraint, (change constraint).layoutConstraints =
      constraint.layoutConstraints.modify index edit)
    (keeps : ∀ one, (edit one).firstItem = one.firstItem ∧
      ((edit one).isActive = true → one.isActive = true)) : Quiet change := by
  intro constraint
  refine ⟨items constraint, fun layoutConstraint there => ?_⟩
  rw [edited] at there
  obtain ⟨old, inOld, same⟩ := mem_modify there
  rcases same with rfl | rfl
  · exact ⟨layoutConstraint, inOld, rfl, id⟩
  · exact ⟨old, inOld, (keeps old).1.symm, (keeps old).2⟩

theorem quiet_deactivate : Quiet (.setActive false) :=
  quiet_map (fun _ one => { one with isActive := false }) (fun _ => rfl) (fun _ => rfl)
    fun _ _ => ⟨rfl, nofun⟩

theorem quiet_deactivateAt (index : Nat) : Quiet (.deactivateAt index) :=
  quiet_modify (fun _ => rfl) (fun _ => rfl) fun _ => ⟨rfl, nofun⟩

theorem quiet_setConstantAt (direction : LayoutDirection) (constant : ConstraintConstantTarget)
    (index : Nat) : Quiet (.setConstantAt direction constant index) :=
  quiet_modify (fun _ => rfl) (fun _ => rfl) fun _ => ⟨rfl, id⟩

theorem quiet_update (direction : LayoutDirection) (set : Constraint → Constraint)
    (items : ∀ constraint, (set constraint).fromItem = constraint.fromItem)
    (layouts : ∀ constraint, (set constraint).layoutConstraints = constraint.layoutConstraints) :
    Quiet fun constraint => (set constraint).updateConstantAndPriorityIfNeeded direction := by
  intro constraint
  refine ⟨items constraint, fun layoutConstraint there => ?_⟩
  obtain ⟨old, inOld, rfl⟩ := List.mem_map.mp there
  exact ⟨old, layouts constraint ▸ inOld, rfl, id⟩

variable {state : ConstraintState}

theorem wellTracked_modify (h : WellTracked state) {change : Constraint → Constraint}
    (quiet : Quiet change) (ref : Nat) : WellTracked (state.modifyConstraint ref change) := by
  -- a constraint after the change, by the one before it
  have before : ∀ (other : Nat) (constraint : Constraint),
      (state.modifyConstraint ref change).constraints[other]? = some constraint →
        ∃ old : Constraint, state.constraints[other]? = some old ∧
          old.fromItem = constraint.fromItem ∧
          ∀ one ∈ constraint.layoutConstraints, ∃ oldOne ∈ old.layoutConstraints,
            oldOne.firstItem = one.firstItem ∧ (one.isActive = true → oldOne.isActive = true) := by
    intro other constraint there
    rw [modifyConstraint, List.getElem?_modify] at there
    obtain ⟨old, isOld, changed⟩ := Option.map_eq_some_iff.mp there
    refine ⟨old, isOld, ?_⟩
    split at changed
    · rw [← changed]
      exact ⟨(quiet old).1.symm, (quiet old).2⟩
    · rw [← changed]
      exact ⟨rfl, fun one inOld => ⟨one, inOld, rfl, id⟩⟩
  constructor
  · exact h.nodup
  · intro item other tracked
    obtain ⟨old, isOld, owned⟩ := h.owner item other tracked
    refine ⟨if ref = other then change old else old, ?_, ?_⟩
    · rw [modifyConstraint, List.getElem?_modify, isOld]
      rfl
    · split_ifs
      · rw [(quiet old).1, owned]
      · exact owned
  · intro other constraint there isActive
    obtain ⟨old, isOld, items, ones⟩ := before other constraint there
    obtain ⟨one, inOnes, oneActive⟩ := List.any_eq_true.mp isActive
    obtain ⟨oldOne, inOld, -, wasActive⟩ := ones one inOnes
    rw [← items]
    exact h.active other old isOld (List.any_eq_true.mpr ⟨oldOne, inOld, wasActive oneActive⟩)
  · intro other constraint there one inOnes
    obtain ⟨old, isOld, items, ones⟩ := before other constraint there
    obtain ⟨oldOne, inOld, first, -⟩ := ones one inOnes
    rw [← items, ← first]
    exact h.firstItem other old isOld oldOne inOld

theorem mem_add (item other : UIObject) (ref r : Nat) (state : ConstraintState) :
    r ∈ (state.add item ref).constraintsSet other ↔
      r ∈ state.constraintsSet other ∨ (other = item ∧ r = ref) := by
  unfold add
  split_ifs with there
  · exact ⟨.inl, fun h => h.elim id fun ⟨same, isRef⟩ => same ▸ isRef ▸ there⟩
  · by_cases same : other = item
    · subst same
      simp
    · simp [same]

theorem mem_remove (item other : UIObject) (ref r : Nat) (state : ConstraintState) :
    r ∈ (state.remove item ref).constraintsSet other ↔
      r ∈ state.constraintsSet other ∧ ¬(other = item ∧ r = ref) := by
  unfold remove
  by_cases same : other = item
  · subst same
    simp
  · simp [same]

theorem nodup_add {item : UIObject} {ref : Nat} (h : ∀ other, (state.constraintsSet other).Nodup)
    (other : UIObject) : ((state.add item ref).constraintsSet other).Nodup := by
  unfold add
  split_ifs with there
  · exact h other
  · by_cases same : other = item
    · subst same
      simp only [Function.update_self]
      exact List.nodup_append_comm.mp (List.nodup_cons.mpr ⟨there, h other⟩)
    · simp only [Function.update_of_ne same]
      exact h other

theorem nodup_remove {item : UIObject} {ref : Nat}
    (h : ∀ other, (state.constraintsSet other).Nodup) (other : UIObject) :
    ((state.remove item ref).constraintsSet other).Nodup := by
  unfold remove
  by_cases same : other = item
  · subst same
    simp only [Function.update_self]
    exact (h other).filter _
  · simp only [Function.update_of_ne same]
    exact h other

@[simp] theorem add_constraints (item : UIObject) (ref : Nat) (state : ConstraintState) :
    (state.add item ref).constraints = state.constraints := by
  unfold add
  split_ifs <;> rfl

@[simp] theorem remove_constraints (item : UIObject) (ref : Nat) (state : ConstraintState) :
    (state.remove item ref).constraints = state.constraints := rfl

theorem getElem?_setActive (state : ConstraintState) (ref other : Nat) (active : Bool) :
    (state.modifyConstraint ref (.setActive active)).constraints[other]? =
      state.constraints[other]?.map fun constraint =>
        if ref = other then constraint.setActive active else constraint := by
  rw [modifyConstraint, List.getElem?_modify]
  cases state.constraints[other]? with
  | none => rfl
  | some constraint =>
    by_cases same : ref = other
    · simp [same]
    · simp [same]

/-- The item that a reference belongs to, as `activateIfNeeded` finds it. -/
theorem found_iff {ref : Nat} {item : UIObject} :
    (state.constraints[ref]?.bind fun constraint =>
        constraint.fromItem.layoutConstraintItem) = some item ↔
      ∃ constraint, state.constraints[ref]? = some constraint ∧
        constraint.fromItem.layoutConstraintItem = some item := Option.bind_eq_some_iff

theorem wellTracked_activate (h : WellTracked state) (ref : Nat) :
    WellTracked (state.activateIfNeeded ref) := by
  unfold activateIfNeeded
  split
  · rename_i item found
    obtain ⟨constraint, isConstraint, isItem⟩ := found_iff.mp found
    constructor
    · exact nodup_add h.nodup
    · intro other r tracked
      rw [add_constraints, getElem?_setActive]
      rcases (mem_add item other ref r _).mp tracked with before | ⟨rfl, rfl⟩
      · obtain ⟨old, isOld, owned⟩ := h.owner other r before
        rw [isOld]
        refine ⟨_, rfl, ?_⟩
        split_ifs
        · exact owned
        · exact owned
      · rw [isConstraint]
        exact ⟨_, rfl, by dsimp only; rw [if_pos rfl]; exact isItem⟩
    · intro r changed there isActive
      rw [add_constraints, getElem?_setActive] at there
      obtain ⟨old, isOld, rfl⟩ := Option.map_eq_some_iff.mp there
      by_cases same : ref = r
      · subst same
        rw [isConstraint] at isOld
        cases isOld
        rw [if_pos rfl]
        exact ⟨item, isItem, (mem_add item item ref ref _).mpr (.inr ⟨rfl, rfl⟩)⟩
      · rw [if_neg same] at isActive ⊢
        obtain ⟨owner, owned, tracked⟩ := h.active r old isOld isActive
        exact ⟨owner, owned, (mem_add item owner ref r _).mpr (.inl tracked)⟩
    · intro r changed there one inOnes
      rw [add_constraints, getElem?_setActive] at there
      obtain ⟨old, isOld, rfl⟩ := Option.map_eq_some_iff.mp there
      split_ifs at inOnes ⊢
      · obtain ⟨oldOne, inOld, rfl⟩ := List.mem_map.mp inOnes
        exact h.firstItem r old isOld oldOne inOld
      · exact h.firstItem r old isOld one inOnes
  · exact h

theorem wellTracked_deactivate (h : WellTracked state) (ref : Nat) :
    WellTracked (state.deactivateIfNeeded ref) := by
  unfold deactivateIfNeeded
  split
  · rename_i item found
    obtain ⟨constraint, isConstraint, isItem⟩ := found_iff.mp found
    have quieted := wellTracked_modify h quiet_deactivate ref
    constructor
    · exact nodup_remove quieted.nodup
    · intro other r tracked
      exact quieted.owner other r ((mem_remove item other ref r _).mp tracked).1
    · intro r changed there isActive
      obtain ⟨owner, owned, tracked⟩ := quieted.active r changed there isActive
      refine ⟨owner, owned, (mem_remove item owner ref r _).mpr ⟨tracked, ?_⟩⟩
      -- the constraint taken out of the set has just been switched off
      rintro ⟨rfl, rfl⟩
      rw [remove_constraints, getElem?_setActive, isConstraint] at there
      cases there
      simp [Constraint.isActive, Constraint.setActive] at isActive
    · exact quieted.firstItem
  · exact h

/-- New constraints that are in no set yet. -/
theorem wellTracked_append (h : WellTracked state) {interface : Interface} {item : UIObject}
    {made : List Constraint} (new : ∀ constraint ∈ made, DescribedFor interface item constraint) :
    WellTracked { state with constraints := state.constraints ++ made } := by
  have known : ∀ (ref : Nat) (constraint : Constraint),
      (state.constraints ++ made)[ref]? = some constraint →
        state.constraints[ref]? = some constraint ∨ constraint ∈ made := by
    intro ref constraint there
    rcases List.getElem?_append .. ▸ there with there
    split_ifs at there
    · exact .inl there
    · exact .inr (List.mem_of_getElem? there)
  constructor
  · exact h.nodup
  · intro other ref tracked
    obtain ⟨constraint, isConstraint, owned⟩ := h.owner other ref tracked
    refine ⟨constraint, ?_, owned⟩
    rw [List.getElem?_append_left (List.getElem?_eq_some_iff.mp isConstraint).1, isConstraint]
  · intro ref constraint there isActive
    rcases known ref constraint there with before | inMade
    · exact h.active ref constraint before isActive
    · obtain ⟨one, inOnes, oneActive⟩ := List.any_eq_true.mp isActive
      rw [((new constraint inMade).fields.2 one inOnes).2] at oneActive
      cases oneActive
  · intro ref constraint there one inOnes
    rcases known ref constraint there with before | inMade
    · exact h.firstItem ref constraint before one inOnes
    · rw [(new constraint inMade).fields.1, ((new constraint inMade).fields.2 one inOnes).1]

theorem wellTracked_prepare (h : WellTracked state) (item : UIObject) :
    WellTracked (state.prepare item) := by
  unfold prepare
  split_ifs
  · exact ⟨h.nodup, h.owner, h.active, h.firstItem⟩
  · exact h

theorem prepareConstraints_ok {item : UIObject} {closure : List MakerStatement}
    {refs : List Nat} {next : ConstraintState}
    (h : state.prepareConstraints item closure = .ok (refs, next)) :
    ∃ made, described state.interface item closure = .ok made ∧
      refs = List.range' state.constraints.length made.length ∧
      next = { state.prepare item with constraints := state.constraints ++ made } := by
  unfold prepareConstraints at h
  split at h
  · rename_i made isMade
    cases h
    exact ⟨made, isMade, rfl, rfl⟩
  · cases h

theorem prepare_constraints (item : UIObject) (state : ConstraintState) :
    (state.prepare item).constraints = state.constraints := by
  unfold prepare
  split_ifs <;> rfl

theorem prepare_constraintsSet (item : UIObject) (state : ConstraintState) :
    (state.prepare item).constraintsSet = state.constraintsSet := by
  unfold prepare
  split_ifs <;> rfl

theorem prepare_interface (item : UIObject) (state : ConstraintState) :
    (state.prepare item).interface = state.interface := by
  unfold prepare
  split_ifs <;> rfl

theorem wellTracked_prepared (h : WellTracked state) {item : UIObject}
    {closure : List MakerStatement} {made : List Constraint}
    (isMade : described state.interface item closure = .ok made) :
    WellTracked { state.prepare item with constraints := state.constraints ++ made } := by
  have appended := wellTracked_append (wellTracked_prepare h item)
    (describedFor_of_described isMade)
  rwa [prepare_constraints] at appended

theorem wellTracked_prepareConstraints (h : WellTracked state) {item : UIObject}
    {closure : List MakerStatement} {refs : List Nat} {next : ConstraintState}
    (prepared : state.prepareConstraints item closure = .ok (refs, next)) : WellTracked next := by
  obtain ⟨made, isMade, -, rfl⟩ := prepareConstraints_ok prepared
  exact wellTracked_prepared h isMade

theorem wellTracked_foldl {step : ConstraintState → Nat → ConstraintState}
    (kept : ∀ state ref, WellTracked state → WellTracked (step state ref)) (refs : List Nat)
    (h : WellTracked state) : WellTracked (refs.foldl step state) := by
  induction refs generalizing state with
  | nil => exact h
  | cons ref refs ih => exact ih (kept state ref h)

theorem wellTracked_makeConstraints (h : WellTracked state) {item : UIObject}
    {closure : List MakerStatement} {next : ConstraintState}
    (made : state.makeConstraints item closure = .ok next) : WellTracked next := by
  unfold makeConstraints at made
  split at made
  · rename_i refs prepared isPrepared
    cases made
    exact wellTracked_foldl (fun _ ref tracked => wellTracked_activate tracked ref) refs
      (wellTracked_prepareConstraints h isPrepared)
  · cases made

theorem wellTracked_removeConstraints (h : WellTracked state) (item : UIObject) :
    WellTracked (state.removeConstraints item) :=
  wellTracked_foldl (fun _ ref tracked => wellTracked_deactivate tracked ref) _ h

theorem wellTracked_activateUpdatingExisting (h : WellTracked state) {ref : Nat}
    {next : ConstraintState} (updated : state.activateUpdatingExisting ref = .ok next) :
    WellTracked next := by
  unfold activateUpdatingExisting at updated
  split at updated
  · split at updated
    · refine foldlM_invariant WellTracked ?_ h updated
      intro before one after _ tracked isAfter
      unfold updateExisting at isAfter
      split at isAfter
      · cases isAfter
        exact wellTracked_modify tracked (quiet_setConstantAt _ _ _) _
      · cases isAfter
    · cases updated
      exact h
  · cases updated
    exact h

theorem wellTracked_updateConstraints (h : WellTracked state) {item : UIObject}
    {closure : List MakerStatement} {next : ConstraintState}
    (updated : state.updateConstraints item closure = .ok next) : WellTracked next := by
  unfold updateConstraints at updated
  split_ifs at updated
  · exact wellTracked_makeConstraints h updated
  · split at updated
    · rename_i refs prepared isPrepared
      exact foldlM_invariant WellTracked
        (fun _ _ _ _ tracked isAfter => wellTracked_activateUpdatingExisting tracked isAfter)
        (wellTracked_prepareConstraints h isPrepared) updated
    · cases updated

theorem toOption_eq_some {α : Type} {result : Except ConstraintTrap α} {x : α}
    (h : result.toOption = some x) : result = .ok x := by
  cases result with
  | error trap => cases h
  | ok y => exact congrArg Except.ok (Option.some.inj h)

theorem wellTracked_step (h : WellTracked state) (e : Event) (next : ConstraintState)
    (taken : step state e = some next) : WellTracked next := by
  cases e with
  | prepareConstraints item closure =>
    obtain ⟨⟨refs, prepared⟩, isPrepared, rfl⟩ := Option.map_eq_some_iff.mp taken
    exact wellTracked_prepareConstraints h (toOption_eq_some isPrepared)
  | makeConstraints item closure => exact wellTracked_makeConstraints h (toOption_eq_some taken)
  | remakeConstraints item closure =>
    exact wellTracked_makeConstraints (wellTracked_removeConstraints h item)
      (toOption_eq_some taken)
  | updateConstraints item closure =>
    exact wellTracked_updateConstraints h (toOption_eq_some taken)
  | removeConstraints item =>
    cases taken
    exact wellTracked_removeConstraints h item
  | activate ref =>
    cases taken
    exact wellTracked_activate h ref
  | deactivate ref =>
    cases taken
    exact wellTracked_deactivate h ref
  | updateOffset ref amount =>
    cases taken
    exact wellTracked_modify h
      (quiet_update _ (fun constraint => { constraint with constant := .number amount })
        (fun _ => rfl) fun _ => rfl) ref
  | updateInset ref amount =>
    cases taken
    exact wellTracked_modify h
      (quiet_update _ (fun constraint =>
          { constraint with constant := .insets amount.constraintInsetTargetValue })
        (fun _ => rfl) fun _ => rfl) ref
  | updatePriority ref amount =>
    cases taken
    exact wellTracked_modify h
      (quiet_update _ (fun constraint => { constraint with priority := amount })
        (fun _ => rfl) fun _ => rfl) ref
  | layoutConstraintDeactivated ref index =>
    cases taken
    exact wellTracked_modify h (quiet_deactivateAt index) ref
  | interfaceChanged interface =>
    cases taken
    exact ⟨h.nodup, h.owner, h.active, h.firstItem⟩

theorem wellTracked_initial (interface : Interface) (translates : UIObject → Bool) :
    WellTracked (initial interface translates) where
  nodup _ := List.nodup_nil
  owner _ _ := nofun
  active _ _ := nofun
  firstItem _ _ := nofun

theorem wellTracked_run {interface : Interface} {translates : UIObject → Bool}
    {events : List Event} (h : run step (initial interface translates) events = some state) :
    WellTracked state :=
  run_invariant WellTracked (fun _ e next tracked taken => wellTracked_step tracked e next taken)
    (wellTracked_initial interface translates) h

end Changes

end FinanciaApp.Guarantees
