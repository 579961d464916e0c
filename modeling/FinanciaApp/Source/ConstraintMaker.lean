import Mathlib.Logic.Function.Basic
import FinanciaApp.Library.Runs
import FinanciaApp.Source.Constraint

/-!
# The constraint maker and the constraints that items keep

`Core/ThirdParty/SnapKit/ConstraintMaker.swift`, `LayoutConstraintItem.swift` and the rest of
`Constraint.swift`. Constraints are objects: the state lists every constraint made so far, and
a reference is a position in it. Each item has the set of constraints that `add` and `remove`
keep for it. A trap ends the run in the state before the event.

Between two calls UIKit may answer differently, and it or the app may switch off a layout
constraint, for instance one to a view that leaves the hierarchy.
-/

set_option autoImplicit false

namespace FinanciaApp.Source

open Library

structure ConstraintState where
  interface : Interface
  constraints : List Constraint
  constraintsSet : UIObject → List Nat
  translatesAutoresizingMaskIntoConstraints : UIObject → Bool

namespace Constraint

/-- `NSLayoutConstraint.activate` and `NSLayoutConstraint.deactivate`. -/
def setActive (active : Bool) (constraint : Constraint) : Constraint :=
  { constraint with
    layoutConstraints := constraint.layoutConstraints.map fun layoutConstraint =>
      { layoutConstraint with isActive := active } }

def deactivateAt (index : Nat) (constraint : Constraint) : Constraint :=
  { constraint with
    layoutConstraints := constraint.layoutConstraints.modify index fun layoutConstraint =>
      { layoutConstraint with isActive := false } }

/-- The layout constraint at `index` takes its constant from `constant`. -/
def setConstantAt (direction : LayoutDirection) (constant : ConstraintConstantTarget)
    (index : Nat) (constraint : Constraint) : Constraint :=
  { constraint with
    layoutConstraints := constraint.layoutConstraints.modify index fun layoutConstraint =>
      { layoutConstraint with
        constant := constant.constraintConstantTargetValueFor direction
          layoutConstraint.updateLayoutAttribute } }

end Constraint

namespace ConstraintState

def initial (interface : Interface) (translates : UIObject → Bool) : ConstraintState where
  interface := interface
  constraints := []
  constraintsSet := fun _ => []
  translatesAutoresizingMaskIntoConstraints := translates

def modifyConstraint (ref : Nat) (change : Constraint → Constraint) (state : ConstraintState) :
    ConstraintState :=
  { state with constraints := state.constraints.modify ref change }

/-- `prepare` of an item. -/
def prepare (item : UIObject) (state : ConstraintState) : ConstraintState :=
  if item.kind = .view then
    { state with
      translatesAutoresizingMaskIntoConstraints :=
        Function.update state.translatesAutoresizingMaskIntoConstraints item false }
  else
    state

def add (item : UIObject) (ref : Nat) (state : ConstraintState) : ConstraintState :=
  if ref ∈ state.constraintsSet item then
    state
  else
    { state with
      constraintsSet :=
        Function.update state.constraintsSet item (state.constraintsSet item ++ [ref]) }

def remove (item : UIObject) (ref : Nat) (state : ConstraintState) : ConstraintState :=
  { state with
    constraintsSet := Function.update state.constraintsSet item
      ((state.constraintsSet item).filter fun tracked => tracked ≠ ref) }

/-- The `constraints` of an item, in the order in which its set hands them out. -/
def constraintsOf (item : UIObject) (state : ConstraintState) : List Nat :=
  state.interface.allObjects (state.constraintsSet item)

/-- `activateIfNeeded(updatingExisting: false)`. -/
def activateIfNeeded (ref : Nat) (state : ConstraintState) : ConstraintState :=
  match state.constraints[ref]?.bind fun constraint => constraint.fromItem.layoutConstraintItem with
  | some item => (state.modifyConstraint ref (.setActive true)).add item ref
  | none => state

def deactivateIfNeeded (ref : Nat) (state : ConstraintState) : ConstraintState :=
  match state.constraints[ref]?.bind fun constraint => constraint.fromItem.layoutConstraintItem with
  | some item => (state.modifyConstraint ref (.setActive false)).remove item ref
  | none => state

/-- A layout constraint by the reference of its constraint and its position there. -/
def layoutConstraint? (state : ConstraintState) (place : Nat × Nat) : Option LayoutConstraint :=
  state.constraints[place.1]?.bind fun constraint => constraint.layoutConstraints[place.2]?

/-- The layout constraints of the constraints of an item. -/
def existingLayoutConstraints (item : UIObject) (state : ConstraintState) : List (Nat × Nat) :=
  (state.constraintsOf item).flatMap fun ref =>
    match state.constraints[ref]? with
    | some constraint =>
      (List.range constraint.layoutConstraints.length).map fun index => (ref, index)
    | none => []

/-- The layout constraint at `place` is equal, as `==` compares them, to `layoutConstraint`. -/
def matchesKey (state : ConstraintState) (layoutConstraint : LayoutConstraint)
    (place : Nat × Nat) : Bool :=
  decide ((state.layoutConstraint? place).map LayoutConstraint.key = some layoutConstraint.key)

/-- One turn of the loop of `activateIfNeeded(updatingExisting: true)`. -/
def updateExisting (existing : List (Nat × Nat)) (constant : ConstraintConstantTarget)
    (state : ConstraintState) (layoutConstraint : LayoutConstraint) :
    Except ConstraintTrap ConstraintState :=
  match existing.find? (state.matchesKey layoutConstraint) with
  | some (ref, index) =>
    .ok (state.modifyConstraint ref
      (.setConstantAt state.interface.interfaceLayoutDirection constant index))
  | none => .error .updatedConstraintCouldNotFindExisting

/-- `activateIfNeeded(updatingExisting: true)`. -/
def activateUpdatingExisting (ref : Nat) (state : ConstraintState) :
    Except ConstraintTrap ConstraintState :=
  match state.constraints[ref]? with
  | some constraint =>
    match constraint.fromItem.layoutConstraintItem with
    | some item =>
      constraint.layoutConstraints.foldlM
        (updateExisting (state.existingLayoutConstraints item) constraint.constant) state
    | none => .ok state
  | none => .ok state

/-- The constraints that the statements of a closure describe. -/
def described (interface : Interface) (item : UIObject) (closure : List MakerStatement) :
    Except ConstraintTrap (List Constraint) :=
  match closure.mapM (MakerStatement.constraint interface item) with
  | .ok constraints => .ok constraints.reduceOption
  | .error trap => .error trap

/-- The new constraints are objects of their own; the result has their references. -/
def prepareConstraints (item : UIObject) (closure : List MakerStatement)
    (state : ConstraintState) : Except ConstraintTrap (List Nat × ConstraintState) :=
  match described state.interface item closure with
  | .ok constraints =>
    .ok (List.range' state.constraints.length constraints.length,
      { state.prepare item with constraints := state.constraints ++ constraints })
  | .error trap => .error trap

def makeConstraints (item : UIObject) (closure : List MakerStatement) (state : ConstraintState) :
    Except ConstraintTrap ConstraintState :=
  match state.prepareConstraints item closure with
  | .ok (refs, prepared) => .ok (refs.foldl (fun state ref => state.activateIfNeeded ref) prepared)
  | .error trap => .error trap

def removeConstraints (item : UIObject) (state : ConstraintState) : ConstraintState :=
  (state.constraintsOf item).foldl (fun state ref => state.deactivateIfNeeded ref) state

def remakeConstraints (item : UIObject) (closure : List MakerStatement)
    (state : ConstraintState) : Except ConstraintTrap ConstraintState :=
  (state.removeConstraints item).makeConstraints item closure

def updateConstraints (item : UIObject) (closure : List MakerStatement)
    (state : ConstraintState) : Except ConstraintTrap ConstraintState :=
  if state.constraintsOf item = [] then
    state.makeConstraints item closure
  else
    match state.prepareConstraints item closure with
    | .ok (refs, prepared) =>
      refs.foldlM (fun state ref => state.activateUpdatingExisting ref) prepared
    | .error trap => .error trap

/-- What the app calls, on an item or on a constraint that it kept, and what happens to the
layout constraints besides. -/
inductive Event where
  | prepareConstraints (item : UIObject) (closure : List MakerStatement)
  | makeConstraints (item : UIObject) (closure : List MakerStatement)
  | remakeConstraints (item : UIObject) (closure : List MakerStatement)
  | updateConstraints (item : UIObject) (closure : List MakerStatement)
  | removeConstraints (item : UIObject)
  | activate (ref : Nat)
  | deactivate (ref : Nat)
  | updateOffset (ref : Nat) (amount : Rat)
  | updateInset (ref : Nat) (amount : ConstraintInsetTarget)
  | updatePriority (ref : Nat) (amount : Rat)
  | layoutConstraintDeactivated (ref index : Nat)
  | interfaceChanged (interface : Interface)

/-- One event; `none` where it traps. -/
def step (state : ConstraintState) (e : Event) : Option ConstraintState :=
  let direction := state.interface.interfaceLayoutDirection
  match e with
  | .prepareConstraints item closure =>
    (state.prepareConstraints item closure).toOption.map Prod.snd
  | .makeConstraints item closure => (state.makeConstraints item closure).toOption
  | .remakeConstraints item closure => (state.remakeConstraints item closure).toOption
  | .updateConstraints item closure => (state.updateConstraints item closure).toOption
  | .removeConstraints item => some (state.removeConstraints item)
  | .activate ref => some (state.activateIfNeeded ref)
  | .deactivate ref => some (state.deactivateIfNeeded ref)
  | .updateOffset ref amount =>
    some (state.modifyConstraint ref (.updateOffset direction amount))
  | .updateInset ref amount => some (state.modifyConstraint ref (.updateInset direction amount))
  | .updatePriority ref amount =>
    some (state.modifyConstraint ref (.updatePriority direction amount))
  | .layoutConstraintDeactivated ref index =>
    some (state.modifyConstraint ref (.deactivateAt index))
  | .interfaceChanged interface => some { state with interface := interface }

end ConstraintState

end FinanciaApp.Source
