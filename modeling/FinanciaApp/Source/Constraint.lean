import Mathlib.Data.Rat.Defs
import Mathlib.Tactic.FinCases
import Mathlib.Tactic.SplitIfs
import FinanciaApp.Library.FailableMaps
import FinanciaApp.Source.ConstraintAttributes

/-!
# Constraints and their descriptions

`Core/ThirdParty/SnapKit/Constraint.swift`, `ConstraintConstantTarget.swift`,
`ConstraintDescription.swift`, `ConstraintItem.swift`, `ConstraintMakerRelatable.swift`,
`ConstraintMakerEditable.swift` and `LayoutConstraint.swift`, the branches of iOS, over exact
rational numbers. A statement of a closure is a chain, what it is related to, and the edits
after that, in the order in which the types of the fluent interface allow them. Objects stay
alive, so a weak target is the target it was set to. What UIKit answers is an `Interface`.
-/

set_option autoImplicit false

namespace FinanciaApp.Source

open Library

inductive UIObjectKind where
  | view | layoutGuide | layoutSupport
  deriving DecidableEq, Repr

structure UIObject where
  kind : UIObjectKind
  identifier : Nat
  deriving DecidableEq, Repr

/-- Views and layout guides are the `LayoutConstraintItem`s. -/
def UIObject.isLayoutConstraintItem (object : UIObject) : Bool :=
  object.kind != .layoutSupport

inductive LayoutDirection where
  | leftToRight | rightToLeft
  deriving DecidableEq, Repr

/-- What the code asks UIKit and `ConstraintConfig`. A layout constraint reports the second
attribute that it was given, unless it has no second item; a set hands out its elements in
any order. The initializer of a layout constraint is taken to accept all that it is given: the
exceptions that UIKit raises, as for two attributes of different axes, are not modelled. -/
structure Interface where
  superview : UIObject → Option UIObject
  interfaceLayoutDirection : LayoutDirection
  secondAttribute : Option UIObject → LayoutAttribute → LayoutAttribute
  allObjects : List Nat → List Nat
  secondAttribute_some : ∀ object given, secondAttribute (some object) given = given
  secondAttribute_none : ∀ given,
    secondAttribute none given = given ∨ secondAttribute none given = .notAnAttribute
  allObjects_perm : ∀ elements, (allObjects elements).Perm elements

/-- A left-to-right interface that reports every second attribute as it was given. -/
def Interface.plain (superview : UIObject → Option UIObject) : Interface where
  superview := superview
  interfaceLayoutDirection := .leftToRight
  secondAttribute := fun _ given => given
  allObjects := id
  secondAttribute_some := fun _ _ => rfl
  secondAttribute_none := fun _ => .inl rfl
  allObjects_perm := List.Perm.refl

structure ConstraintInsets where
  top : Rat
  left : Rat
  bottom : Rat
  right : Rat
  deriving DecidableEq, Repr

/-- The numbers are `CGFloat`, `Float`, `Double`, `Int` and `UInt`. -/
inductive ConstraintConstantTarget where
  | number (value : Rat)
  | size (width height : Rat)
  | point (x y : Rat)
  | insets (insets : ConstraintInsets)
  deriving DecidableEq, Repr

namespace ConstraintConstantTarget

def constraintConstantTargetValueFor (direction : LayoutDirection)
    (layoutAttribute : LayoutAttribute) : ConstraintConstantTarget → Rat
  | .number value => value
  | .size width height =>
    match layoutAttribute with
    | .width => width
    | .height => height
    | _ => 0
  | .point x y =>
    match layoutAttribute with
    | .left | .right | .leading | .trailing | .centerX | .leftMargin | .rightMargin
    | .leadingMargin | .trailingMargin | .centerXWithinMargins => x
    | .top | .bottom | .centerY | .topMargin | .bottomMargin | .centerYWithinMargins
    | .lastBaseline | .firstBaseline => y
    | .width | .height | .notAnAttribute => 0
  | .insets value =>
    match layoutAttribute with
    | .left | .leftMargin | .centerX | .centerXWithinMargins => value.left
    | .top | .topMargin | .centerY | .centerYWithinMargins | .lastBaseline | .firstBaseline =>
      value.top
    | .right | .rightMargin => -value.right
    | .bottom | .bottomMargin => -value.bottom
    | .leading | .leadingMargin =>
      if direction = .leftToRight then value.left else value.right
    | .trailing | .trailingMargin =>
      if direction = .leftToRight then -value.right else -value.left
    | .width => -(value.left + value.right)
    | .height => -(value.top + value.bottom)
    | .notAnAttribute => 0

end ConstraintConstantTarget

inductive ConstraintInsetTarget where
  | number (value : Rat)
  | insets (insets : ConstraintInsets)

def ConstraintInsetTarget.constraintInsetTargetValue : ConstraintInsetTarget → ConstraintInsets
  | .number amount => ⟨amount, amount, amount, amount⟩
  | .insets amount => amount

inductive ConstraintRelation where
  | equal | lessThanOrEqual | greaterThanOrEqual
  deriving DecidableEq, Repr

structure ConstraintItem where
  target : Option UIObject
  attributes : ConstraintAttributes
  deriving DecidableEq, Repr

def ConstraintItem.layoutConstraintItem (item : ConstraintItem) : Option UIObject :=
  item.target.filter UIObject.isLayoutConstraintItem

/-- An `NSLayoutConstraint` with the label that SnapKit keeps in its identifier. -/
structure LayoutConstraint where
  firstItem : UIObject
  firstAttribute : LayoutAttribute
  relation : ConstraintRelation
  secondItem : Option UIObject
  secondAttribute : LayoutAttribute
  multiplier : Rat
  constant : Rat
  priority : Rat
  label : Option String
  isActive : Bool
  deriving DecidableEq, Repr

/-- What the operator `==` compares: neither the constant nor the label. -/
structure LayoutConstraintKey where
  firstItem : UIObject
  secondItem : Option UIObject
  firstAttribute : LayoutAttribute
  secondAttribute : LayoutAttribute
  relation : ConstraintRelation
  priority : Rat
  multiplier : Rat
  deriving DecidableEq

namespace LayoutConstraint

def key (layoutConstraint : LayoutConstraint) : LayoutConstraintKey where
  firstItem := layoutConstraint.firstItem
  secondItem := layoutConstraint.secondItem
  firstAttribute := layoutConstraint.firstAttribute
  secondAttribute := layoutConstraint.secondAttribute
  relation := layoutConstraint.relation
  priority := layoutConstraint.priority
  multiplier := layoutConstraint.multiplier

/-- The attribute that decides which part of a constant applies when it changes. -/
def updateLayoutAttribute (layoutConstraint : LayoutConstraint) : LayoutAttribute :=
  if layoutConstraint.secondAttribute = .notAnAttribute then layoutConstraint.firstAttribute
  else layoutConstraint.secondAttribute

end LayoutConstraint

inductive ConstraintTrap where
  | cannotConstraintToMultipleNonIdenticalAttributes (file : String) (line : Nat)
  | expectedSuperview
  | updatedConstraintCouldNotFindExisting
  | unexpectedlyFoundNil
  | fatalError
  deriving DecidableEq, Repr

structure Constraint where
  fromItem : ConstraintItem
  toItem : ConstraintItem
  relation : ConstraintRelation
  sourceLocation : String × Nat
  label : Option String
  multiplier : Rat
  constant : ConstraintConstantTarget
  priority : Rat
  layoutConstraints : List LayoutConstraint
  deriving DecidableEq, Repr

namespace Constraint

/-- `ConstraintPriority.required`. -/
def required : Rat := 1000

def isActive (constraint : Constraint) : Bool :=
  constraint.layoutConstraints.any LayoutConstraint.isActive

/-- The attribute of the second item that belongs to one of the first. -/
def layoutToAttribute (fromItem toItem : ConstraintItem) (layoutFromAttribute : LayoutAttribute) :
    Except ConstraintTrap LayoutAttribute :=
  match toItem.attributes.layoutAttributes with
  | first :: _ =>
    if fromItem.attributes = .edges ∧ toItem.attributes = .margins then
      match layoutFromAttribute with
      | .left => .ok .leftMargin
      | .right => .ok .rightMargin
      | .top => .ok .topMargin
      | .bottom => .ok .bottomMargin
      | _ => .error .fatalError
    else if fromItem.attributes = .margins ∧ toItem.attributes = .edges then
      match layoutFromAttribute with
      | .leftMargin => .ok .left
      | .rightMargin => .ok .right
      | .topMargin => .ok .top
      | .bottomMargin => .ok .bottom
      | _ => .error .fatalError
    else if fromItem.attributes = toItem.attributes then
      .ok layoutFromAttribute
    else
      .ok first
  | [] =>
    if toItem.target = none ∧
        (layoutFromAttribute = .centerX ∨ layoutFromAttribute = .centerY) then
      .ok (if layoutFromAttribute = .centerX then .left else .top)
    else
      .ok layoutFromAttribute

/-- The item of a layout constraint on the second side: the superview stands in for a missing
one, except for a width or a height. -/
def layoutTo (interface : Interface) (layoutFrom : UIObject) (toItem : ConstraintItem)
    (layoutToAttribute : LayoutAttribute) : Option UIObject :=
  match toItem.target with
  | some target => some target
  | none =>
    if layoutToAttribute ≠ .width ∧ layoutToAttribute ≠ .height then
      interface.superview layoutFrom
    else
      none

/-- One turn of the loop of `init`. -/
def layoutConstraint (interface : Interface) (constraint : Constraint) (layoutFrom : UIObject)
    (layoutFromAttribute : LayoutAttribute) : Except ConstraintTrap LayoutConstraint :=
  match layoutToAttribute constraint.fromItem constraint.toItem layoutFromAttribute with
  | .error trap => .error trap
  | .ok layoutToAttribute =>
    let layoutTo := layoutTo interface layoutFrom constraint.toItem layoutToAttribute
    .ok {
      firstItem := layoutFrom
      firstAttribute := layoutFromAttribute
      relation := constraint.relation
      secondItem := layoutTo
      secondAttribute := interface.secondAttribute layoutTo layoutToAttribute
      multiplier := constraint.multiplier
      constant := constraint.constant.constraintConstantTargetValueFor
        interface.interfaceLayoutDirection layoutToAttribute
      priority := constraint.priority
      label := constraint.label
      isActive := false }

/-- `init`; `constraint` holds the arguments and no layout constraints. -/
def initialized (interface : Interface) (constraint : Constraint) :
    Except ConstraintTrap Constraint :=
  match constraint.fromItem.layoutConstraintItem with
  | none => .error .unexpectedlyFoundNil
  | some layoutFrom =>
    match constraint.fromItem.attributes.layoutAttributes.mapM
        (layoutConstraint interface constraint layoutFrom) with
    | .error trap => .error trap
    | .ok layoutConstraints => .ok { constraint with layoutConstraints := layoutConstraints }

def updateConstantAndPriorityIfNeeded (direction : LayoutDirection) (constraint : Constraint) :
    Constraint :=
  { constraint with
    layoutConstraints := constraint.layoutConstraints.map fun layoutConstraint =>
      { layoutConstraint with
        constant := constraint.constant.constraintConstantTargetValueFor direction
          layoutConstraint.updateLayoutAttribute
        priority :=
          if layoutConstraint.priority < required ∧ constraint.priority ≠ required then
            constraint.priority
          else
            layoutConstraint.priority } }

/-- `update(offset:)` and `update(inset:)` set the constant, `update(priority:)` the priority,
and an observer passes it on. -/
def updateOffset (direction : LayoutDirection) (amount : Rat) (constraint : Constraint) :
    Constraint :=
  updateConstantAndPriorityIfNeeded direction { constraint with constant := .number amount }

def updateInset (direction : LayoutDirection) (amount : ConstraintInsetTarget)
    (constraint : Constraint) : Constraint :=
  updateConstantAndPriorityIfNeeded direction
    { constraint with constant := .insets amount.constraintInsetTargetValue }

def updatePriority (direction : LayoutDirection) (amount : Rat) (constraint : Constraint) :
    Constraint :=
  updateConstantAndPriorityIfNeeded direction { constraint with priority := amount }

end Constraint

/-- An item that is still alive comes as its target and its attributes. -/
inductive ConstraintRelatableTarget where
  | item (target : UIObject) (attributes : ConstraintAttributes)
  | view (view : UIObject)
  | constant (constant : ConstraintConstantTarget)
  | layoutGuide (guide : UIObject)

structure ConstraintDescription where
  item : UIObject
  attributes : ConstraintAttributes
  relation : Option ConstraintRelation
  sourceLocation : Option (String × Nat)
  label : Option String
  related : Option ConstraintItem
  multiplier : Rat
  constant : ConstraintConstantTarget
  priority : Rat

namespace ConstraintDescription

def new (item : UIObject) (attributes : ConstraintAttributes) : ConstraintDescription where
  item := item
  attributes := attributes
  relation := none
  sourceLocation := none
  label := none
  related := none
  multiplier := 1
  constant := .number 0
  priority := 1000

/-- The guard of `relatedTo` for a target that is an item. -/
def relatable (attributes other : ConstraintAttributes) : Bool :=
  other = .none || decide (other.layoutAttributes.length ≤ 1) ||
    other.layoutAttributes = attributes.layoutAttributes ||
    (other = .edges && attributes = .margins) || (other = .margins && attributes = .edges)

def relatedTo (other : ConstraintRelatableTarget) (relation : ConstraintRelation)
    (file : String) (line : Nat) (description : ConstraintDescription) :
    Except ConstraintTrap ConstraintDescription :=
  let related (item : ConstraintItem) (constant : ConstraintConstantTarget) :=
    { description with
      sourceLocation := some (file, line)
      relation := some relation
      related := some item
      constant := constant }
  match other with
  | .item target attributes =>
    if relatable description.attributes attributes then
      .ok (related ⟨some target, attributes⟩ (.number 0))
    else
      .error (.cannotConstraintToMultipleNonIdenticalAttributes file line)
  | .view view => .ok (related ⟨some view, .none⟩ (.number 0))
  | .constant constant => .ok (related ⟨none, .none⟩ constant)
  | .layoutGuide guide => .ok (related ⟨some guide, .none⟩ (.number 0))

/-- `equalToSuperview`, `lessThanOrEqualToSuperview` and `greaterThanOrEqualToSuperview`. -/
def relatedToSuperview (interface : Interface) (relation : ConstraintRelation) (file : String)
    (line : Nat) (description : ConstraintDescription) :
    Except ConstraintTrap ConstraintDescription :=
  match interface.superview description.item with
  | some superview => relatedTo (.view superview) relation file line description
  | none => .error .expectedSuperview

/-- The constraint of a description; `none` for one that is related to nothing. -/
def constraint (interface : Interface) (description : ConstraintDescription) :
    Except ConstraintTrap (Option Constraint) :=
  match description.relation, description.related, description.sourceLocation with
  | some relation, some related, some sourceLocation =>
    (Constraint.initialized interface {
      fromItem := ⟨some description.item, description.attributes⟩
      toItem := related
      relation := relation
      sourceLocation := sourceLocation
      label := description.label
      multiplier := description.multiplier
      constant := description.constant
      priority := description.priority
      layoutConstraints := [] }).map some
  | _, _, _ => .ok none

end ConstraintDescription

/-- What a chain is related to, and the place in the source. -/
inductive MakerRelation where
  | relatedTo (other : ConstraintRelatableTarget) (relation : ConstraintRelation)
    (file : String) (line : Nat)
  | relatedToSuperview (relation : ConstraintRelation) (file : String) (line : Nat)

/-- The members of `ConstraintMakerEditable`, `-Priortizable` and `-Finalizable`. A division
by zero, which gives an infinite multiplier, is left out. -/
inductive MakerEdit where
  | multipliedBy (amount : Rat)
  | dividedBy (amount : { amount : Rat // amount ≠ 0 })
  | offset (amount : Rat)
  | inset (amount : ConstraintInsetTarget)
  | priority (amount : Rat)
  | labeled (label : String)

/-- One statement of a closure; a chain alone describes no constraint. -/
structure MakerStatement where
  chain : MakerChain
  relation : Option (MakerRelation × List MakerEdit)

namespace MakerStatement

def related (interface : Interface) (relation : MakerRelation)
    (description : ConstraintDescription) : Except ConstraintTrap ConstraintDescription :=
  match relation with
  | .relatedTo other relation file line => description.relatedTo other relation file line
  | .relatedToSuperview relation file line =>
    description.relatedToSuperview interface relation file line

def edited (description : ConstraintDescription) (edit : MakerEdit) : ConstraintDescription :=
  match edit with
  | .multipliedBy amount => { description with multiplier := amount }
  | .dividedBy amount => { description with multiplier := 1 / amount.1 }
  | .offset amount => { description with constant := .number amount }
  | .inset amount => { description with constant := .insets amount.constraintInsetTargetValue }
  | .priority amount => { description with priority := amount }
  | .labeled label => { description with label := some label }

/-- The description that a statement leaves in its maker. -/
def description (interface : Interface) (item : UIObject) (statement : MakerStatement) :
    Except ConstraintTrap ConstraintDescription :=
  let chained := ConstraintDescription.new item statement.chain.attributes
  match statement.relation with
  | none => .ok chained
  | some (relation, edits) =>
    match related interface relation chained with
    | .error trap => .error trap
    | .ok description => .ok (edits.foldl edited description)

def constraint (interface : Interface) (item : UIObject) (statement : MakerStatement) :
    Except ConstraintTrap (Option Constraint) :=
  match statement.description interface item with
  | .error trap => .error trap
  | .ok description => description.constraint interface

end MakerStatement

section Compiled

variable {interface : Interface}

/-- The cases that the two inner `switch`es leave to `fatalError` do not occur. -/
theorem Constraint.layoutToAttribute_ok {fromItem : ConstraintItem} (toItem : ConstraintItem)
    {layoutFromAttribute : LayoutAttribute}
    (there : layoutFromAttribute ∈ fromItem.attributes.layoutAttributes) :
    ∃ second, layoutToAttribute fromItem toItem layoutFromAttribute = .ok second := by
  unfold layoutToAttribute
  split
  · split_ifs with edges margins same
    · rw [edges.1, show ConstraintAttributes.edges.layoutAttributes =
        [.left, .top, .right, .bottom] from by decide] at there
      fin_cases there <;> exact ⟨_, rfl⟩
    · rw [margins.1, show ConstraintAttributes.margins.layoutAttributes =
        [.leftMargin, .rightMargin, .topMargin, .bottomMargin] from by decide] at there
      fin_cases there <;> exact ⟨_, rfl⟩
    · exact ⟨_, rfl⟩
    · exact ⟨_, rfl⟩
  · split_ifs
    all_goals exact ⟨_, rfl⟩

/-- What `init` makes of one attribute of its first item. -/
theorem Constraint.layoutConstraint_ok {constraint : Constraint} {layoutFrom : UIObject}
    {layoutFromAttribute : LayoutAttribute} {made : LayoutConstraint}
    (h : layoutConstraint interface constraint layoutFrom layoutFromAttribute = .ok made) :
    ∃ second,
      layoutToAttribute constraint.fromItem constraint.toItem layoutFromAttribute = .ok second ∧
      made =
        { firstItem := layoutFrom
          firstAttribute := layoutFromAttribute
          relation := constraint.relation
          secondItem := layoutTo interface layoutFrom constraint.toItem second
          secondAttribute := interface.secondAttribute
            (layoutTo interface layoutFrom constraint.toItem second) second
          multiplier := constraint.multiplier
          constant := constraint.constant.constraintConstantTargetValueFor
            interface.interfaceLayoutDirection second
          priority := constraint.priority
          label := constraint.label
          isActive := false } := by
  unfold layoutConstraint at h
  split at h
  · cases h
  · rename_i second partner
    exact ⟨second, partner, (Except.ok.inj h).symm⟩

/-- `init` makes one layout constraint for each attribute of its first item, in their order. -/
theorem Constraint.initialized_ok {constraint made : Constraint}
    (h : initialized interface constraint = .ok made) :
    ∃ layoutFrom layoutConstraints,
      constraint.fromItem.layoutConstraintItem = some layoutFrom ∧
      List.Forall₂ (fun first layoutConstraint =>
          Constraint.layoutConstraint interface constraint layoutFrom first =
            .ok layoutConstraint)
        constraint.fromItem.attributes.layoutAttributes layoutConstraints ∧
      made = { constraint with layoutConstraints := layoutConstraints } := by
  unfold initialized at h
  split at h
  · cases h
  · rename_i layoutFrom isItem
    split at h
    · cases h
    · rename_i layoutConstraints mapped
      exact ⟨layoutFrom, layoutConstraints, isItem, mapM_ok_iff_forall₂.mp mapped,
        (Except.ok.inj h).symm⟩

/-- `init` fails only for a first item that no layout constraint can have. -/
theorem Constraint.exists_initialized {constraint : Constraint} {layoutFrom : UIObject}
    (isItem : constraint.fromItem.layoutConstraintItem = some layoutFrom) :
    ∃ made, initialized interface constraint = .ok made := by
  have each : ∀ first ∈ constraint.fromItem.attributes.layoutAttributes,
      ∃ made, Constraint.layoutConstraint interface constraint layoutFrom first = .ok made := by
    intro first there
    obtain ⟨second, partner⟩ := layoutToAttribute_ok constraint.toItem there
    unfold Constraint.layoutConstraint
    rw [partner]
    exact ⟨_, rfl⟩
  obtain ⟨layoutConstraints, mapped⟩ := exists_mapM_ok each
  unfold initialized
  rw [isItem]
  simp only [mapped]
  exact ⟨_, rfl⟩

/-- The first attributes of an initialized constraint are the attributes of its first item. -/
theorem Constraint.firstAttributes_initialized {constraint made : Constraint}
    (h : initialized interface constraint = .ok made) :
    made.layoutConstraints.map LayoutConstraint.firstAttribute =
      constraint.fromItem.attributes.layoutAttributes := by
  obtain ⟨layoutFrom, layoutConstraints, -, each, rfl⟩ := initialized_ok h
  clear h
  dsimp only
  generalize constraint.fromItem.attributes.layoutAttributes = attributes at each
  induction each with
  | nil => rfl
  | cons one rest ih =>
    obtain ⟨second, -, rfl⟩ := layoutConstraint_ok one
    exact congrArg (List.cons _) ih

theorem Constraint.layoutToAttribute_ne {fromItem toItem : ConstraintItem}
    {first second : LayoutAttribute} (there : first ∈ fromItem.attributes.layoutAttributes)
    (h : layoutToAttribute fromItem toItem first = .ok second) : second ≠ .notAnAttribute := by
  have isFirst : first ≠ .notAnAttribute := by
    rintro rfl
    exact ConstraintAttributes.notAnAttribute_not_mem _ there
  unfold layoutToAttribute at h
  split at h
  · rename_i other others attributes
    have isOther : other ≠ .notAnAttribute := by
      rintro rfl
      exact ConstraintAttributes.notAnAttribute_not_mem toItem.attributes
        (attributes ▸ List.mem_cons_self)
    split_ifs at h
    · cases first <;> cases h <;> decide
    · cases first <;> cases h <;> decide
    · exact Except.ok.inj h ▸ isFirst
    · exact Except.ok.inj h ▸ isOther
  · split_ifs at h
    · cases h
      decide
    · cases h
      decide
    · exact Except.ok.inj h ▸ isFirst

/-- With no second item a constant has the same part for both attributes. -/
theorem Constraint.layoutToAttribute_alone {fromItem toItem : ConstraintItem}
    {first second : LayoutAttribute} (alone : toItem.attributes = .none)
    (h : layoutToAttribute fromItem toItem first = .ok second) (direction : LayoutDirection)
    (constant : ConstraintConstantTarget) :
    constant.constraintConstantTargetValueFor direction first =
      constant.constraintConstantTargetValueFor direction second := by
  unfold layoutToAttribute at h
  rw [alone, show ConstraintAttributes.none.layoutAttributes = [] from by decide] at h
  dsimp only at h
  split_ifs at h with center centerX
  · cases h
    cases centerX
    cases constant <;> rfl
  · cases h
    cases center.2.resolve_left centerX
    cases constant <;> rfl
  · cases h
    rfl

/-- The attribute that an update asks for gives the constant that `init` gave. -/
theorem Constraint.updateLayoutAttribute_constant {constraint : Constraint}
    {layoutFrom : UIObject} {first : LayoutAttribute} {made : LayoutConstraint}
    (targeted : constraint.toItem.target = none → constraint.toItem.attributes = .none)
    (there : first ∈ constraint.fromItem.attributes.layoutAttributes)
    (h : layoutConstraint interface constraint layoutFrom first = .ok made)
    (constant : ConstraintConstantTarget) (second : LayoutAttribute)
    (partner : layoutToAttribute constraint.fromItem constraint.toItem first = .ok second)
    (direction : LayoutDirection) :
    constant.constraintConstantTargetValueFor direction made.updateLayoutAttribute =
      constant.constraintConstantTargetValueFor direction second := by
  obtain ⟨second', partner', rfl⟩ := layoutConstraint_ok h
  cases Except.ok.inj (partner.symm.trans partner')
  have real := layoutToAttribute_ne there partner
  unfold LayoutConstraint.updateLayoutAttribute
  dsimp only
  cases isTo : layoutTo interface layoutFrom constraint.toItem second with
  | some object => rw [interface.secondAttribute_some, if_neg real]
  | none =>
    rcases interface.secondAttribute_none second with given | dropped
    · rw [given, if_neg real]
    · rw [dropped, if_pos rfl]
      apply layoutToAttribute_alone (targeted ?_) partner
      unfold layoutTo at isTo
      cases isTarget : constraint.toItem.target with
      | none => rfl
      | some target =>
        rw [isTarget] at isTo
        cases isTo

end Compiled

end FinanciaApp.Source
