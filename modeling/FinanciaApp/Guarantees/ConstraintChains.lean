import FinanciaApp.Source.Constraint

/-!
# What a chain of attributes compiles to

`Core/ThirdParty/SnapKit/ConstraintMakerExtendable.swift` joins the attributes of a chain into
one word, and `Constraint.init` reads them off again. The order of a chain and what it says
twice are lost on the way: a statement compiles to one layout constraint for each attribute
that its chain mentions, alone or in an aggregate. `relatedTo` alone refuses statements.
-/

set_option autoImplicit false

namespace FinanciaApp.Guarantees

open Library Source

section Chains

variable (interface : Interface) (item : UIObject)

/-- `relatedTo` refuses an item with several attributes, unless the chain mentions the same
ones or the two are the edges and the margins; there is no superview to relate to. -/
def Refused (attributes : ConstraintAttributes) : MakerRelation → Prop
  | .relatedTo (.item _ other) _ _ _ =>
    2 ≤ other.layoutAttributes.length ∧ other.layoutAttributes ≠ attributes.layoutAttributes ∧
      ¬(other = .edges ∧ attributes = .margins) ∧ ¬(other = .margins ∧ attributes = .edges)
  | .relatedTo (.view _) _ _ _ => False
  | .relatedTo (.constant _) _ _ _ => False
  | .relatedTo (.layoutGuide _) _ _ _ => False
  | .relatedToSuperview _ _ _ => interface.superview item = none

theorem relatable_eq_false_iff (attributes other : ConstraintAttributes) :
    ConstraintDescription.relatable attributes other = false ↔
      2 ≤ other.layoutAttributes.length ∧ other.layoutAttributes ≠ attributes.layoutAttributes ∧
        ¬(other = .edges ∧ attributes = .margins) ∧
        ¬(other = .margins ∧ attributes = .edges) := by
  have none_short : 2 ≤ other.layoutAttributes.length → other ≠ .none := by
    rintro several rfl
    revert several
    decide
  simp only [ConstraintDescription.relatable, Bool.or_eq_false_iff, Bool.and_eq_false_iff,
    decide_eq_false_iff_not, not_le, not_and_or, Nat.lt_iff_add_one_le, Nat.reduceAdd]
  constructor
  · rintro ⟨⟨⟨⟨-, several⟩, other⟩, edges⟩, margins⟩
    exact ⟨several, other, edges, margins⟩
  · rintro ⟨several, other, edges, margins⟩
    exact ⟨⟨⟨⟨none_short several, several⟩, other⟩, edges⟩, margins⟩

/-- The description after `relatedTo` keeps its item and its attributes and has what its
constraint asks for. -/
def Related (described related : ConstraintDescription) : Prop :=
  related.item = described.item ∧ related.attributes = described.attributes ∧
    related.relation.isSome = true ∧ related.related.isSome = true ∧
    related.sourceLocation.isSome = true

theorem relatedTo_spec (other : ConstraintRelatableTarget) (relation : ConstraintRelation)
    (file : String) (line : Nat) (described : ConstraintDescription) :
    (Refused interface described.item described.attributes (.relatedTo other relation file line) ∧
        ∃ trap, described.relatedTo other relation file line = .error trap) ∨
      (¬Refused interface described.item described.attributes
          (.relatedTo other relation file line) ∧
        ∃ related, described.relatedTo other relation file line = .ok related ∧
          Related described related) := by
  cases other with
  | item target other =>
    unfold ConstraintDescription.relatedTo
    cases fits : ConstraintDescription.relatable described.attributes other with
    | false => exact .inl ⟨(relatable_eq_false_iff _ _).mp fits, _, if_neg (by simp [fits])⟩
    | true =>
      refine .inr ⟨fun refused => ?_, _, if_pos fits, rfl, rfl, rfl, rfl, rfl⟩
      rw [(relatable_eq_false_iff _ _).mpr refused] at fits
      cases fits
  | view view => exact .inr ⟨id, _, rfl, rfl, rfl, rfl, rfl, rfl⟩
  | constant constant => exact .inr ⟨id, _, rfl, rfl, rfl, rfl, rfl, rfl⟩
  | layoutGuide guide => exact .inr ⟨id, _, rfl, rfl, rfl, rfl, rfl, rfl⟩

theorem related_spec (relation : MakerRelation) (described : ConstraintDescription) :
    (Refused interface described.item described.attributes relation ∧
        ∃ trap, MakerStatement.related interface relation described = .error trap) ∨
      (¬Refused interface described.item described.attributes relation ∧
        ∃ related, MakerStatement.related interface relation described = .ok related ∧
          Related described related) := by
  cases relation with
  | relatedTo other relation file line =>
    exact relatedTo_spec interface other relation file line described
  | relatedToSuperview relation file line =>
    unfold MakerStatement.related ConstraintDescription.relatedToSuperview Refused
    cases interface.superview described.item with
    | none => exact .inl ⟨rfl, _, rfl⟩
    | some superview => exact .inr ⟨nofun, _, rfl, rfl, rfl, rfl, rfl, rfl⟩

theorem edited_related {described related : ConstraintDescription}
    (h : Related described related) (edits : List MakerEdit) :
    Related described (edits.foldl MakerStatement.edited related) := by
  induction edits generalizing related with
  | nil => exact h
  | cons edit edits ih =>
    apply ih
    cases edit <;> exact h

/-- A related description of an item that layout constraints can have gives a constraint. -/
theorem constraint_of_related {described related : ConstraintDescription}
    (h : Related described related) (isItem : described.item.isLayoutConstraintItem = true) :
    ∃ made, related.constraint interface = .ok (some made) ∧
      made.layoutConstraints.map LayoutConstraint.firstAttribute =
        described.attributes.layoutAttributes := by
  obtain ⟨sameItem, sameAttributes, hasRelation, hasRelated, hasLocation⟩ := h
  obtain ⟨relation, hRelation⟩ := Option.isSome_iff_exists.mp hasRelation
  obtain ⟨other, hRelated⟩ := Option.isSome_iff_exists.mp hasRelated
  obtain ⟨location, hLocation⟩ := Option.isSome_iff_exists.mp hasLocation
  unfold ConstraintDescription.constraint
  simp only [hRelation, hRelated, hLocation]
  have first : ({ target := some related.item, attributes := related.attributes } :
      ConstraintItem).layoutConstraintItem = some described.item := by
    rw [sameItem]
    exact Option.filter_some_pos isItem
  obtain ⟨made, initialized⟩ := @Constraint.exists_initialized interface
    { fromItem := ⟨some related.item, related.attributes⟩
      toItem := other
      relation := relation
      sourceLocation := location
      label := related.label
      multiplier := related.multiplier
      constant := related.constant
      priority := related.priority
      layoutConstraints := [] } _ first
  refine ⟨made, by rw [initialized]; rfl, ?_⟩
  rw [Constraint.firstAttributes_initialized initialized, sameAttributes]

/-- The statement of a chain, what it is related to, and the edits. -/
theorem constraint_spec (isItem : item.isLayoutConstraintItem = true) (chain : MakerChain)
    (relation : MakerRelation) (edits : List MakerEdit) :
    (Refused interface item chain.attributes relation ∧
        ∃ trap, (MakerStatement.mk chain (some (relation, edits))).constraint interface item =
          .error trap) ∨
      (¬Refused interface item chain.attributes relation ∧
        ∃ made, (MakerStatement.mk chain (some (relation, edits))).constraint interface item =
            .ok (some made) ∧
          made.layoutConstraints.map LayoutConstraint.firstAttribute =
            chain.attributes.layoutAttributes) := by
  unfold MakerStatement.constraint MakerStatement.description
  rcases related_spec interface relation (.new item chain.attributes) with
    ⟨refused, trap, failed⟩ | ⟨fits, related, succeeded, keeps⟩
  · exact .inl ⟨refused, trap, by simp only [failed]⟩
  · obtain ⟨made, isMade, firsts⟩ :=
      constraint_of_related interface (edited_related keeps edits) isItem
    exact .inr ⟨fits, made, by simp only [succeeded, isMade], firsts⟩

/-- A statement traps exactly when `relatedTo` refuses it; otherwise its constraint has one
layout constraint for each attribute that its chain mentions. Statements that differ in their
chains alone compile to the same exactly when the chains mention the same attributes, whatever
their order, their repetitions and their aggregates. -/
theorem constraint_of_chain (isItem : item.isLayoutConstraintItem = true) (chain : MakerChain)
    (relation : MakerRelation) (edits : List MakerEdit) :
    ((∃ trap, (MakerStatement.mk chain (some (relation, edits))).constraint interface item =
        .error trap) ↔ Refused interface item chain.attributes relation) ∧
      (∀ made, (MakerStatement.mk chain (some (relation, edits))).constraint interface item =
          .ok (some made) →
        (made.layoutConstraints.map LayoutConstraint.firstAttribute).Nodup ∧
          ∀ layoutAttribute,
            layoutAttribute ∈ made.layoutConstraints.map LayoutConstraint.firstAttribute ↔
              chain.Mentions layoutAttribute) ∧
      (¬Refused interface item chain.attributes relation → ∀ other : MakerChain,
        (MakerStatement.mk chain (some (relation, edits))).constraint interface item =
            (MakerStatement.mk other (some (relation, edits))).constraint interface item ↔
          ∀ layoutAttribute, chain.Mentions layoutAttribute ↔ other.Mentions layoutAttribute) := by
  have compiled (chain : MakerChain) (made : Constraint)
      (isMade : (MakerStatement.mk chain (some (relation, edits))).constraint interface item =
        .ok (some made)) :
      made.layoutConstraints.map LayoutConstraint.firstAttribute =
        chain.attributes.layoutAttributes := by
    rcases constraint_spec interface item isItem chain relation edits with
      ⟨-, trap, failed⟩ | ⟨-, made', isMade', firsts⟩
    · rw [failed] at isMade
      cases isMade
    · rw [isMade'] at isMade
      rw [← firsts, Option.some.inj (Except.ok.inj isMade)]
  refine ⟨?_, fun made isMade => ⟨?_, fun layoutAttribute => ?_⟩, fun fits other =>
    ⟨fun same layoutAttribute => ?_, fun same => ?_⟩⟩
  · rcases constraint_spec interface item isItem chain relation edits with
      ⟨refused, trap, failed⟩ | ⟨fits, made, isMade, -⟩
    · exact iff_of_true ⟨trap, failed⟩ refused
    · rw [isMade]
      exact iff_of_false nofun fits
  · rw [compiled chain made isMade]
    exact ConstraintAttributes.layoutAttributes_nodup chain.attributes
  · rw [compiled chain made isMade, chain.mem_layoutAttributes]
  · rcases constraint_spec interface item isItem chain relation edits with
      ⟨refused, -⟩ | ⟨-, made, isMade, -⟩
    · exact absurd refused fits
    · rw [← chain.mem_layoutAttributes, ← other.mem_layoutAttributes,
        ← compiled chain made isMade, compiled other made (same ▸ isMade)]
  · unfold MakerStatement.constraint MakerStatement.description
    rw [(chain.attributes_eq_iff other).mpr same]

/-- Edges named one by one and as an aggregate, of a view in its superview. -/
theorem constraint_of_chain_edges :
    (MakerStatement.mk ⟨.bottom, [⟨.left, by decide⟩, ⟨.edges, by decide⟩]⟩
        (some (.relatedTo (.view ⟨.view, 1⟩) .equal "" 0, []))).constraint
          (.plain fun _ => none) ⟨.view, 0⟩ =
      (MakerStatement.mk ⟨.edges, []⟩
        (some (.relatedTo (.view ⟨.view, 1⟩) .equal "" 0, []))).constraint
          (.plain fun _ => none) ⟨.view, 0⟩ :=
  ((constraint_of_chain (.plain fun _ => none) ⟨.view, 0⟩ rfl
    ⟨.bottom, [⟨.left, by decide⟩, ⟨.edges, by decide⟩]⟩
    (.relatedTo (.view ⟨.view, 1⟩) .equal "" 0) []).2.2 id ⟨.edges, []⟩).mpr (by
      intro layoutAttribute
      cases layoutAttribute <;> decide)

end Chains

end FinanciaApp.Guarantees
