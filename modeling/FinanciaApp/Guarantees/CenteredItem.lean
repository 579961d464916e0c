import Mathlib.Tactic.Linarith
import FinanciaApp.Library.LeastByKey
import FinanciaApp.Source.ATCCenteredCollectionViewFlowLayout

/-!
# The item that a list centres

The loop starts from the greatest magnitude. So it keeps that where there is no item, or none
nearer than that.
-/

set_option autoImplicit false

namespace FinanciaApp.Guarantees

open Library Source Source.ATCCenteredCollectionViewFlowLayout

/-- The distance of an item from the centre of the frame at an offset. -/
def distanceToCentre (width offset : ℚ) (centre : CGPoint ℚ) : ℚ :=
  |centre.x - (offset + width / 2)|

/-- The centre of the frame goes to a nearest item, and nowhere if there is no item. -/
def CentresNearest (width : ℚ) (centres : List (CGPoint ℚ)) (proposed result : CGPoint ℚ) : Prop :=
  (centres = [] → result = proposed) ∧
  (centres ≠ [] → result.y = proposed.y ∧ ∃ centre ∈ centres, result.x + width / 2 = centre.x ∧
    ∀ other ∈ centres,
      distanceToCentre width proposed.x centre ≤ distanceToCentre width proposed.x other)

theorem greatestFiniteMagnitude_pos : 0 < greatestFiniteMagnitude := by decide +kernel

/-- The loop keeps the adjustment of the least magnitude. -/
theorem foldl_closerAdjustment (horizontalCenter start : ℚ) (centres : List (CGPoint ℚ)) :
    centres.foldl (closerAdjustment horizontalCenter) start =
      (centres.map fun centre => centre.x - horizontalCenter).foldl (keepLess abs) start := by
  rw [List.foldl_map]
  rfl

/-- A start value that is not negative is passed over exactly for these lists. -/
theorem least_adjustment_iff {start : ℚ} (nonneg : 0 ≤ start) (adjustments : List ℚ) :
    (adjustments.foldl (keepLess abs) start ∈ adjustments ∧
        ∀ other ∈ adjustments, |adjustments.foldl (keepLess abs) start| ≤ |other|) ↔
      ∃ adjustment ∈ adjustments, |adjustment| < start ∨ adjustment = start := by
  have least (other : ℚ) (member : other ∈ adjustments) :
      |adjustments.foldl (keepLess abs) start| ≤ |other| :=
    foldl_keepLess_le abs start adjustments member
  have ends := foldl_keepLess_cases abs start adjustments
  rw [abs_of_nonneg nonneg] at ends
  constructor
  · intro ⟨member, _⟩
    exact ⟨_, member, ends.imp_left And.right⟩
  · intro ⟨adjustment, member, near⟩
    refine ⟨?_, least⟩
    cases ends with
    | inl found => exact found.1
    | inr same =>
      have far := least adjustment member
      rw [same, abs_of_nonneg nonneg] at far
      rw [same, ← near.resolve_left (not_lt.mpr far)]
      exact member

section Target

variable {frame : CGSize ℚ} {elements : CGRect → Option (List (CGPoint ℚ))}
  {proposed : CGPoint ℚ} {centres : List (CGPoint ℚ)}

/-- The rectangle at the proposed offset. -/
def targetRect (frame : CGSize ℚ) (proposed : CGPoint ℚ) : CGRect :=
  ⟨proposed.x, 0, frame.width, frame.height⟩

theorem targetContentOffset_eq (inTarget : elements (targetRect frame proposed) = some centres) :
    targetContentOffset (some frame) elements proposed =
      ⟨proposed.x + (centres.map fun centre => centre.x - (proposed.x + frame.width / 2)).foldl
        (keepLess abs) greatestFiniteMagnitude, proposed.y⟩ := by
  rw [targetRect] at inTarget
  rw [targetContentOffset]
  dsimp only
  rw [inTarget]
  dsimp only
  rw [foldl_closerAdjustment]

end Target

/-- An adjustment centres a nearest item exactly if it is one of the least adjustments. -/
theorem centresNearest_adjusted_iff {width adjustment : ℚ} {proposed : CGPoint ℚ}
    {centres : List (CGPoint ℚ)} (nonempty : centres ≠ []) :
    CentresNearest width centres proposed ⟨proposed.x + adjustment, proposed.y⟩ ↔
      (∃ centre ∈ centres, centre.x - (proposed.x + width / 2) = adjustment) ∧
        ∀ other ∈ centres, |adjustment| ≤ distanceToCentre width proposed.x other := by
  constructor
  · intro ⟨_, snaps⟩
    obtain ⟨-, centre, member, centred, nearest⟩ := snaps nonempty
    have offset : centre.x - (proposed.x + width / 2) = adjustment := by linarith
    exact ⟨⟨centre, member, offset⟩, fun other inside => offset ▸ nearest other inside⟩
  · intro ⟨⟨centre, member, offset⟩, nearest⟩
    refine ⟨fun empty => absurd empty nonempty, fun _ => ⟨rfl, centre, member, ?_, ?_⟩⟩
    · change proposed.x + adjustment + width / 2 = centre.x
      linarith
    · intro other inside
      rw [distanceToCentre, offset]
      exact nearest other inside

/-- The nearest item is centred exactly where one is nearer than the greatest magnitude, or to
the right by just that. -/
theorem centresNearest_iff (frame : CGSize ℚ) (elements : CGRect → Option (List (CGPoint ℚ)))
    (proposed : CGPoint ℚ) (centres : List (CGPoint ℚ))
    (inTarget : elements (targetRect frame proposed) = some centres) :
    CentresNearest frame.width centres proposed
        (targetContentOffset (some frame) elements proposed) ↔
      ∃ centre ∈ centres,
        distanceToCentre frame.width proposed.x centre < greatestFiniteMagnitude ∨
          centre.x = proposed.x + frame.width / 2 + greatestFiniteMagnitude := by
  rw [targetContentOffset_eq inTarget]
  have positive := greatestFiniteMagnitude_pos
  by_cases empty : centres = []
  · subst empty
    refine iff_of_false (fun snaps => ?_) (fun ⟨centre, member, _⟩ => List.not_mem_nil member)
    have moved : proposed.x + greatestFiniteMagnitude = proposed.x :=
      congrArg CGPoint.x (snaps.1 rfl)
    linarith
  · have adjusted := least_adjustment_iff positive.le
      (centres.map fun centre => centre.x - (proposed.x + frame.width / 2))
    simp only [List.mem_map, exists_exists_and_eq_and, forall_exists_index, and_imp,
      forall_apply_eq_imp_iff₂] at adjusted
    rw [centresNearest_adjusted_iff empty]
    refine adjusted.trans (exists_congr fun centre => and_congr_right fun _ => ?_)
    exact or_congr_right sub_eq_iff_eq_add'

theorem centresNearest_iff_single :
    (fun _ : CGRect => some [(⟨10, 0⟩ : CGPoint ℚ)]) (targetRect ⟨100, 100⟩ .zero) =
        some [⟨10, 0⟩] ∧
      (CentresNearest 100 [⟨10, 0⟩] .zero
          (targetContentOffset (some ⟨100, 100⟩) (fun _ => some [⟨10, 0⟩]) .zero) ↔
        ∃ centre ∈ [(⟨10, 0⟩ : CGPoint ℚ)],
          distanceToCentre 100 0 centre < greatestFiniteMagnitude ∨
            centre.x = 0 + 100 / 2 + greatestFiniteMagnitude) :=
  ⟨rfl, centresNearest_iff ⟨100, 100⟩ (fun _ => some [⟨10, 0⟩]) .zero [⟨10, 0⟩] rfl⟩

/-- Without an item the offset is the greatest magnitude. -/
theorem empty_list_scrolls_away :
    ¬(∀ frame elements proposed centres, elements (targetRect frame proposed) = some centres →
      CentresNearest frame.width centres proposed
        (targetContentOffset (some frame) elements proposed)) ∧
    targetContentOffset (some ⟨100, 100⟩) (fun _ => some []) .zero =
      ⟨greatestFiniteMagnitude, 0⟩ := by
  have away : targetContentOffset (some ⟨100, 100⟩) (fun _ => some []) .zero =
      ⟨greatestFiniteMagnitude, 0⟩ := by decide +kernel
  refine ⟨fun claimed => ?_, away⟩
  have stays := (claimed ⟨100, 100⟩ (fun _ => some []) .zero [] rfl).1 rfl
  rw [away] at stays
  exact absurd (congrArg CGPoint.x stays) greatestFiniteMagnitude_pos.ne'

end FinanciaApp.Guarantees
