import Mathlib.Algebra.Order.BigOperators.Group.List
import Mathlib.Algebra.Order.Monoid.Unbundled.Basic
import Mathlib.Data.List.Induction
import Mathlib.Order.Bounds.Basic

/-!
# Weights dealt to lanes in turn

The weight at position `i` of a list goes to lane `i % lanes` and starts where the weights
dealt to that lane before it end. Without negative weights a lane only grows: what comes
later in a lane starts no earlier than what came before ends, and nothing ends after the
total of its lane. The second part is about running maxima, in particular when a maximum
that starts from an old value is the one that starts afresh.
-/

set_option autoImplicit false

namespace FinanciaApp.Library

universe u

section Totals

variable {M : Type u} [AddCommMonoid M]

/-- The total of the weights dealt to one lane. -/
def laneTotal (lanes lane : Nat) (weights : List M) : M :=
  ((weights.zipIdx.filter fun entry => entry.2 % lanes = lane).map Prod.fst).sum

@[simp] theorem laneTotal_nil (lanes lane : Nat) : laneTotal lanes lane ([] : List M) = 0 := rfl

theorem laneTotal_concat (lanes lane : Nat) (weights : List M) (weight : M) :
    laneTotal lanes lane (weights ++ [weight]) =
      laneTotal lanes lane weights + if weights.length % lanes = lane then weight else 0 := by
  by_cases dealt : weights.length % lanes = lane
  · simp [laneTotal, List.zipIdx_append, dealt]
  · simp [laneTotal, List.zipIdx_append, dealt]

variable [PartialOrder M] [IsOrderedAddMonoid M]

theorem laneTotal_nonneg (lanes lane : Nat) {weights : List M}
    (nonneg : ∀ weight ∈ weights, 0 ≤ weight) : 0 ≤ laneTotal lanes lane weights := by
  refine List.sum_nonneg ?_
  intro weight dealt
  obtain ⟨entry, kept, rfl⟩ := List.mem_map.mp dealt
  exact nonneg _ (List.fst_mem_of_mem_zipIdx (List.mem_filter.mp kept).1)

/-- Lanes only grow. -/
theorem laneTotal_le_append (lanes lane : Nat) (weights : List M) {more : List M}
    (nonneg : ∀ weight ∈ more, 0 ≤ weight) :
    laneTotal lanes lane weights ≤ laneTotal lanes lane (weights ++ more) := by
  induction more using List.reverseRecOn with
  | nil => rw [List.append_nil]
  | append_singleton more weight ih =>
    have grown := ih fun w earlier => nonneg w (List.mem_append_left _ earlier)
    rw [← List.append_assoc, laneTotal_concat]
    split
    · exact le_add_of_le_of_nonneg grown (nonneg weight (by simp))
    · rwa [add_zero]

end Totals

section Maxima

variable {M : Type u} [LinearOrder M]

theorem le_foldl_max_iff (bound start : M) (values : List M) :
    bound ≤ values.foldl max start ↔ bound ≤ start ∨ ∃ value ∈ values, bound ≤ value := by
  induction values generalizing start with
  | nil => simp
  | cons value values ih =>
    rw [List.foldl_cons, ih, le_max_iff]
    simp [or_assoc]

theorem foldl_max_le_iff (bound start : M) (values : List M) :
    values.foldl max start ≤ bound ↔ start ≤ bound ∧ ∀ value ∈ values, value ≤ bound := by
  induction values generalizing start with
  | nil => simp
  | cons value values ih =>
    rw [List.foldl_cons, ih, max_le_iff]
    simp [and_assoc]

/-- A maximum over `values` that starts from an old value is the one that starts afresh
exactly when the old value is no larger than the fresh start or one of `values`. -/
theorem foldl_max_eq_iff {fresh old : M} (values : List M) (le : fresh ≤ old) :
    values.foldl max old = values.foldl max fresh ↔
      old ≤ fresh ∨ ∃ value ∈ values, old ≤ value := by
  rw [← le_foldl_max_iff]
  constructor
  · intro same
    rw [← same]
    exact (le_foldl_max_iff old old values).mpr (.inl le_rfl)
  · intro covered
    apply le_antisymm
    · refine (foldl_max_le_iff _ old values).mpr ⟨covered, fun value here => ?_⟩
      exact (le_foldl_max_iff value fresh values).mpr (.inr ⟨value, here, le_rfl⟩)
    · refine (foldl_max_le_iff _ fresh values).mpr ⟨?_, fun value here => ?_⟩
      · exact (le_foldl_max_iff fresh old values).mpr (.inl le)
      · exact (le_foldl_max_iff value old values).mpr (.inr ⟨value, here, le_rfl⟩)

end Maxima

end FinanciaApp.Library
