import Mathlib

/-!
# Elements of several units

The elements of a list are stored one after the other, each in some units. `unitOffset` is where
an element begins. It is the index of the element exactly behind elements of one unit.
-/

set_option autoImplicit false

namespace FinanciaApp.Library

def unitOffset (counts : List Nat) (index : Nat) : Nat := (counts.take index).sum

section Positive

variable {counts : List Nat} (positive : ∀ count ∈ counts, 0 < count)

include positive

theorem sum_eq_length_iff : counts.sum = counts.length ↔ ∀ count ∈ counts, count = 1 := by
  induction counts with
  | nil => exact iff_of_true rfl nofun
  | cons count counts ih =>
    have first := positive count List.mem_cons_self
    have others : ∀ other ∈ counts, 0 < other := fun other member =>
      positive other (List.mem_cons_of_mem _ member)
    have least := List.length_le_sum_of_one_le counts others
    rw [List.forall_mem_cons, ← ih others, List.sum_cons, List.length_cons]
    omega

theorem unitOffset_eq_iff {index : Nat} (inside : index ≤ counts.length) :
    unitOffset counts index = index ↔ ∀ count ∈ counts.take index, count = 1 := by
  have length : (counts.take index).length = index := List.length_take_of_le inside
  have before : ∀ count ∈ counts.take index, 0 < count := fun count member =>
    positive count (List.mem_of_mem_take member)
  rw [unitOffset, ← sum_eq_length_iff before, length]

theorem unitOffset_lt_sum {index : Nat} (inside : index < counts.length) :
    unitOffset counts index < counts.sum := by
  have split := List.sum_take_add_sum_drop counts index
  have rest : counts.drop index = counts[index] :: counts.drop (index + 1) :=
    List.drop_eq_getElem_cons inside
  have own := positive counts[index] (List.getElem_mem inside)
  rw [rest, List.sum_cons] at split
  rw [unitOffset]
  omega

end Positive

end FinanciaApp.Library
