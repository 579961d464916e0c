import FinanciaApp.Library.LeastByKey

/-!
# A scan for the least cost

The loop that keeps an element whenever it costs less than all before it, and less than a bound.
It finds an element of least cost, or nothing below the bound.
-/

set_option autoImplicit false

namespace FinanciaApp.Library

universe u v

section Scan

variable {α : Type u} {K : Type v} [LinearOrder K]

/-- One turn of the loop, on the least cost so far and the element that has it. -/
def leastStep (cost : α → K) (state : K × Option α) (a : α) : K × Option α :=
  keepLess Prod.fst state (cost a, some a)

theorem foldl_leastStep_eq (cost : α → K) (elements : List α) (state : K × Option α) :
    elements.foldl (leastStep cost) state =
      (elements.map fun a => (cost a, some a)).foldl (keepLess Prod.fst) state := by
  rw [List.foldl_map]
  rfl

/-- Either no element is below the bound, and the state does not change, or the state is that of
an element of least cost. -/
theorem foldl_leastStep (cost : α → K) (elements : List α) (state : K × Option α) :
    (elements.foldl (leastStep cost) state = state ∧ ∀ a ∈ elements, state.1 ≤ cost a) ∨
      ∃ a ∈ elements, elements.foldl (leastStep cost) state = (cost a, some a) ∧
        cost a < state.1 ∧ ∀ other ∈ elements, cost a ≤ cost other := by
  rw [foldl_leastStep_eq]
  have least (other : α) (there : other ∈ elements) :=
    foldl_keepLess_le Prod.fst state _ (List.mem_map_of_mem (f := fun a => (cost a, some a)) there)
  rcases foldl_keepLess_cases Prod.fst state (elements.map fun a => (cost a, some a)) with
    ⟨there, less⟩ | same
  · obtain ⟨a, inElements, isLeast⟩ := List.mem_map.mp there
    rw [← isLeast] at least less ⊢
    exact .inr ⟨a, inElements, rfl, less, least⟩
  · rw [same] at least ⊢
    exact .inl ⟨rfl, least⟩

end Scan

end FinanciaApp.Library
