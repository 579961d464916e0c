import Mathlib

/-!
# The first element with the least key

* `keepLess`: the step of a loop that keeps the best element so far. From a start value the loop
  ends with an element below the start that is least, or with the start where there is none.
* `head?_mergeSort_le`: the first element of a list sorted by a key is least.
-/

set_option autoImplicit false

namespace FinanciaApp.Library

universe u v

variable {α : Type u} {κ : Type v} [LinearOrder κ] (key : α → κ)

/-- The best of two elements, the first one where their keys are equal. -/
def keepLess (best x : α) : α := if key x < key best then x else best

theorem keepLess_le (best x : α) :
    key (keepLess key best x) ≤ key best ∧ key (keepLess key best x) ≤ key x := by
  unfold keepLess
  split
  · rename_i less
    exact ⟨less.le, le_refl _⟩
  · rename_i less
    exact ⟨le_refl _, not_lt.mp less⟩

theorem foldl_keepLess_le_start (start : α) (xs : List α) :
    key (xs.foldl (keepLess key) start) ≤ key start := by
  induction xs generalizing start with
  | nil => exact le_refl _
  | cons x xs ih => exact (ih (keepLess key start x)).trans (keepLess_le key start x).1

theorem foldl_keepLess_le (start : α) (xs : List α) {x : α} (member : x ∈ xs) :
    key (xs.foldl (keepLess key) start) ≤ key x := by
  induction xs generalizing start with
  | nil => cases member
  | cons y ys ih =>
    cases List.mem_cons.mp member with
    | inl first =>
      subst first
      exact (foldl_keepLess_le_start key _ ys).trans (keepLess_le key start x).2
    | inr later => exact ih _ later

/-- The loop ends with an element below the start, or with the start. -/
theorem foldl_keepLess_cases (start : α) (xs : List α) :
    (xs.foldl (keepLess key) start ∈ xs ∧ key (xs.foldl (keepLess key) start) < key start) ∨
      xs.foldl (keepLess key) start = start := by
  induction xs generalizing start with
  | nil => exact .inr rfl
  | cons x xs ih =>
    rw [List.foldl_cons]
    by_cases less : key x < key start
    · have kept : keepLess key start x = x := if_pos less
      rw [kept]
      cases ih x with
      | inl found => exact .inl ⟨List.mem_cons_of_mem _ found.1, found.2.trans less⟩
      | inr same =>
        rw [same]
        exact .inl ⟨List.mem_cons_self, less⟩
    · have kept : keepLess key start x = start := if_neg less
      rw [kept]
      exact (ih start).imp_left fun found => ⟨List.mem_cons_of_mem _ found.1, found.2⟩

variable {key}

/-- The first element of a list sorted by the key. -/
theorem head?_mergeSort_le {xs : List α} {first : α}
    (found : (xs.mergeSort fun x y => key x ≤ key y).head? = some first) :
    first ∈ xs ∧ ∀ x ∈ xs, key first ≤ key x := by
  have sorted : (xs.mergeSort fun x y => key x ≤ key y).Pairwise fun x y =>
      decide (key x ≤ key y) = true :=
    List.pairwise_mergeSort (fun x y z => by simpa using le_trans)
      (fun x y => by simpa using le_total (key x) (key y)) xs
  obtain ⟨rest, equal⟩ := List.head?_eq_some_iff.mp found
  rw [equal, List.pairwise_cons] at sorted
  have member (x : α) : x ∈ xs ↔ x ∈ first :: rest := by
    rw [← equal]
    exact List.mem_mergeSort.symm
  refine ⟨(member first).mpr List.mem_cons_self, fun x inside => ?_⟩
  cases List.mem_cons.mp ((member x).mp inside) with
  | inl same => exact same ▸ le_refl _
  | inr later => exact of_decide_eq_true (sorted.1 x later)

end FinanciaApp.Library
