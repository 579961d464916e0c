import Mathlib.Data.List.Induction

/-!
# Numbered logs

A log whose entries carry numbers (`number x = none` for entries that carry none)
is numbered `1, 2, 3, …` exactly when every number is one more than the count of
numbers before it. The local form is the one that an invariant over a run gives.
-/

set_option autoImplicit false

namespace FinanciaApp.Library

universe u

variable {α : Type u} (number : α → Option Nat)

/-- The numbers of a log, in order. -/
def numbers (xs : List α) : List Nat := xs.filterMap number

/-- The numbers of a log are `1, 2, …, k`. -/
def NumberedFromOne (xs : List α) : Prop :=
  numbers number xs = List.range' 1 (numbers number xs).length

instance (xs : List α) : Decidable (NumberedFromOne number xs) :=
  inferInstanceAs (Decidable (_ = _))

theorem numbers_concat_none {x : α} (xs : List α) (hx : number x = none) :
    numbers number (xs ++ [x]) = numbers number xs := by
  simp [numbers, hx]

theorem numbers_concat_some {x : α} {n : Nat} (xs : List α) (hx : number x = some n) :
    numbers number (xs ++ [x]) = numbers number xs ++ [n] := by
  simp [numbers, hx]

theorem numberedFromOne_concat_none {x : α} (xs : List α) (hx : number x = none) :
    NumberedFromOne number (xs ++ [x]) ↔ NumberedFromOne number xs := by
  unfold NumberedFromOne
  rw [numbers_concat_none number xs hx]

theorem numberedFromOne_concat_some {x : α} {n : Nat} (xs : List α) (hx : number x = some n) :
    NumberedFromOne number (xs ++ [x]) ↔
      NumberedFromOne number xs ∧ n = (numbers number xs).length + 1 := by
  unfold NumberedFromOne
  rw [numbers_concat_some number xs hx, List.length_append, List.length_singleton,
    List.range'_1_concat, Nat.add_comm 1]
  constructor
  · intro h
    obtain ⟨hinit, hlast⟩ := List.append_inj' h rfl
    exact ⟨hinit, by simpa using hlast⟩
  · rintro ⟨hinit, rfl⟩
    rw [← hinit]

/-- The local form: every number is one more than the count of the numbers before it. -/
theorem numberedFromOne_iff (xs : List α) :
    NumberedFromOne number xs ↔
      ∀ i x n, xs[i]? = some x → number x = some n →
        n = (numbers number (xs.take i)).length + 1 := by
  induction xs using List.reverseRecOn with
  | nil => simp [NumberedFromOne, numbers]
  | append_singleton xs y ih =>
    have old : ∀ i, i < xs.length → (xs ++ [y])[i]? = xs[i]? ∧ (xs ++ [y]).take i = xs.take i :=
      fun i hi => ⟨List.getElem?_append_left hi, List.take_append_of_le_length (Nat.le_of_lt hi)⟩
    have last : (xs ++ [y])[xs.length]? = some y ∧ (xs ++ [y]).take xs.length = xs := by simp
    have split : (∀ i x n, (xs ++ [y])[i]? = some x → number x = some n →
          n = (numbers number ((xs ++ [y]).take i)).length + 1) ↔
        NumberedFromOne number xs ∧
          ∀ n, number y = some n → n = (numbers number xs).length + 1 := by
      rw [ih]
      constructor
      · intro h
        refine ⟨fun i x n hx hn => ?_, fun n hn => ?_⟩
        · obtain ⟨bound, -⟩ := List.getElem?_eq_some_iff.mp hx
          have := h i x n ((old i bound).1.trans hx) hn
          rwa [(old i bound).2] at this
        · have := h xs.length y n last.1 hn
          rwa [last.2] at this
      · rintro ⟨before, atLast⟩ i x n hx hn
        obtain ⟨bound, -⟩ := List.getElem?_eq_some_iff.mp hx
        rw [List.length_append, List.length_singleton] at bound
        rcases Nat.lt_succ_iff_lt_or_eq.mp bound with hi | rfl
        · rw [(old i hi).2]
          exact before i x n ((old i hi).1.symm.trans hx) hn
        · rw [last.1, Option.some.injEq] at hx
          subst hx
          rw [last.2]
          exact atLast n hn
    rw [split]
    cases hy : number y with
    | none => simp [numberedFromOne_concat_none number xs hy]
    | some n => simp [numberedFromOne_concat_some number xs hy]

end FinanciaApp.Library
