import Mathlib.Data.List.Induction
import Mathlib.Order.Lattice

/-!
# Edit distance

`editDistance xs ys` is the least number of insertions, deletions and substitutions of one
element that turn `xs` into `ys`, by the usual recursion on the first elements. A dynamic
program walks over prefixes and needs the same recursion on the last elements
(`editDistance_concat`), and that equal last elements cost nothing
(`editDistance_concat_self`), which is where the minimum is not needed.
-/

set_option autoImplicit false

namespace FinanciaApp.Library

universe u

variable {α : Type u} [DecidableEq α]

/-- Insertions, deletions and substitutions cost 1. -/
def editDistance : List α → List α → Nat
  | [], ys => ys.length
  | x :: xs, [] => (x :: xs).length
  | x :: xs, y :: ys =>
    min (min (editDistance xs (y :: ys) + 1) (editDistance (x :: xs) ys + 1))
      (editDistance xs ys + if x = y then 0 else 1)
termination_by xs ys => xs.length + ys.length

@[simp] theorem editDistance_nil_left (ys : List α) : editDistance [] ys = ys.length := by
  rw [editDistance]

@[simp] theorem editDistance_nil_right (xs : List α) : editDistance xs [] = xs.length := by
  cases xs <;> rw [editDistance]

theorem editDistance_cons_cons (x y : α) (xs ys : List α) :
    editDistance (x :: xs) (y :: ys) =
      min (min (editDistance xs (y :: ys) + 1) (editDistance (x :: xs) ys + 1))
        (editDistance xs ys + if x = y then 0 else 1) := by
  rw [editDistance]

theorem editDistance_comm (xs ys : List α) : editDistance xs ys = editDistance ys xs := by
  induction xs, ys using editDistance.induct with
  | case1 ys => rw [editDistance_nil_left, editDistance_nil_right]
  | case2 x xs => rw [editDistance_nil_left, editDistance_nil_right]
  | case3 x xs y ys deleted inserted substituted =>
    rw [editDistance_cons_cons, editDistance_cons_cons, deleted, inserted, substituted,
      min_comm (editDistance (y :: ys) xs + 1)]
    simp only [eq_comm]

/-- Nine ways to spend one operation at each end, sorted by either end first. -/
theorem min_of_both_ends (dd di ds id ii is sd si ss first last : Nat) :
    min (min (min (min (dd + 1) (di + 1)) (ds + last) + 1)
          (min (min (id + 1) (ii + 1)) (is + last) + 1))
        (min (min (sd + 1) (si + 1)) (ss + last) + first) =
      min (min (min (min (dd + 1) (id + 1)) (sd + first) + 1)
            (min (min (di + 1) (ii + 1)) (si + first) + 1))
          (min (min (ds + 1) (is + 1)) (ss + first) + last) := by
  simp only [← Nat.add_min_add_right, Nat.add_right_comm _ 1 first, Nat.add_right_comm _ 1 last,
    Nat.add_right_comm _ last first]
  ac_rfl

/-- The recursion on the last elements, for a single one. -/
theorem editDistance_singleton_concat (x : α) (ys : List α) (y : α) :
    editDistance [x] (ys ++ [y]) =
      min (min (ys.length + 1 + 1) (editDistance [x] ys + 1))
        (ys.length + if x = y then 0 else 1) := by
  induction ys with
  | nil => simp [editDistance_cons_cons]
  | cons b ys ih =>
    rw [List.cons_append, editDistance_cons_cons, editDistance_cons_cons, ih]
    simp only [editDistance_nil_left, List.length_cons, List.length_append, List.length_nil]
    omega

/-- The recursion on the last elements. -/
theorem editDistance_concat (xs ys : List α) (x y : α) :
    editDistance (xs ++ [x]) (ys ++ [y]) =
      min (min (editDistance xs (ys ++ [y]) + 1) (editDistance (xs ++ [x]) ys + 1))
        (editDistance xs ys + if x = y then 0 else 1) := by
  induction xs, ys using editDistance.induct with
  | case1 ys =>
    rw [List.nil_append, editDistance_singleton_concat]
    simp only [editDistance_nil_left, List.length_append, List.length_singleton]
  | case2 a xs =>
    -- the same with the arguments the other way round
    rw [List.nil_append, editDistance_comm, editDistance_singleton_concat,
      min_comm (_ + 1 + 1), editDistance_comm [y]]
    simp only [editDistance_nil_right, List.length_append, List.length_singleton, eq_comm]
  | case3 a xs b ys deleted inserted substituted =>
    simp only [List.cons_append] at deleted inserted substituted ⊢
    rw [editDistance_cons_cons, deleted, inserted, substituted]
    simp only [editDistance_cons_cons a b]
    exact min_of_both_ends _ _ _ _ _ _ _ _ _ _ _

/-- One more element costs at most one operation. -/
theorem editDistance_concat_le (xs ys : List α) (x : α) :
    editDistance (xs ++ [x]) ys ≤ editDistance xs ys + 1 := by
  induction ys using List.reverseRecOn with
  | nil => simp
  | append_singleton ys y =>
    rw [editDistance_concat]
    omega

/-- One element less costs at most one operation. -/
theorem editDistance_le_concat (xs ys : List α) (y : α) :
    editDistance xs ys ≤ editDistance xs (ys ++ [y]) + 1 := by
  induction xs using List.reverseRecOn with
  | nil =>
    simp only [editDistance_nil_left, List.length_append]
    omega
  | append_singleton xs x ih =>
    have added := editDistance_concat_le xs ys x
    rw [editDistance_concat]
    omega

/-- Equal last elements cost nothing, whatever else could be done with them. -/
theorem editDistance_concat_self (xs ys : List α) (x : α) :
    editDistance (xs ++ [x]) (ys ++ [x]) = editDistance xs ys := by
  have deleted := editDistance_le_concat xs ys x
  have inserted := editDistance_le_concat ys xs x
  rw [editDistance_comm ys xs, editDistance_comm ys] at inserted
  rw [editDistance_concat, if_pos rfl]
  omega

/-- Substituting as far as both reach and handling the rest is one way to do it. -/
theorem editDistance_le_max (xs ys : List α) :
    editDistance xs ys ≤ max xs.length ys.length := by
  induction xs, ys using editDistance.induct with
  | case1 ys => simp
  | case2 x xs => simp
  | case3 x xs y ys deleted inserted substituted =>
    rw [editDistance_cons_cons, List.length_cons, List.length_cons]
    split <;> omega

/-- Only equal lists cost nothing. -/
theorem editDistance_eq_zero_iff (xs ys : List α) : editDistance xs ys = 0 ↔ xs = ys := by
  induction xs, ys using editDistance.induct with
  | case1 ys => simp [eq_comm]
  | case2 x xs => simp
  | case3 x xs y ys deleted inserted substituted =>
    rw [editDistance_cons_cons, List.cons.injEq, ← substituted]
    split
    · rename_i same
      simp [same]
    · rename_i different
      simp [different]

end FinanciaApp.Library
