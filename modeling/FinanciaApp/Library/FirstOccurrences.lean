import Mathlib.Data.List.Basic
import Mathlib.Data.List.Nodup

/-!
# First occurrences by key

`keepFirst key xs` keeps, of each key, the first element of `xs` that has it.
`unseen key rows xs` is what a store that already holds `rows` has to append when
`xs` arrives. The two fit together (`keepFirst_append`): appending the unseen
part of every batch, batch after batch, computes `keepFirst` of all the batches.
-/

set_option autoImplicit false

namespace FinanciaApp.Library

universe u v

variable {α : Type u} {κ : Type v} [DecidableEq κ] (key : α → κ)

/-- Of each key, the first element that has it, in the order of the list. -/
def keepFirst : List α → List α
  | [] => []
  | x :: xs => x :: (keepFirst xs).filter fun y => key y ≠ key x

/-- The first occurrences in `xs` whose key no element of `rows` has. -/
def unseen (rows xs : List α) : List α :=
  (keepFirst key xs).filter fun x => key x ∉ rows.map key

@[simp] theorem unseen_nil (rows : List α) : unseen key rows [] = [] := rfl

theorem unseen_cons_of_mem {rows : List α} {x : α} (xs : List α) (h : key x ∈ rows.map key) :
    unseen key rows (x :: xs) = unseen key rows xs := by
  unfold unseen
  rw [keepFirst, List.filter_cons_of_neg (by simpa using h), List.filter_filter]
  apply List.filter_congr
  intro y _
  by_cases hy : key y = key x
  · simp [hy, h]
  · simp [hy]

theorem unseen_cons_of_not_mem {rows : List α} {x : α} (xs : List α)
    (h : key x ∉ rows.map key) :
    unseen key rows (x :: xs) = x :: unseen key (rows ++ [x]) xs := by
  unfold unseen
  rw [keepFirst, List.filter_cons_of_pos (by simpa using h), List.filter_filter]
  congr 1
  apply List.filter_congr
  intro y _
  by_cases hy : key y = key x
  · simp [hy]
  · simp [hy]

theorem keepFirst_append (xs ys : List α) :
    keepFirst key (xs ++ ys) = keepFirst key xs ++ unseen key (keepFirst key xs) ys := by
  induction xs with
  | nil => simp [keepFirst, unseen]
  | cons x xs ih =>
    have hrest : (unseen key (keepFirst key xs) ys).filter (fun y => key y ≠ key x) =
        unseen key (keepFirst key (x :: xs)) ys := by
      unfold unseen
      rw [List.filter_filter]
      apply List.filter_congr
      intro y _
      by_cases hy : key y = key x
      · simp [keepFirst, hy]
      · have hiff : (∃ a, (a ∈ keepFirst key xs ∧ ¬ key a = key x) ∧ key a = key y) ↔
            ∃ a ∈ keepFirst key xs, key a = key y := by
          constructor
          · rintro ⟨a, ⟨ha, -⟩, hay⟩
            exact ⟨a, ha, hay⟩
          · rintro ⟨a, ha, hay⟩
            exact ⟨a, ⟨ha, fun hax => hy (hay.symm.trans hax)⟩, hay⟩
        simp [keepFirst, hy, hiff]
    rw [List.cons_append, keepFirst, ih, List.filter_append, hrest]
    rfl

theorem keepFirst_keys_nodup (xs : List α) : ((keepFirst key xs).map key).Nodup := by
  induction xs with
  | nil => simp [keepFirst]
  | cons x xs ih =>
    rw [keepFirst, List.map_cons, List.nodup_cons]
    refine ⟨?_, ih.sublist (List.Sublist.map key List.filter_sublist)⟩
    simp [List.mem_map, List.mem_filter]

/-- No key is lost: the first element with a given key is the one that is kept. -/
theorem find?_keepFirst (xs : List α) (k : κ) :
    (keepFirst key xs).find? (fun x => key x = k) = xs.find? fun x => key x = k := by
  induction xs with
  | nil => rfl
  | cons x xs ih =>
    by_cases hx : key x = k
    · simp [keepFirst, hx]
    · rw [keepFirst, List.find?_cons_of_neg (by simpa using hx),
        List.find?_cons_of_neg (by simpa using hx), ← ih, List.find?_filter]
      congr 1
      funext y
      by_cases hy : key y = k
      · simp [hy, Ne.symm hx]
      · simp [hy]

end FinanciaApp.Library
