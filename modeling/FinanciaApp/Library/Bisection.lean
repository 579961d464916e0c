import Mathlib.Data.List.Sort
import Mathlib.Order.Basic

/-!
# Searching by halves

`bisect goesLower low high` halves the range from `low` to `high` until one index is left. If
the test, once it holds, holds from there on, the index is the first one at which it holds, or
`high` (`bisect_spec`).

`countBelow keys v` is where `v` belongs in a list of keys in ascending order: the keys before
are the smaller ones (`lt_iff_lt_countBelow`), and those at `v` come next
(`takeWhile_drop_countBelow`).
-/

set_option autoImplicit false

namespace FinanciaApp.Library

universe u

/-- The index at which a search by halves ends. -/
def bisect (goesLower : Nat → Bool) (low high : Nat) : Nat :=
  if low < high then
    if goesLower ((low + high) / 2) then bisect goesLower low ((low + high) / 2)
    else bisect goesLower ((low + high) / 2 + 1) high
  else high
termination_by high - low
decreasing_by all_goals omega

section Bisections

variable {goesLower : Nat → Bool}

theorem bisect_of_le {low high : Nat} (done : high ≤ low) :
    bisect goesLower low high = high := by
  rw [bisect, if_neg (Nat.not_lt.mpr done)]

theorem bisect_lower {low high : Nat} (range : low < high)
    (lower : goesLower ((low + high) / 2) = true) :
    bisect goesLower low high = bisect goesLower low ((low + high) / 2) := by
  rw [bisect, if_pos range, if_pos lower]

theorem bisect_higher {low high : Nat} (range : low < high)
    (higher : goesLower ((low + high) / 2) = false) :
    bisect goesLower low high = bisect goesLower ((low + high) / 2 + 1) high := by
  rw [bisect, if_pos range, if_neg (by simp [higher])]

/-- A test that holds at an index holds up to the end of the range. -/
theorem goesLower_mono {low high : Nat}
    (upward : ∀ i, low ≤ i → i + 1 < high → goesLower i = true → goesLower (i + 1) = true)
    {i j : Nat} (atLow : low ≤ i) (le : i ≤ j) (before : j < high)
    (holds : goesLower i = true) : goesLower j = true := by
  induction j, le using Nat.le_induction with
  | base => exact holds
  | succ j le ih => exact upward j (by omega) before (ih (by omega))

/-- The search ends at the first index at which the test holds, or at the end of the range. -/
theorem bisect_spec {low high : Nat} (range : low ≤ high)
    (upward : ∀ i, low ≤ i → i + 1 < high → goesLower i = true → goesLower (i + 1) = true) :
    low ≤ bisect goesLower low high ∧ bisect goesLower low high ≤ high ∧
      (∀ i, low ≤ i → i < bisect goesLower low high → goesLower i = false) ∧
      (bisect goesLower low high < high → goesLower (bisect goesLower low high) = true) := by
  induction low, high using bisect.induct goesLower with
  | case1 low high isRange lower ih =>
    rw [bisect_lower isRange lower]
    have inner : ∀ i, low ≤ i → i + 1 < (low + high) / 2 → goesLower i = true →
        goesLower (i + 1) = true := fun i atLow before => upward i atLow (by omega)
    obtain ⟨atLeast, atMost, not, holds⟩ := ih (by omega) inner
    refine ⟨atLeast, by omega, not, fun _ => ?_⟩
    rcases Nat.lt_or_ge (bisect goesLower low ((low + high) / 2)) ((low + high) / 2) with
      before | after
    · exact holds before
    · rw [Nat.le_antisymm atMost after]
      exact lower
  | case2 low high isRange higher ih =>
    have isHigher : goesLower ((low + high) / 2) = false := by simpa using higher
    rw [bisect_higher isRange isHigher]
    have inner : ∀ i, (low + high) / 2 + 1 ≤ i → i + 1 < high → goesLower i = true →
        goesLower (i + 1) = true := fun i atLow => upward i (by omega)
    obtain ⟨atLeast, atMost, not, holds⟩ := ih (by omega) inner
    refine ⟨by omega, atMost, fun i atLow before => ?_, holds⟩
    rcases Nat.lt_or_ge ((low + high) / 2) i with isInner | isOuter
    · exact not i isInner before
    · -- below the half the test cannot hold, as it does not hold there
      by_contra holdsHere
      have mono := goesLower_mono upward atLow isOuter (by omega) (by simpa using holdsHere)
      rw [isHigher] at mono
      cases mono
  | case3 low high notRange =>
    rw [bisect_of_le (Nat.not_lt.mp notRange)]
    exact ⟨range, Nat.le_refl high, fun i atLow before => absurd before (by omega),
      fun before => absurd before (Nat.lt_irrefl high)⟩

end Bisections

section Keys

variable {κ : Type u} [LinearOrder κ]

def countBelow (keys : List κ) (v : κ) : Nat := keys.countP fun key => key < v

theorem countBelow_le_length (keys : List κ) (v : κ) : countBelow keys v ≤ keys.length :=
  List.countP_le_length

theorem countBelow_cons_of_lt {key : κ} (rest : List κ) {v : κ} (smaller : key < v) :
    countBelow (key :: rest) v = countBelow rest v + 1 := by
  simp [countBelow, smaller]

theorem countBelow_cons_of_le {key : κ} {rest : List κ} {v : κ}
    (ascending : (key :: rest).Pairwise (· ≤ ·)) (notSmaller : v ≤ key) :
    countBelow (key :: rest) v = 0 := by
  refine List.countP_eq_zero.mpr (fun other there => ?_)
  rcases List.mem_cons.mp there with rfl | later
  · simpa using notSmaller
  · simpa using notSmaller.trans ((List.pairwise_cons.mp ascending).1 other later)

/-- In a list in ascending order the smaller keys come first. -/
theorem lt_iff_lt_countBelow {keys : List κ} (ascending : keys.Pairwise (· ≤ ·)) (v : κ)
    {i : Nat} (bound : i < keys.length) : keys[i] < v ↔ i < countBelow keys v := by
  induction keys generalizing i with
  | nil => exact absurd bound (Nat.not_lt_zero i)
  | cons key rest ih =>
    obtain ⟨least, ascendingRest⟩ := List.pairwise_cons.mp ascending
    by_cases smaller : key < v
    · rw [countBelow_cons_of_lt rest smaller]
      cases i with
      | zero => simpa using smaller
      | succ i => simpa using ih ascendingRest (by simpa using bound)
    · have noneSmaller := countBelow_cons_of_le ascending (not_lt.mp smaller)
      rw [noneSmaller]
      refine iff_of_false ?_ (Nat.not_lt_zero i)
      cases i with
      | zero => simpa using smaller
      | succ i =>
        have inRest : i < rest.length := by simpa using bound
        simpa using (not_lt.mp smaller).trans (least rest[i] (List.getElem_mem inRest))

/-- The elements at a key follow those with smaller keys, one after the other. -/
theorem takeWhile_drop_countBelow {α : Type u} (key : α → κ) {xs : List α}
    (ascending : (xs.map key).Pairwise (· ≤ ·)) (v : κ) :
    ((xs.drop (countBelow (xs.map key) v)).takeWhile fun x => key x = v) =
      xs.filter fun x => key x = v := by
  induction xs with
  | nil => rfl
  | cons x rest ih =>
    obtain ⟨least, ascendingRest⟩ := List.pairwise_cons.mp ascending
    have inner := ih ascendingRest
    rcases lt_trichotomy (key x) v with smaller | same | greater
    · rw [List.map_cons, countBelow_cons_of_lt _ smaller, List.drop_succ_cons, inner,
        List.filter_cons_of_neg (by simpa using smaller.ne)]
    · have noneSmaller : countBelow (rest.map key) v = 0 := by
        refine List.countP_eq_zero.mpr (fun other there => ?_)
        simpa using same ▸ least other there
      rw [noneSmaller, List.drop_zero] at inner
      rw [List.map_cons, countBelow_cons_of_le ascending (le_of_eq same.symm), List.drop_zero,
        List.takeWhile_cons_of_pos (by simpa using same), inner,
        List.filter_cons_of_pos (by simpa using same)]
    · have noneHere : ∀ y ∈ rest, ¬ key y = v := by
        intro y there
        exact ne_of_gt (greater.trans_le (least (key y) (List.mem_map_of_mem there)))
      rw [List.map_cons, countBelow_cons_of_le ascending greater.le, List.drop_zero,
        List.takeWhile_cons_of_neg (by simpa using greater.ne'),
        List.filter_cons_of_neg (by simpa using greater.ne')]
      exact (List.filter_eq_nil_iff.mpr (by simpa using noneHere)).symm

end Keys

end FinanciaApp.Library
