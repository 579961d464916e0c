import Mathlib.Data.List.Basic

/-!
# The first and the last member with a property

* `exists_first`, `exists_last`: a list with such a member, cut at the first or the last one.
-/

set_option autoImplicit false

namespace FinanciaApp.Library

universe u

variable {α : Type u} {p : α → Prop} {xs : List α}

theorem exists_first (present : ∃ x ∈ xs, p x) :
    ∃ before x after, xs = before ++ x :: after ∧ p x ∧ ∀ y ∈ before, ¬p y := by
  induction xs with
  | nil =>
    obtain ⟨x, member, -⟩ := present
    cases member
  | cons first rest ih =>
    by_cases holds : p first
    · exact ⟨[], first, rest, rfl, holds, fun y member => absurd member List.not_mem_nil⟩
    · obtain ⟨x, member, hx⟩ := present
      have later : x ∈ rest := (List.mem_cons.mp member).resolve_left fun same => holds (same ▸ hx)
      obtain ⟨before, y, after, rfl, hy, none⟩ := ih ⟨x, later, hx⟩
      refine ⟨first :: before, y, after, rfl, hy, fun z hz => ?_⟩
      rcases List.mem_cons.mp hz with rfl | earlier
      · exact holds
      · exact none z earlier

theorem exists_last (present : ∃ x ∈ xs, p x) :
    ∃ before x after, xs = before ++ x :: after ∧ p x ∧ ∀ y ∈ after, ¬p y := by
  have backwards : ∃ x ∈ xs.reverse, p x := by
    obtain ⟨x, member, hx⟩ := present
    exact ⟨x, List.mem_reverse.mpr member, hx⟩
  obtain ⟨after, x, before, split, hx, none⟩ := exists_first backwards
  refine ⟨before.reverse, x, after.reverse, ?_, hx, fun y member => ?_⟩
  · rw [← List.reverse_reverse xs, split]
    simp
  · exact none y (List.mem_reverse.mp member)

end FinanciaApp.Library
