import FinanciaApp.Library.Replacing

/-!
# Texts with markup

A text over a fixed set of literals, all of which begin with one element that nothing else in
the text may be: `MarkedUp start literals` says that every `start` begins one of them. A
replacement whose target has no `start` and begins in no literal cannot take a literal apart,
so the text stays marked up if the replacement is.
-/

set_option autoImplicit false

namespace FinanciaApp.Library

universe u

variable {α : Type u}

inductive MarkedUp (start : α) (literals : List (List α)) : List α → Prop where
  | nil : MarkedUp start literals []
  | text {x : α} {xs : List α} (plain : x ≠ start) (rest : MarkedUp start literals xs) :
      MarkedUp start literals (x :: xs)
  | literal {literal xs : List α} (member : literal ∈ literals)
      (rest : MarkedUp start literals xs) : MarkedUp start literals (literal ++ xs)

namespace MarkedUp

variable {start : α} {literals : List (List α)} {xs ys : List α}

theorem of_notMem (absent : start ∉ xs) : MarkedUp start literals xs := by
  induction xs with
  | nil => exact .nil
  | cons x xs ih =>
    rw [List.mem_cons, not_or] at absent
    exact .text (Ne.symm absent.1) (ih absent.2)

theorem of_literal {literal : List α} (member : literal ∈ literals) :
    MarkedUp start literals literal := by
  have alone : MarkedUp start literals (literal ++ []) := .literal member .nil
  rwa [List.append_nil] at alone

theorem append (first : MarkedUp start literals xs) (second : MarkedUp start literals ys) :
    MarkedUp start literals (xs ++ ys) := by
  induction first with
  | nil => exact second
  | text plain _ ih => exact .text plain ih
  | literal member _ ih =>
    rw [List.append_assoc]
    exact .literal member ih

/-- A piece in front that has no `start` can be taken away. -/
theorem of_append (begins : ∀ literal ∈ literals, literal.head? = some start)
    (marked : MarkedUp start literals (xs ++ ys)) (absent : start ∉ xs) :
    MarkedUp start literals ys := by
  induction xs with
  | nil => exact marked
  | cons x xs ih =>
    rw [List.mem_cons, not_or] at absent
    generalize same : x :: xs ++ ys = whole at marked
    cases marked with
    | nil => cases same
    | text plain rest =>
      obtain ⟨-, rfl⟩ := List.cons_eq_cons.mp same
      exact ih rest absent.2
    | @literal literal following member rest =>
      -- the literal would begin with `x`
      have head := begins literal member
      cases literal with
      | nil => cases head
      | cons first tail =>
        obtain rfl := Option.some.inj head
        exact absurd (List.cons_eq_cons.mp same).1.symm absent.1

/-- Every `start` begins a literal. -/
theorem literal_at (single : ∀ literal ∈ literals, start ∉ literal.tail)
    (marked : MarkedUp start literals xs)
    {before after : List α} (split : xs = before ++ start :: after) :
    ∃ literal ∈ literals, literal <+: start :: after := by
  induction marked generalizing before with
  | nil => simp at split
  | text plain _ ih =>
    cases before with
    | nil => exact absurd (List.cons_eq_cons.mp split).1 plain
    | cons first before => exact ih (List.cons_eq_cons.mp split).2
  | @literal literal following member _ ih =>
    cases before with
    | nil => exact ⟨literal, member, following, split⟩
    | cons first before =>
      rcases List.append_eq_append_iff.mp split with ⟨inner, here, next⟩ | ⟨inner, here, next⟩
      · exact ih next
      · cases inner with
        | nil => exact @ih [] next.symm
        | cons x inner =>
          obtain ⟨rfl, -⟩ := List.cons_eq_cons.mp next
          refine absurd ?_ (single literal member)
          rw [here, List.cons_append, List.tail_cons]
          exact List.mem_append_right _ List.mem_cons_self

variable [DecidableEq α] {target replacement : List α}

/-- A replacement keeps the text marked up if it leaves the literals alone. -/
theorem replaceAll (begins : ∀ literal ∈ literals, literal.head? = some start)
    (nonempty : target ≠ []) (absent : start ∉ target)
    (kept : ∀ literal ∈ literals, ∀ ys, Library.replaceAll target replacement (literal ++ ys) =
      literal ++ Library.replaceAll target replacement ys)
    (added : MarkedUp start literals replacement) (marked : MarkedUp start literals xs) :
    MarkedUp start literals (Library.replaceAll target replacement xs) := by
  -- an occurrence is stepped over as a whole, so the induction is on the length
  induction length : xs.length using Nat.strong_induction_on generalizing xs with
  | h length' ih =>
    cases marked with
    | nil =>
      rw [replaceAll_nil]
      exact .nil
    | @text x following plain rest =>
      by_cases found : target <+: x :: following
      · obtain ⟨after, split⟩ := found
        have markedAfter : MarkedUp start literals after :=
          of_append begins (split ▸ MarkedUp.text plain rest) absent
        have shorter : after.length < length' := by
          have positive := List.length_pos_iff.mpr nonempty
          rw [← length, ← split, List.length_append]
          omega
        rw [← split, replaceAll_target replacement nonempty]
        exact added.append (ih _ shorter markedAfter rfl)
      · rw [replaceAll_cons replacement found]
        have shorter : following.length < length' := by
          rw [← length, List.length_cons]
          omega
        exact .text plain (ih _ shorter rest rfl)
    | @literal literal following member rest =>
      rw [kept literal member]
      have shorter : following.length < length' := by
        have head := begins literal member
        have positive : 0 < literal.length := by
          cases literal with
          | nil => cases head
          | cons first tail => exact Nat.succ_pos _
        rw [← length, List.length_append]
        omega
      exact .literal member (ih _ shorter rest rfl)

end MarkedUp

end FinanciaApp.Library
