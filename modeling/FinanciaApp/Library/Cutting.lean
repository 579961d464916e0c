import Mathlib.Algebra.Order.BigOperators.Group.List
import FinanciaApp.Library.Chaining

/-!
# Cutting a chain of spans

A span goes forward from `start` to `stop` with a positive measure, and knows the measure
of its part before any place. A list of spans is measured up to a place span by span; the
measure is monotone in the place, and a chain of spans is a span again.
-/

set_option autoImplicit false

namespace FinanciaApp.Library

universe u v

variable {P : Type u} {M : Type v} [LinearOrder P] [AddCommMonoid M] [PartialOrder M]

/-- A stretch over the places `P` with measures in `M`. -/
structure Span (P : Type u) (M : Type v) [LinearOrder P] [AddCommMonoid M] [PartialOrder M] where
  start : P
  stop : P
  full : M
  cut : P → M
  forward : start < stop
  positive : 0 < full
  cut_before : ∀ x ≤ start, cut x = 0
  cut_mono : ∀ x y, x ≤ y → y < stop → cut x ≤ cut y
  cut_le_full : ∀ x < stop, cut x ≤ full

theorem Span.cut_nonneg (span : Span P M) {x : P} (inside : x < span.stop) : 0 ≤ span.cut x := by
  rcases le_total x span.start with before | after
  · exact (span.cut_before x before).ge
  · calc 0 = span.cut span.start := (span.cut_before _ le_rfl).symm
      _ ≤ span.cut x := span.cut_mono _ _ after inside

def totalMeasure (spans : List (Span P M)) : M :=
  (spans.map Span.full).sum

/-- The measure of the part before `x`. -/
def measureBefore (x : P) : List (Span P M) → M
  | [] => 0
  | span :: rest => if x < span.stop then span.cut x else span.full + measureBefore x rest

variable {spans : List (Span P M)} {x y : P}

@[simp] theorem totalMeasure_cons (span : Span P M) (rest : List (Span P M)) :
    totalMeasure (span :: rest) = span.full + totalMeasure rest := by
  simp [totalMeasure]

theorem measureBefore_of_lt (span : Span P M) (rest : List (Span P M)) (inside : x < span.stop) :
    measureBefore x (span :: rest) = span.cut x :=
  if_pos inside

theorem measureBefore_of_le (span : Span P M) (rest : List (Span P M)) (passed : span.stop ≤ x) :
    measureBefore x (span :: rest) = span.full + measureBefore x rest :=
  if_neg passed.not_gt

section Ordered

variable [IsOrderedAddMonoid M]

theorem totalMeasure_nonneg (spans : List (Span P M)) : 0 ≤ totalMeasure spans := by
  apply List.sum_nonneg
  intro measure member
  obtain ⟨span, -, rfl⟩ := List.mem_map.mp member
  exact span.positive.le

theorem totalMeasure_pos (nonempty : spans ≠ []) : 0 < totalMeasure spans := by
  obtain ⟨span, rest, rfl⟩ := List.exists_cons_of_ne_nil nonempty
  rw [totalMeasure_cons]
  exact add_pos_of_pos_of_nonneg span.positive (totalMeasure_nonneg rest)

theorem measureBefore_nonneg (x : P) (spans : List (Span P M)) : 0 ≤ measureBefore x spans := by
  induction spans with
  | nil => exact le_rfl
  | cons span rest ih =>
    rw [measureBefore]
    split_ifs with inside
    · exact span.cut_nonneg inside
    · exact add_nonneg span.positive.le ih

theorem measureBefore_le_totalMeasure (x : P) (spans : List (Span P M)) :
    measureBefore x spans ≤ totalMeasure spans := by
  induction spans with
  | nil => exact le_rfl
  | cons span rest ih =>
    rw [measureBefore, totalMeasure_cons]
    split_ifs with inside
    · exact le_add_of_le_of_nonneg (span.cut_le_full x inside) (totalMeasure_nonneg rest)
    · exact add_le_add_right ih span.full

theorem measureBefore_mono (spans : List (Span P M)) (le : x ≤ y) :
    measureBefore x spans ≤ measureBefore y spans := by
  induction spans with
  | nil => exact le_rfl
  | cons span rest ih =>
    rw [measureBefore, measureBefore]
    by_cases hy : y < span.stop
    · rw [if_pos (le.trans_lt hy), if_pos hy]
      exact span.cut_mono x y le hy
    · rw [if_neg hy]
      split_ifs with hx
      · exact le_add_of_le_of_nonneg (span.cut_le_full x hx) (measureBefore_nonneg y rest)
      · exact add_le_add_right ih span.full

end Ordered

theorem measureBefore_eq_totalMeasure (passed : ∀ span ∈ spans, span.stop ≤ x) :
    measureBefore x spans = totalMeasure spans := by
  induction spans with
  | nil => rfl
  | cons span rest ih =>
    rw [measureBefore_of_le span rest (passed span (by simp)), totalMeasure_cons,
      ih fun later member => passed later (by simp [member])]

variable {first last : P}

theorem chained_le (chained : Chained Span.start Span.stop first last spans) : first ≤ last := by
  induction chained with
  | nil => exact le_rfl
  | cons span linked ih => exact span.forward.le.trans ih

theorem stop_le_of_chained (chained : Chained Span.start Span.stop first last spans) :
    ∀ span ∈ spans, span.stop ≤ last := by
  induction chained with
  | nil => simp
  | cons span linked ih => exact List.forall_mem_cons.mpr ⟨chained_le linked, ih⟩

theorem measureBefore_eq_zero (chained : Chained Span.start Span.stop first last spans)
    (before : x ≤ first) : measureBefore x spans = 0 := by
  cases chained with
  | nil => rfl
  | cons span linked =>
    rw [measureBefore_of_lt span _ (before.trans_lt span.forward), span.cut_before x before]

/-- A chain without gaps is one span. -/
def joinSpans [IsOrderedAddMonoid M] (chained : Chained Span.start Span.stop first last spans)
    (nonempty : spans ≠ []) : Span P M where
  start := first
  stop := last
  full := totalMeasure spans
  cut x := measureBefore x spans
  forward := by
    cases chained with
    | nil => exact absurd rfl nonempty
    | cons span linked => exact span.forward.trans_le (chained_le linked)
  positive := totalMeasure_pos nonempty
  cut_before _ before := measureBefore_eq_zero chained before
  cut_mono _ _ le _ := measureBefore_mono spans le
  cut_le_full x _ := measureBefore_le_totalMeasure x spans

end FinanciaApp.Library
