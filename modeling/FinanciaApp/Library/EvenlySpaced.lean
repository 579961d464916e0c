import Mathlib.Algebra.Order.Field.Basic
import Mathlib.Algebra.Order.Floor.Ring
import Mathlib.Tactic.Linarith
import Mathlib.Tactic.Ring
import FinanciaApp.Library.Numerals

/-!
# Evenly spaced marks

Marks `origin + i * step` on a line with a positive step.

* `isNearestMark_iff`: a mark is nearest to a point if the point is within half a step of
  it on either side, the outer marks reaching as far out as one likes.
* `floor_marks_iff`: the floor of the distance over the step counts the marks passed.
-/

set_option autoImplicit false

namespace FinanciaApp.Library

universe u

variable {K : Type u} [Field K] [LinearOrder K]

def mark (origin step : K) (i : ℕ) : K :=
  origin + i * step

/-- No mark among the first `count` is nearer to `x` than mark `i`. -/
def IsNearestMark (origin step : K) (count : ℕ) (x : K) (i : ℕ) : Prop :=
  i < count ∧ ∀ j < count, |x - mark origin step i| ≤ |x - mark origin step j|

/-- Within half a step of mark `i`, or beyond it where it is the first or the last one. -/
def WithinHalfStep (origin step : K) (count : ℕ) (x : K) (i : ℕ) : Prop :=
  i < count ∧ (i = 0 ∨ mark origin step i - step / 2 ≤ x) ∧
    (i + 1 = count ∨ x ≤ mark origin step i + step / 2)

variable {origin step x : K} {count i j : ℕ}

omit [LinearOrder K] in
theorem mark_succ : mark origin step (i + 1) = mark origin step i + step := by
  simp only [mark, Nat.cast_add, Nat.cast_one]
  ring

variable [IsStrictOrderedRing K]

theorem mark_mono (positive : 0 < step) (h : i ≤ j) :
    mark origin step i ≤ mark origin step j := by
  have cast : (i : K) ≤ j := Nat.cast_le.mpr h
  simp only [mark]
  linarith [mul_le_mul_of_nonneg_right cast positive.le]

theorem mark_add_step_le (positive : 0 < step) (h : i < j) :
    mark origin step i + step ≤ mark origin step j := by
  rw [← mark_succ]
  exact mark_mono positive h

/-- The nearer of two points is the one on this side of the middle. -/
theorem abs_sub_le_abs_sub_iff {a b : K} (h : a < b) :
    |x - a| ≤ |x - b| ↔ x ≤ (a + b) / 2 := by
  rw [← sq_le_sq]
  constructor
  · intro le
    by_contra far
    have apart : 0 < (b - a) * (2 * x - (a + b)) := mul_pos (by linarith) (by linarith)
    linarith
  · intro le
    have apart : 0 ≤ (b - a) * (a + b - 2 * x) := mul_nonneg (by linarith) (by linarith)
    linarith

theorem abs_sub_ge_abs_sub_iff {a b : K} (h : a < b) :
    |x - b| ≤ |x - a| ↔ (a + b) / 2 ≤ x := by
  rw [← sq_le_sq]
  constructor
  · intro le
    by_contra far
    have apart : 0 < (b - a) * (a + b - 2 * x) := mul_pos (by linarith) (by linarith)
    linarith
  · intro le
    have apart : 0 ≤ (b - a) * (2 * x - (a + b)) := mul_nonneg (by linarith) (by linarith)
    linarith

theorem isNearestMark_iff (positive : 0 < step) :
    IsNearestMark origin step count x i ↔ WithinHalfStep origin step count x i := by
  constructor
  · rintro ⟨within, nearest⟩
    refine ⟨within, ?_, ?_⟩
    · cases i with
      | zero => exact Or.inl rfl
      | succ i =>
        right
        have left := nearest i (by omega)
        rw [mark_succ, abs_sub_ge_abs_sub_iff (by linarith)] at left
        rw [mark_succ]
        linarith
    · rcases Nat.lt_or_ge (i + 1) count with more | last
      · right
        have right := nearest (i + 1) more
        rw [mark_succ, abs_sub_le_abs_sub_iff (by linarith)] at right
        linarith
      · exact Or.inl (by omega)
  · rintro ⟨within, left, right⟩
    refine ⟨within, fun j hj => ?_⟩
    rcases Nat.lt_trichotomy i j with below | rfl | above
    · have apart : mark origin step i + step ≤ mark origin step j :=
        mark_add_step_le positive below
      rw [abs_sub_le_abs_sub_iff (by linarith)]
      have near : x ≤ mark origin step i + step / 2 := right.resolve_left (by omega)
      linarith
    · exact le_rfl
    · have apart : mark origin step j + step ≤ mark origin step i :=
        mark_add_step_le positive above
      rw [abs_sub_ge_abs_sub_iff (by linarith)]
      have near : mark origin step i - step / 2 ≤ x := left.resolve_left (by omega)
      linarith

theorem floor_marks_iff [FloorRing K] (positive : 0 < step) {i : ℤ} :
    ⌊(x - origin) / step⌋ = i ↔ origin + i * step ≤ x ∧ x < origin + (i + 1) * step := by
  rw [Int.floor_eq_iff, le_div_iff₀ positive, div_lt_iff₀ positive]
  constructor
  · rintro ⟨lower, upper⟩
    exact ⟨by linarith, by linarith⟩
  · rintro ⟨lower, upper⟩
    exact ⟨by linarith, by linarith⟩

end FinanciaApp.Library
