import Mathlib
import FinanciaApp.Library.Numerals

/-!
# One coordinate of a quadratic Bézier piece

The Bernstein form of a quadratic with the end values `p` and `q` and the control `c`, its
velocity, and the cubic form that degree elevation gives.
-/

set_option autoImplicit false

namespace FinanciaApp.Library

universe u

section Algebra

variable {K : Type u} [Field K]

def quadratic (p c q t : K) : K :=
  (1 - t) ^ 2 * p + 2 * (1 - t) * t * c + t ^ 2 * q

def quadraticVelocity (p c q t : K) : K :=
  2 * (1 - t) * (c - p) + 2 * t * (q - c)

def cubic (p c d q t : K) : K :=
  (1 - t) ^ 3 * p + 3 * (1 - t) ^ 2 * t * c + 3 * (1 - t) * t ^ 2 * d + t ^ 3 * q

@[simp] theorem quadratic_zero (p c q : K) : quadratic p c q 0 = p := by
  simp [quadratic]

@[simp] theorem quadratic_one (p c q : K) : quadratic p c q 1 = q := by
  simp [quadratic]

@[simp] theorem quadraticVelocity_zero (p c q : K) :
    quadraticVelocity p c q 0 = 2 * (c - p) := by
  simp [quadraticVelocity]

@[simp] theorem quadraticVelocity_one (p c q : K) :
    quadraticVelocity p c q 1 = 2 * (q - c) := by
  simp [quadraticVelocity]

variable [CharZero K]

/-- A control halfway between the ends makes the piece affine. -/
theorem quadratic_midpoint (p q t : K) : quadratic p ((p + q) / 2) q t = p + t * (q - p) := by
  unfold quadratic
  field_simp
  ring

theorem cubic_elevated (p c q t : K) :
    cubic p ((p + 2 * c) / 3) ((q + 2 * c) / 3) q t = quadratic p c q t := by
  unfold cubic quadratic
  field_simp
  ring

/-- Two cubic pieces with equal first controls agree at one half only with equal second
controls. -/
theorem cubic_half_inj {p c d e q : K} (same : cubic p c d q (1 / 2) = cubic p c e q (1 / 2)) :
    d = e := by
  unfold cubic at same
  have weight : (3 * (1 - 1 / 2) * (1 / 2) ^ 2 : K) ≠ 0 := by norm_num
  have middle : (3 * (1 - 1 / 2) * (1 / 2) ^ 2 : K) * d = 3 * (1 - 1 / 2) * (1 / 2) ^ 2 * e := by
    linear_combination same
  exact mul_left_cancel₀ weight middle

end Algebra

section Order

variable {K : Type u} [Field K] [LinearOrder K] [IsStrictOrderedRing K]

/-- The piece stays in every interval that holds its ends and its control. -/
theorem quadratic_mem_Icc {low high p c q t : K} (hp : p ∈ Set.Icc low high)
    (hc : c ∈ Set.Icc low high) (hq : q ∈ Set.Icc low high) (ht : t ∈ Set.Icc 0 1) :
    quadratic p c q t ∈ Set.Icc low high := by
  have before : 0 ≤ 1 - t := sub_nonneg.mpr ht.2
  have first : 0 ≤ (1 - t) ^ 2 := sq_nonneg _
  have second : 0 ≤ 2 * (1 - t) * t := mul_nonneg (mul_nonneg zero_le_two before) ht.1
  have third : 0 ≤ t ^ 2 := sq_nonneg _
  have partition : (1 - t) ^ 2 + 2 * (1 - t) * t + t ^ 2 = 1 := by ring
  constructor
  · calc low = (1 - t) ^ 2 * low + 2 * (1 - t) * t * low + t ^ 2 * low := by
          rw [← add_mul, ← add_mul, partition, one_mul]
      _ ≤ quadratic p c q t :=
          add_le_add (add_le_add (mul_le_mul_of_nonneg_left hp.1 first)
            (mul_le_mul_of_nonneg_left hc.1 second)) (mul_le_mul_of_nonneg_left hq.1 third)
  · calc quadratic p c q t ≤ (1 - t) ^ 2 * high + 2 * (1 - t) * t * high + t ^ 2 * high :=
          add_le_add (add_le_add (mul_le_mul_of_nonneg_left hp.2 first)
            (mul_le_mul_of_nonneg_left hc.2 second)) (mul_le_mul_of_nonneg_left hq.2 third)
      _ = high := by rw [← add_mul, ← add_mul, partition, one_mul]

end Order

theorem hasDerivAt_quadratic (p c q t : ℝ) :
    HasDerivAt (quadratic p c q) (quadraticVelocity p c q t) t := by
  have back : HasDerivAt (fun s : ℝ => 1 - s) (-1) t := (hasDerivAt_id' t).const_sub 1
  have forth : HasDerivAt (fun s : ℝ => s) 1 t := hasDerivAt_id' t
  have first := (back.mul back).mul_const p
  have second := (back.mul forth).mul_const (2 * c)
  have third := (forth.mul forth).mul_const q
  have sum := (first.add second).add third
  have value : quadratic p c q = fun s => (1 - s) * (1 - s) * p + (1 - s) * s * (2 * c) +
      s * s * q := by
    funext s
    unfold quadratic
    ring
  rw [value]
  apply sum.congr_deriv
  unfold quadraticVelocity
  ring

end FinanciaApp.Library
