import Mathlib
import FinanciaApp.Library.Numerals

/-!
# Rounding

Two rules for the nearest integer to a number halfway between two, and rounding down.

* `roundAway`: away from zero; `roundAway_eq_iff`, `roundAway_lt_iff`, `roundAway_mono`.
* `roundEven`: to the even neighbour; `roundEven_eq_of_near`, `roundEven_half`.
* `roundDown`: to a multiple of a step; `roundDown_le`, `lt_roundDown_add`, `roundDown_mono`.

The first two are odd functions: `roundAway_neg`, `roundEven_neg`.
-/

set_option autoImplicit false

namespace FinanciaApp.Library

universe u

variable {K : Type u} [Field K] [LinearOrder K] [FloorRing K]

def roundAway (q : K) : ℤ :=
  if 0 ≤ q then ⌊q + 1 / 2⌋ else -⌊-q + 1 / 2⌋

def roundEven (q : K) : ℤ :=
  if q = ⌊q⌋ + 1 / 2 ∧ ⌊q⌋ % 2 = 0 then ⌊q⌋ else ⌊q + 1 / 2⌋

def roundDown (step q : K) : K :=
  step * ⌊q / step⌋

variable {q r : K} {n : ℤ}

/-! ## Away from zero -/

theorem roundAway_of_nonneg (h : 0 ≤ q) : roundAway q = ⌊q + 1 / 2⌋ :=
  if_pos h

variable [IsStrictOrderedRing K]

theorem roundAway_zero : roundAway (0 : K) = 0 := by
  rw [roundAway_of_nonneg le_rfl, Int.floor_eq_zero_iff]
  constructor <;> norm_num

theorem roundAway_neg : roundAway (-q) = -roundAway q := by
  rcases lt_trichotomy q 0 with negative | rfl | positive
  · rw [roundAway, roundAway, if_pos (neg_nonneg.mpr negative.le), if_neg negative.not_ge, neg_neg]
  · rw [neg_zero, roundAway_zero, neg_zero]
  · have below : ¬0 ≤ -q := by linarith
    rw [roundAway, roundAway, if_neg below, if_pos positive.le, neg_neg]

theorem roundAway_eq_iff (h : 0 ≤ q) : roundAway q = n ↔ n - 1 / 2 ≤ q ∧ q < n + 1 / 2 := by
  rw [roundAway_of_nonneg h, Int.floor_eq_iff]
  constructor
  · rintro ⟨lower, upper⟩
    exact ⟨by linarith, by linarith⟩
  · rintro ⟨lower, upper⟩
    exact ⟨by linarith, by linarith⟩

theorem roundAway_lt_iff (h : 0 ≤ q) : roundAway q < n ↔ q < n - 1 / 2 := by
  rw [roundAway_of_nonneg h, Int.floor_lt]
  constructor <;> intro bound <;> linarith

theorem le_roundAway_iff (h : 0 ≤ q) : n ≤ roundAway q ↔ n - 1 / 2 ≤ q := by
  rw [← not_lt, roundAway_lt_iff h, not_lt]

theorem roundAway_nonneg (h : 0 ≤ q) : 0 ≤ roundAway q := by
  rw [le_roundAway_iff h, Int.cast_zero]
  linarith

theorem roundAway_mono (h : 0 ≤ q) (le : q ≤ r) : roundAway q ≤ roundAway r := by
  rw [le_roundAway_iff (h.trans le)]
  have lower := ((roundAway_eq_iff h).mp rfl).1
  linarith

/-- Rounding a fraction with an even denominator is a division of natural numbers. -/
theorem roundAway_natCast_div {half : ℕ} (positive : 0 < half) (n : ℕ) :
    roundAway ((n : K) / (2 * half : ℕ)) = ((n + half) / (2 * half) : ℕ) := by
  have denominator : (0 : K) < (2 * half : ℕ) := Nat.cast_pos.mpr (by omega)
  have nonneg : 0 ≤ (n : K) / (2 * half : ℕ) := div_nonneg (Nat.cast_nonneg n) denominator.le
  obtain ⟨quotient, shown⟩ : ∃ quotient, (n + half) / (2 * half) = quotient := ⟨_, rfl⟩
  have lower : 2 * half * quotient ≤ n + half := by
    rw [← shown]
    exact Nat.mul_div_le _ _
  have upper : n + half < 2 * half * (quotient + 1) := by
    rw [← shown]
    exact Nat.lt_mul_div_succ _ (by omega)
  have lower_cast : (2 * half : K) * quotient ≤ n + half := by exact_mod_cast lower
  have upper_cast : (n : K) + half < 2 * half * (quotient + 1) := by exact_mod_cast upper
  rw [roundAway_eq_iff nonneg, shown, Int.cast_natCast, le_div_iff₀ denominator,
    div_lt_iff₀ denominator]
  push_cast
  constructor <;> linarith

/-! ## To the even neighbour -/

theorem roundEven_eq_of_near (near : |q - n| < 1 / 2) : roundEven q = n := by
  obtain ⟨lower, upper⟩ := abs_lt.mp near
  have not_half : ¬(q = ⌊q⌋ + 1 / 2 ∧ ⌊q⌋ % 2 = 0) := by
    rintro ⟨half, -⟩
    have below : (⌊q⌋ : K) < n := by linarith
    have above : (n : K) < ⌊q⌋ + 1 := by linarith
    have integers : ⌊q⌋ < n ∧ n < ⌊q⌋ + 1 := by
      constructor
      · exact_mod_cast below
      · exact_mod_cast above
    omega
  rw [roundEven, if_neg not_half, Int.floor_eq_iff]
  constructor <;> linarith

theorem floor_half : ⌊(n : K) + 1 / 2⌋ = n := by
  rw [Int.floor_eq_iff]
  constructor <;> linarith

/-- Halfway between `n` and `n + 1`. -/
theorem roundEven_half : roundEven ((n : K) + 1 / 2) = if n % 2 = 0 then n else n + 1 := by
  rw [roundEven, floor_half]
  by_cases even : n % 2 = 0
  · rw [if_pos ⟨rfl, even⟩, if_pos even]
  · rw [if_neg (fun both => even both.2), if_neg even, Int.floor_eq_iff, Int.cast_add, Int.cast_one]
    constructor <;> linarith

/-- Every number is nearer than a half to an integer, or halfway between two. -/
theorem exists_near_or_half (q : K) : (∃ n : ℤ, |q - n| < 1 / 2) ∨ ∃ n : ℤ, q = n + 1 / 2 := by
  have lower := Int.floor_le q
  have upper := Int.lt_floor_add_one q
  rcases lt_trichotomy q (⌊q⌋ + 1 / 2) with below | half | above
  · refine Or.inl ⟨⌊q⌋, abs_lt.mpr ⟨?_, ?_⟩⟩ <;> linarith
  · exact Or.inr ⟨⌊q⌋, half⟩
  · refine Or.inl ⟨⌊q⌋ + 1, abs_lt.mpr ?_⟩
    rw [Int.cast_add, Int.cast_one]
    constructor <;> linarith

theorem roundEven_nonneg (h : 0 ≤ q) : 0 ≤ roundEven q := by
  rw [roundEven]
  split_ifs
  · exact Int.floor_nonneg.mpr h
  · exact Int.floor_nonneg.mpr (by linarith)

theorem roundEven_neg : roundEven (-q) = -roundEven q := by
  rcases exists_near_or_half q with ⟨n, near⟩ | ⟨n, half⟩
  · have opposite : |-q - (-n : ℤ)| < 1 / 2 := by
      rwa [Int.cast_neg, ← abs_neg, neg_sub, sub_neg_eq_add, neg_add_eq_sub]
    rw [roundEven_eq_of_near near, roundEven_eq_of_near opposite]
  · have opposite : -q = (-n - 1 : ℤ) + 1 / 2 := by
      rw [half, Int.cast_sub, Int.cast_neg, Int.cast_one]
      ring
    rw [opposite, half, roundEven_half, roundEven_half]
    split_ifs <;> omega

/-! ## Down to a multiple -/

section Down

variable {step : K}

theorem roundDown_le (positive : 0 < step) (q : K) : roundDown step q ≤ q := by
  have lower := (le_div_iff₀ positive).mp (Int.floor_le (q / step))
  rwa [roundDown, mul_comm]

theorem lt_roundDown_add (positive : 0 < step) (q : K) : q < roundDown step q + step := by
  have upper := (div_lt_iff₀ positive).mp (Int.lt_floor_add_one (q / step))
  rw [roundDown]
  linarith

theorem roundDown_mono (positive : 0 < step) (le : q ≤ r) :
    roundDown step q ≤ roundDown step r := by
  have floors : ⌊q / step⌋ ≤ ⌊r / step⌋ :=
    Int.floor_le_floor (div_le_div_of_nonneg_right le positive.le)
  exact mul_le_mul_of_nonneg_left (Int.cast_le.mpr floors) positive.le

/-- A multiple of the step below a number stays below it when it is rounded down. -/
theorem le_roundDown (positive : 0 < step) (le : step * n ≤ q) : step * n ≤ roundDown step q := by
  have floors : n ≤ ⌊q / step⌋ := by
    rw [Int.le_floor, le_div_iff₀ positive, mul_comm]
    exact le
  exact mul_le_mul_of_nonneg_left (Int.cast_le.mpr floors) positive.le

end Down

end FinanciaApp.Library
