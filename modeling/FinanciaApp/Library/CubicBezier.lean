import FinanciaApp.Library.QuadraticBezier

/-!
# One coordinate of a cubic Bézier piece

The piece written with the differences of its successive controls: where none of them is
negative, the piece never goes back, and where they are not all zero it is strictly increasing
(`cubic_strictMonoOn`).
-/

set_option autoImplicit false

namespace FinanciaApp.Library

universe u

section Differences

variable {K : Type u} [Field K]

theorem cubic_of_differences (p c d q t : K) :
    cubic p c d q t =
      p + (c - p) * (1 - (1 - t) ^ 3) + (d - c) * (3 * t ^ 2 - 2 * t ^ 3) + (q - d) * t ^ 3 := by
  unfold cubic
  ring

@[simp] theorem cubic_zero (p c d q : K) : cubic p c d q 0 = p := by
  simp [cubic]

@[simp] theorem cubic_one (p c d q : K) : cubic p c d q 1 = q := by
  simp [cubic]

variable [LinearOrder K] [IsStrictOrderedRing K]

theorem cube_lt_cube {s t : K} (nonneg : 0 ≤ s) (less : s < t) : s ^ 3 < t ^ 3 :=
  pow_lt_pow_left₀ less nonneg (by norm_num)

/-- The weight of the middle difference increases. -/
theorem smoothstep_lt {s t : K} (nonneg : 0 ≤ s) (less : s < t) (atMost : t ≤ 1) :
    3 * s ^ 2 - 2 * s ^ 3 < 3 * t ^ 2 - 2 * t ^ 3 := by
  have positive : 0 < t - s := sub_pos.mpr less
  have factor : 0 < 3 * (t + s) - 2 * (t ^ 2 + t * s + s ^ 2) := by
    nlinarith [mul_nonneg nonneg (sub_nonneg.mpr atMost), mul_pos positive positive,
      mul_nonneg nonneg (sub_nonneg.mpr (less.le.trans atMost))]
  have product := mul_pos positive factor
  linarith [product, (by ring : (t - s) * (3 * (t + s) - 2 * (t ^ 2 + t * s + s ^ 2)) =
    3 * t ^ 2 - 2 * t ^ 3 - (3 * s ^ 2 - 2 * s ^ 3))]

/-- A piece whose controls do not go back, and do not stay, is strictly increasing. -/
theorem cubic_strictMonoOn {p c d q : K} (first : p ≤ c) (second : c ≤ d) (third : d ≤ q)
    (ends : p < q) : StrictMonoOn (cubic p c d q) (Set.Icc 0 1) := by
  intro s sIn t tIn less
  have early := cube_lt_cube (sub_nonneg.mpr tIn.2) (sub_lt_sub_left less 1)
  have middle := smoothstep_lt sIn.1 less tIn.2
  have late := cube_lt_cube sIn.1 less
  have one : (c - p) * (1 - (1 - s) ^ 3) ≤ (c - p) * (1 - (1 - t) ^ 3) :=
    mul_le_mul_of_nonneg_left (by linarith) (sub_nonneg.mpr first)
  have two : (d - c) * (3 * s ^ 2 - 2 * s ^ 3) ≤ (d - c) * (3 * t ^ 2 - 2 * t ^ 3) :=
    mul_le_mul_of_nonneg_left middle.le (sub_nonneg.mpr second)
  have three : (q - d) * s ^ 3 ≤ (q - d) * t ^ 3 :=
    mul_le_mul_of_nonneg_left late.le (sub_nonneg.mpr third)
  rw [cubic_of_differences, cubic_of_differences]
  -- one of the three differences is positive
  rcases lt_or_eq_of_le first with moves | stays
  · have strict : (c - p) * (1 - (1 - s) ^ 3) < (c - p) * (1 - (1 - t) ^ 3) :=
      mul_lt_mul_of_pos_left (by linarith) (sub_pos.mpr moves)
    linarith
  · rcases lt_or_eq_of_le second with moves | staysToo
    · have strict := mul_lt_mul_of_pos_left middle (sub_pos.mpr moves)
      linarith
    · have strict := mul_lt_mul_of_pos_left late (sub_pos.mpr (by linarith : d < q))
      linarith

end Differences

end FinanciaApp.Library
