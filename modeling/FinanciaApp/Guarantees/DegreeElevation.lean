import Mathlib.Analysis.Real.Sqrt
import FinanciaApp.Library.QuadraticBezier
import FinanciaApp.Source.PathAdditions

/-!
# Quadratic curves as cubic ones

Degree elevation gives the cubic controls of a quadratic curve. The cubic evaluator takes
the second control's `x` for both coordinates, so it finds the points of the quadratic one
only for the curves whose second elevated control has equal coordinates.
-/

set_option autoImplicit false

namespace FinanciaApp.Guarantees

open Library Source

universe u

variable {K : Type u} [Field K]

/-- The control of the elevated curve next to the given end. -/
def elevatedControl (nearEnd control : CGPoint K) : CGPoint K :=
  ⟨(nearEnd.x + 2 * control.x) / 3, (nearEnd.y + 2 * control.y) / 3⟩

section Coordinates

variable [CharZero K] (self target control : CGPoint K) (t : K)

theorem elevated_x :
    (self.pointCubic target t (elevatedControl self control) (elevatedControl target control)).x =
      (self.pointQuad target t control).x :=
  cubic_elevated self.x control.x target.x t

omit [CharZero K] in
/-- The `y` that the code evaluates: its second control is that of `x`. -/
theorem elevated_y :
    (self.pointCubic target t (elevatedControl self control) (elevatedControl target control)).y =
      cubic self.y ((self.y + 2 * control.y) / 3) ((target.x + 2 * control.x) / 3) target.y t :=
  rfl

theorem quadratic_y :
    (self.pointQuad target t control).y =
      cubic self.y ((self.y + 2 * control.y) / 3) ((target.y + 2 * control.y) / 3) target.y t :=
  (cubic_elevated self.y control.y target.y t).symm

end Coordinates

section Curves

variable [LinearOrder K] [IsStrictOrderedRing K]

theorem elevated_points_iff (self target control : CGPoint K) :
    (∀ t, self.pointCubic target t (elevatedControl self control)
        (elevatedControl target control) = self.pointQuad target t control) ↔
      target.x + 2 * control.x = target.y + 2 * control.y := by
  constructor
  · intro same
    have half := congrArg CGPoint.y (same (1 / 2))
    rw [elevated_y, quadratic_y] at half
    have third := cubic_half_inj half
    rwa [div_left_inj' three_ne_zero] at third
  · intro level t
    have second : (self.pointCubic target t (elevatedControl self control)
        (elevatedControl target control)).y = (self.pointQuad target t control).y := by
      rw [elevated_y, quadratic_y, level]
    rw [CGPoint.mk.injEq]
    exact ⟨elevated_x self target control t, second⟩

/-- The two evaluators, and so the two lengths, agree on these curves only. -/
theorem elevated_curve_agrees_iff (sqrt : K → K) (self target control : CGPoint K) :
    ((∀ t, self.pointCubic target t (elevatedControl self control)
          (elevatedControl target control) = self.pointQuad target t control) ∧
        self.curve sqrt target (elevatedControl self control) (elevatedControl target control) =
          self.quadCurve sqrt target control) ↔
      target.x + 2 * control.x = target.y + 2 * control.y := by
  constructor
  · rintro ⟨same, -⟩
    exact (elevated_points_iff self target control).mp same
  · intro level
    have same := (elevated_points_iff self target control).mpr level
    refine ⟨same, ?_⟩
    rw [CGPoint.curve, CGPoint.quadCurve]
    exact congrArg (CGPoint.chords sqrt) (funext same)

end Curves

/-- On the diagonal the slip has no effect. -/
theorem elevated_curve_agrees_iff_diagonal :
    (∀ t, (⟨0, 0⟩ : CGPoint ℝ).pointCubic ⟨1, 1⟩ t (elevatedControl ⟨0, 0⟩ ⟨1 / 2, 1 / 2⟩)
        (elevatedControl ⟨1, 1⟩ ⟨1 / 2, 1 / 2⟩) =
      (⟨0, 0⟩ : CGPoint ℝ).pointQuad ⟨1, 1⟩ t ⟨1 / 2, 1 / 2⟩) ∧
    (⟨0, 0⟩ : CGPoint ℝ).curve Real.sqrt ⟨1, 1⟩ (elevatedControl ⟨0, 0⟩ ⟨1 / 2, 1 / 2⟩)
        (elevatedControl ⟨1, 1⟩ ⟨1 / 2, 1 / 2⟩) =
      (⟨0, 0⟩ : CGPoint ℝ).quadCurve Real.sqrt ⟨1, 1⟩ ⟨1 / 2, 1 / 2⟩ :=
  (elevated_curve_agrees_iff Real.sqrt ⟨0, 0⟩ ⟨1, 1⟩ ⟨1 / 2, 1 / 2⟩).mpr rfl

/-- The line from `(0, 0)` to `(1, 0)` as a curve: its middle is evaluated at height 1/4. -/
theorem elevated_line_is_bent :
    ¬((∀ t, (⟨0, 0⟩ : CGPoint ℝ).pointCubic ⟨1, 0⟩ t (elevatedControl ⟨0, 0⟩ ⟨1 / 2, 0⟩)
          (elevatedControl ⟨1, 0⟩ ⟨1 / 2, 0⟩) =
        (⟨0, 0⟩ : CGPoint ℝ).pointQuad ⟨1, 0⟩ t ⟨1 / 2, 0⟩) ∧
      (⟨0, 0⟩ : CGPoint ℝ).curve Real.sqrt ⟨1, 0⟩ (elevatedControl ⟨0, 0⟩ ⟨1 / 2, 0⟩)
          (elevatedControl ⟨1, 0⟩ ⟨1 / 2, 0⟩) =
        (⟨0, 0⟩ : CGPoint ℝ).quadCurve Real.sqrt ⟨1, 0⟩ ⟨1 / 2, 0⟩) := by
  rintro ⟨same, -⟩
  have middle := congrArg CGPoint.y (same (1 / 2))
  norm_num [CGPoint.pointCubic, CGPoint.pointQuad, CGPoint.valueCubic, CGPoint.value,
    elevatedControl] at middle

end FinanciaApp.Guarantees
