import Mathlib
import FinanciaApp.Library.Chaining
import FinanciaApp.Library.QuadraticBezier

/-!
# Areas along arcs

For a straight or quadratic arc in the plane: the area between the arc and the axis, and
the area of the sector that it sweeps from the origin, clockwise. The two differ by half of
`x * y` at the ends, so around a closed chain of arcs they have the same sum.
-/

set_option autoImplicit false

namespace FinanciaApp.Library

universe u

inductive Arc (K : Type u) where
  | line (p q : K × K)
  | quadratic (p c q : K × K)

variable {K : Type u} [Field K]

namespace Arc

def start : Arc K → K × K
  | line p _ => p
  | quadratic p _ _ => p

def stop : Arc K → K × K
  | line _ q => q
  | quadratic _ _ q => q

def cross (p q : K × K) : K :=
  q.1 * p.2 - p.1 * q.2

/-- The integral of `y dx`; the trapezoid under a line. -/
def under : Arc K → K
  | line p q => (p.2 + q.2) / 2 * (q.1 - p.1)
  | quadratic p c q =>
    p.2 * ((c.1 - p.1) / 2 + (q.1 - c.1) / 6) + c.2 * ((q.1 - p.1) / 3) +
      q.2 * ((c.1 - p.1) / 6 + (q.1 - c.1) / 2)

/-- The integral of `(y dx - x dy) / 2`; the triangle with the origin over a line. -/
def sector : Arc K → K
  | line p q => cross p q / 2
  | quadratic p c q => (2 * cross p c + 2 * cross c q + cross p q) / 6

/-- Integration by parts. -/
theorem under_eq [CharZero K] (arc : Arc K) :
    arc.under = arc.sector + (arc.stop.1 * arc.stop.2 - arc.start.1 * arc.start.2) / 2 := by
  cases arc with
  | line p q =>
    simp only [under, sector, cross, start, stop]
    ring
  | quadratic p c q =>
    simp only [under, sector, cross, start, stop]
    field_simp
    ring

end Arc

variable [CharZero K] {p q : K × K} {arcs : List (Arc K)}

theorem sum_under (chained : Chained Arc.start Arc.stop p q arcs) :
    (arcs.map Arc.under).sum =
      (arcs.map Arc.sector).sum + (q.1 * q.2 - p.1 * p.2) / 2 := by
  induction chained with
  | nil p => simp
  | cons arc linked ih =>
    rw [List.map_cons, List.map_cons, List.sum_cons, List.sum_cons, ih, arc.under_eq]
    ring

/-- Around a closed chain the sectors have the area under the arcs. -/
theorem sum_sector (closed : Chained Arc.start Arc.stop p p arcs) :
    (arcs.map Arc.sector).sum = (arcs.map Arc.under).sum := by
  rw [sum_under closed, sub_self, zero_div, add_zero]

section Integrals

theorem integral_cubic_polynomial (a b c d : ℝ) :
    ∫ t in (0 : ℝ)..1, (a + b * t + c * t ^ 2 + d * t ^ 3) = a + b / 2 + c / 3 + d / 4 := by
  have integrable (f : ℝ → ℝ) (continuous : Continuous f) :
      IntervalIntegrable f MeasureTheory.volume 0 1 :=
    continuous.intervalIntegrable 0 1
  rw [intervalIntegral.integral_add, intervalIntegral.integral_add, intervalIntegral.integral_add]
  · have linear : ∫ t in (0 : ℝ)..1, b * t = b * (1 / 2) := by
      rw [intervalIntegral.integral_const_mul b fun t => t, integral_id]
      norm_num
    simp only [linear, intervalIntegral.integral_const_mul, intervalIntegral.integral_const,
      integral_pow]
    norm_num
    ring
  all_goals
    apply integrable
    fun_prop

/-- The closed form of `under` is the integral along the arc. -/
theorem integral_under (p c q : ℝ × ℝ) :
    ∫ t in (0 : ℝ)..1, quadratic p.2 c.2 q.2 t * quadraticVelocity p.1 c.1 q.1 t =
      (Arc.quadratic p c q).under := by
  have expanded (t : ℝ) : quadratic p.2 c.2 q.2 t * quadraticVelocity p.1 c.1 q.1 t =
      2 * p.2 * (c.1 - p.1) +
        (2 * p.2 * (p.1 - 2 * c.1 + q.1) + 4 * (c.2 - p.2) * (c.1 - p.1)) * t +
        (4 * (c.2 - p.2) * (p.1 - 2 * c.1 + q.1) +
          2 * (p.2 - 2 * c.2 + q.2) * (c.1 - p.1)) * t ^ 2 +
        2 * (p.2 - 2 * c.2 + q.2) * (p.1 - 2 * c.1 + q.1) * t ^ 3 := by
    unfold quadratic quadraticVelocity
    ring
  simp only [expanded, integral_cubic_polynomial, Arc.under]
  ring

/-- The closed form of `sector` is the integral along the arc. -/
theorem integral_sector (p c q : ℝ × ℝ) :
    ∫ t in (0 : ℝ)..1, (quadratic p.2 c.2 q.2 t * quadraticVelocity p.1 c.1 q.1 t -
        quadratic p.1 c.1 q.1 t * quadraticVelocity p.2 c.2 q.2 t) / 2 =
      (Arc.quadratic p c q).sector := by
  have expanded (t : ℝ) : (quadratic p.2 c.2 q.2 t * quadraticVelocity p.1 c.1 q.1 t -
        quadratic p.1 c.1 q.1 t * quadraticVelocity p.2 c.2 q.2 t) / 2 =
      Arc.cross p c + (Arc.cross p q - 2 * Arc.cross p c) * t +
        (Arc.cross p c - Arc.cross p q + Arc.cross c q) * t ^ 2 + 0 * t ^ 3 := by
    unfold quadratic quadraticVelocity Arc.cross
    ring
  simp only [expanded, integral_cubic_polynomial, Arc.sector]
  ring

end Integrals

end FinanciaApp.Library
