import Mathlib.Analysis.Real.Sqrt
import FinanciaApp.Guarantees.CurvedPath
import FinanciaApp.Library.Cutting

/-!
# The chords of a piece

A chord that goes forward in `x` is a span that `line(to:x:)` cuts, so the hundred chords of
a piece that goes forward are one span. The loops over the chords give its full length and
its length up to a place, with a value at every place.
-/

set_option autoImplicit false

namespace FinanciaApp.Guarantees

open Library Source

universe u

variable {K : Type u} [Field K] [LinearOrder K] [IsStrictOrderedRing K]

section Chord

variable (sqrt : K → K)

def chordSlope (a b : CGPoint K) : K :=
  (b.y - a.y) / (b.x - a.x)

/-- The length of the line from `a` towards `b` that goes `d` further in `x`. -/
def chordMeasure (a b : CGPoint K) (d : K) : K :=
  sqrt (d ^ 2 * (1 + chordSlope a b ^ 2))

variable {a b : CGPoint K} {x : K}

omit [LinearOrder K] [IsStrictOrderedRing K] in
theorem dist_along (a b : CGPoint K) (x : K) :
    a.dist sqrt ⟨x, a.y + (x - a.x) * chordSlope a b⟩ = chordMeasure sqrt a b (x - a.x) := by
  rw [CGPoint.dist, chordMeasure]
  congr 1
  ring

theorem line_eq_chordMeasure (forward : a.x < b.x) :
    a.line sqrt b = chordMeasure sqrt a b (b.x - a.x) := by
  have run : b.x - a.x ≠ 0 := (sub_pos.mpr forward).ne'
  have target : b = ⟨b.x, a.y + (b.x - a.x) * chordSlope a b⟩ := by
    rw [chordSlope, mul_div_cancel₀ _ run, add_sub_cancel]
  rw [← dist_along, CGPoint.line]
  exact congrArg (a.dist sqrt) target

theorem lineX_eq_chordMeasure (forward : a.x < b.x) :
    a.lineX sqrt b x = some (chordMeasure sqrt a b (x - a.x)) := by
  rw [CGPoint.lineX, CGPoint.pointX, if_neg (sub_pos.mpr forward).ne', Option.map_some,
    ← dist_along, chordSlope]

end Chord

section Root

/-- What the lengths use of the square root. -/
structure RootLike (sqrt : K → K) : Prop where
  zero : sqrt 0 = 0
  strictMono : StrictMonoOn sqrt (Set.Ici 0)

theorem rootLike_sqrt : RootLike Real.sqrt :=
  ⟨Real.sqrt_zero, Real.strictMonoOn_sqrt⟩

variable {sqrt : K → K} (root : RootLike sqrt) {a b : CGPoint K} {d e : K}

include root

theorem chordMeasure_mono (hd : 0 ≤ d) (le : d ≤ e) :
    chordMeasure sqrt a b d ≤ chordMeasure sqrt a b e := by
  have weight : 0 ≤ 1 + chordSlope a b ^ 2 := by positivity
  have squares : d ^ 2 ≤ e ^ 2 := pow_le_pow_left₀ hd le 2
  apply root.strictMono.monotoneOn
  · exact mul_nonneg (sq_nonneg d) weight
  · exact mul_nonneg (sq_nonneg e) weight
  · exact mul_le_mul_of_nonneg_right squares weight

omit [IsStrictOrderedRing K] in
theorem chordMeasure_zero : chordMeasure sqrt a b 0 = 0 := by
  rw [chordMeasure, zero_pow two_ne_zero, zero_mul, root.zero]

theorem chordMeasure_pos (hd : 0 < d) : 0 < chordMeasure sqrt a b d := by
  have inside : 0 < d ^ 2 * (1 + chordSlope a b ^ 2) := by positivity
  calc 0 = sqrt 0 := root.zero.symm
    _ < chordMeasure sqrt a b d := root.strictMono Set.self_mem_Ici inside.le inside

/-- A chord that goes forward, cut where `line(to:x:)` cuts it. -/
def chordSpan (a b : CGPoint K) (forward : a.x < b.x) : Span K K where
  start := a.x
  stop := b.x
  full := a.line sqrt b
  cut x := chordMeasure sqrt a b (max (x - a.x) 0)
  forward := forward
  positive := by
    rw [line_eq_chordMeasure sqrt forward]
    exact chordMeasure_pos root (sub_pos.mpr forward)
  cut_before := by
    intro x before
    rw [max_eq_right (sub_nonpos.mpr before), chordMeasure_zero root]
  cut_mono := by
    intro x y le _
    exact chordMeasure_mono root (le_max_right _ _) (max_le_max_right 0 (sub_le_sub_right le _))
  cut_le_full := by
    intro x inside
    rw [line_eq_chordMeasure sqrt forward]
    exact chordMeasure_mono root (le_max_right _ _)
      (max_le (sub_le_sub_right inside.le _) (sub_pos.mpr forward).le)

theorem chordSpan_cut (forward : a.x < b.x) {x : K} (after : a.x < x) :
    (chordSpan root a b forward).cut x = chordMeasure sqrt a b (x - a.x) := by
  have advance : max (x - a.x) 0 = x - a.x := max_eq_left (sub_pos.mpr after).le
  exact congrArg (chordMeasure sqrt a b) advance

end Root

section Curve

variable {sqrt : K → K} (root : RootLike sqrt) {point : K → CGPoint K}
  (advances : StrictMono fun t => (point t).x)

include advances in
theorem chord_forward (i : ℕ) :
    (point ((i : K) / 100)).x < (point (((i + 1 : ℕ) : K) / 100)).x := by
  apply advances
  apply div_lt_div_of_pos_right _ (by norm_num)
  exact_mod_cast i.lt_succ_self

def curveChord (i : ℕ) : Span K K :=
  chordSpan root _ _ (chord_forward advances i)

theorem chords_eq_totalMeasure :
    CGPoint.chords sqrt point =
      totalMeasure ((List.range 100).map (curveChord root advances)) := by
  rw [CGPoint.chords, totalMeasure, List.map_map, List.sum_eq_foldl, List.foldl_map]
  rfl

theorem chained_chords (k m : ℕ) :
    Chained Span.start Span.stop (point ((k : K) / 100)).x (point (((k + m : ℕ) : K) / 100)).x
      ((List.range' k m).map (curveChord root advances)) := by
  induction m generalizing k with
  | zero => exact Chained.nil _
  | succ m ih =>
    have later := ih (k + 1)
    rw [Nat.add_right_comm, Nat.add_assoc] at later
    exact Chained.cons (curveChord root advances k) later

/-- The loop stops at the chord that reaches `x`, and has measured what lies before. -/
theorem chordsX_eq_measureBefore (x dist : K) (k m : ℕ) :
    CGPoint.chordsX sqrt point x dist (List.range' k m) =
      some (dist + measureBefore x ((List.range' k m).map (curveChord root advances))) := by
  induction m generalizing k dist with
  | zero => simp [CGPoint.chordsX, measureBefore]
  | succ m ih =>
    have forward := chord_forward advances k
    have rest := chained_chords root advances (k + 1) m
    have chain := chained_chords root advances k (m + 1)
    rw [List.range'_succ, List.map_cons] at chain ⊢
    rw [CGPoint.chordsX]
    split_ifs with before inside reached
    · rw [measureBefore_eq_zero chain before, add_zero]
    · rw [measureBefore_of_lt (curveChord root advances k) _ inside,
        lineX_eq_chordMeasure sqrt forward, Option.map_some, curveChord,
        chordSpan_cut root forward (lt_of_not_ge before)]
    · rw [measureBefore_of_le (curveChord root advances k) _ reached.le,
        measureBefore_eq_zero rest reached.ge, add_zero]
      rfl
    · rw [measureBefore_of_le (curveChord root advances k) _ (le_of_not_gt inside), ih, add_assoc]
      rfl

/-- The hundred chords as one span. -/
def curveSpan : Span K K :=
  joinSpans (chained_chords root advances 0 100) (by simp)

theorem curveSpan_start : (curveSpan root advances).start = (point 0).x := by
  simp [curveSpan, joinSpans]

theorem curveSpan_stop : (curveSpan root advances).stop = (point 1).x := by
  simp [curveSpan, joinSpans]

theorem chords_eq_full : CGPoint.chords sqrt point = (curveSpan root advances).full := by
  rw [chords_eq_totalMeasure root advances, List.range_eq_range']
  rfl

theorem chordsX_eq_cut (x : K) :
    CGPoint.chordsX sqrt point x 0 (List.range 100) = some ((curveSpan root advances).cut x) := by
  rw [List.range_eq_range', chordsX_eq_measureBefore root advances, zero_add]
  rfl

end Curve

end FinanciaApp.Guarantees
