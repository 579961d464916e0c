import Mathlib.Order.Interval.Set.UnorderedInterval
import FinanciaApp.Guarantees.PathEdges
import FinanciaApp.Library.Chaining
import FinanciaApp.Source.ATCLineChart

/-!
# The curve through the data

The control point of each piece has the height of its data point and lies halfway in `x`.
So `x` is affine on every piece, with the same speed on all of them, and the three values
that determine `y` lie between the two neighbouring data points.
-/

set_option autoImplicit false

namespace FinanciaApp.Guarantees

open Library Source

universe u

variable {K : Type u} [Field K] [LinearOrder K] [IsStrictOrderedRing K]

/-- The sign-dependent correction always ends at the height of the second point. -/
theorem controlPointForPoints_eq (p1 p2 : CGPoint K) :
    CGPoint.controlPointForPoints p1 p2 = ⟨(p1.x + p2.x) / 2, p2.y⟩ := by
  have offset : p2.y - (p1.y + p2.y) / 2 = (p2.y - p1.y) / 2 := by ring
  simp only [CGPoint.controlPointForPoints, CGPoint.midPointForPoints, offset]
  rcases lt_trichotomy p1.y p2.y with up | level | down
  · have size : |(p2.y - p1.y) / 2| = (p2.y - p1.y) / 2 := abs_of_nonneg (by linarith)
    rw [if_pos up, size, CGPoint.mk.injEq]
    exact ⟨rfl, by ring⟩
  · rw [if_neg level.not_lt, if_neg level.symm.not_lt, CGPoint.mk.injEq]
    exact ⟨rfl, by rw [level]; ring⟩
  · have size : |(p2.y - p1.y) / 2| = -((p2.y - p1.y) / 2) := abs_of_nonpos (by linarith)
    rw [if_neg down.not_gt, if_pos down, size, CGPoint.mk.injEq]
    exact ⟨rfl, by ring⟩

section Halves

variable (p q : CGPoint K) (t : K)

theorem firstHalf_x : ((firstHalf p q).point t).x = p.x + t * ((q.x - p.x) / 2) := by
  rw [QuadPiece.point_x, firstHalf, controlPointForPoints_eq]
  simp only [CGPoint.midPointForPoints]
  rw [add_comm _ p.x, quadratic_midpoint]
  ring

theorem secondHalf_x :
    ((secondHalf p q).point t).x = p.x + (1 + t) * ((q.x - p.x) / 2) := by
  rw [QuadPiece.point_x, secondHalf, controlPointForPoints_eq]
  simp only [CGPoint.midPointForPoints]
  rw [quadratic_midpoint]
  ring

theorem firstHalf_velocity_one :
    (firstHalf p q).velocity 1 = ⟨(q.x - p.x) / 2, q.y - p.y⟩ := by
  rw [QuadPiece.velocity, firstHalf, controlPointForPoints_eq]
  simp only [CGPoint.midPointForPoints, quadraticVelocity_one, CGPoint.mk.injEq]
  exact ⟨by ring, by ring⟩

theorem firstHalf_velocity_zero : (firstHalf p q).velocity 0 = ⟨(q.x - p.x) / 2, 0⟩ := by
  rw [QuadPiece.velocity, firstHalf, controlPointForPoints_eq]
  simp only [CGPoint.midPointForPoints, quadraticVelocity_zero, CGPoint.mk.injEq]
  exact ⟨by ring, by ring⟩

theorem secondHalf_velocity_zero :
    (secondHalf p q).velocity 0 = ⟨(q.x - p.x) / 2, q.y - p.y⟩ := by
  rw [QuadPiece.velocity, secondHalf, controlPointForPoints_eq]
  simp only [CGPoint.midPointForPoints, quadraticVelocity_zero, CGPoint.mk.injEq]
  exact ⟨by ring, by ring⟩

theorem secondHalf_velocity_one : (secondHalf p q).velocity 1 = ⟨(q.x - p.x) / 2, 0⟩ := by
  rw [QuadPiece.velocity, secondHalf, controlPointForPoints_eq]
  simp only [CGPoint.midPointForPoints, quadraticVelocity_one, CGPoint.mk.injEq]
  exact ⟨by ring, by ring⟩

end Halves

section Between

variable {a b c t : K}

theorem midpoint_mem_uIcc (a b : K) : (a + b) / 2 ∈ Set.uIcc a b := by
  rw [Set.mem_uIcc]
  rcases le_total a b with le | le
  · exact Or.inl ⟨by linarith, by linarith⟩
  · exact Or.inr ⟨by linarith, by linarith⟩

theorem quadratic_mem_uIcc {s e : K} (hs : s ∈ Set.uIcc a b) (hc : c ∈ Set.uIcc a b)
    (he : e ∈ Set.uIcc a b) (ht : t ∈ Set.Icc 0 1) : quadratic s c e t ∈ Set.uIcc a b :=
  quadratic_mem_Icc hs hc he ht

/-- No overshoot on the first half of a pair. -/
theorem firstHalf_y_mem (p q : CGPoint K) (ht : t ∈ Set.Icc 0 1) :
    ((firstHalf p q).point t).y ∈ Set.uIcc p.y q.y := by
  rw [QuadPiece.point_y, firstHalf, controlPointForPoints_eq]
  exact quadratic_mem_uIcc Set.left_mem_uIcc Set.left_mem_uIcc (midpoint_mem_uIcc _ _) ht

theorem secondHalf_y_mem (p q : CGPoint K) (ht : t ∈ Set.Icc 0 1) :
    ((secondHalf p q).point t).y ∈ Set.uIcc p.y q.y := by
  rw [QuadPiece.point_y, secondHalf, controlPointForPoints_eq]
  exact quadratic_mem_uIcc (midpoint_mem_uIcc _ _) Set.right_mem_uIcc Set.right_mem_uIcc ht

end Between

omit [IsStrictOrderedRing K] in
/-- The pieces at the even indices are the first halves of the neighbouring pairs, those at
the odd indices the second halves. -/
theorem curvePieces_getElem? {scaled : List (CGPoint K)} {k : ℕ} {piece : QuadPiece K}
    (found : (curvePieces scaled)[k]? = some piece) :
    ∃ i p q, scaled[i]? = some p ∧ scaled[i + 1]? = some q ∧
      (k = 2 * i ∧ piece = firstHalf p q ∨ k = 2 * i + 1 ∧ piece = secondHalf p q) := by
  induction scaled using curvePieces.induct generalizing k with
  | case1 p q rest ih =>
    rw [curvePieces] at found
    rcases k with _ | _ | k
    · exact ⟨0, p, q, rfl, rfl, Or.inl ⟨rfl, Option.some.inj found.symm⟩⟩
    · exact ⟨0, p, q, rfl, rfl, Or.inr ⟨rfl, Option.some.inj found.symm⟩⟩
    · obtain ⟨i, p', q', hp, hq, half⟩ := ih found
      refine ⟨i + 1, p', q', hp, hq, ?_⟩
      rcases half with ⟨rfl, same⟩ | ⟨rfl, same⟩
      · exact Or.inl ⟨rfl, same⟩
      · exact Or.inr ⟨rfl, same⟩
  | case2 scaled short =>
    rw [curvePieces] at found
    · cases found
    · exact short

section Pair

variable {scaled : List (CGPoint K)} {i : ℕ} {p q : CGPoint K} {piece : QuadPiece K}

omit [IsStrictOrderedRing K] in
theorem eq_firstHalf (hp : scaled[i]? = some p) (hq : scaled[i + 1]? = some q)
    (found : (curvePieces scaled)[2 * i]? = some piece) : piece = firstHalf p q := by
  obtain ⟨j, p', q', hp', hq', ⟨index, same⟩ | ⟨index, -⟩⟩ := curvePieces_getElem? found
  · obtain rfl : i = j := by omega
    obtain rfl : p = p' := Option.some.inj (hp.symm.trans hp')
    obtain rfl : q = q' := Option.some.inj (hq.symm.trans hq')
    exact same
  · omega

omit [IsStrictOrderedRing K] in
theorem eq_secondHalf (hp : scaled[i]? = some p) (hq : scaled[i + 1]? = some q)
    (found : (curvePieces scaled)[2 * i + 1]? = some piece) : piece = secondHalf p q := by
  obtain ⟨j, p', q', hp', hq', ⟨index, -⟩ | ⟨index, same⟩⟩ := curvePieces_getElem? found
  · omega
  · obtain rfl : i = j := by omega
    obtain rfl : p = p' := Option.some.inj (hp.symm.trans hp')
    obtain rfl : q = q' := Option.some.inj (hq.symm.trans hq')
    exact same

end Pair

omit [IsStrictOrderedRing K] in
theorem chained_curvePieces (p : CGPoint K) (ps : List (CGPoint K)) :
    Chained QuadPiece.start QuadPiece.target p (ps.getLastD p) (curvePieces (p :: ps)) := by
  induction ps generalizing p with
  | nil => exact Chained.nil p
  | cons q qs ih =>
    rw [List.getLastD_cons, curvePieces]
    exact Chained.cons (firstHalf p q) (Chained.cons (secondHalf p q) (ih q))

/-- Where the pieces start and end. -/
def pieceNodes (pieces : List (QuadPiece K)) : List (CGPoint K) :=
  (pieces.head?.map QuadPiece.start).toList ++ pieces.map QuadPiece.target

omit [IsStrictOrderedRing K] in
theorem targets_getElem? (p : CGPoint K) (ps : List (CGPoint K)) (i : ℕ) :
    (p :: (curvePieces (p :: ps)).map QuadPiece.target)[2 * i]? = (p :: ps)[i]? := by
  induction ps generalizing p i with
  | nil =>
    cases i with
    | zero => rfl
    | succ i => simp [curvePieces, Nat.mul_succ]
  | cons q qs ih =>
    cases i with
    | zero => rfl
    | succ i =>
      rw [Nat.mul_succ, List.getElem?_cons_succ, curvePieces, List.map_cons, List.map_cons,
        List.getElem?_cons_succ, List.getElem?_cons_succ]
      exact ih q i

/-- The pieces lead through the scaled data points, forward in `x`, with equal velocities
where they meet, and between two neighbouring points no higher and no lower than these. -/
structure FollowsData (scaled : List (CGPoint K)) (pieces : List (QuadPiece K)) : Prop where
  passes : ∀ i : ℕ, (pieceNodes pieces)[2 * i]? = scaled[i]?
  advances : ∀ (i j : ℕ) (first second : QuadPiece K) (t u : K),
    pieces[i]? = some first → pieces[j]? = some second → t ∈ Set.Icc 0 1 → u ∈ Set.Icc 0 1 →
      (i : K) + t < j + u → (first.point t).x < (second.point u).x
  joins : ∀ (i : ℕ) (first second : QuadPiece K),
    pieces[i]? = some first → pieces[i + 1]? = some second →
      first.point 1 = second.point 0 ∧ first.velocity 1 = second.velocity 0
  between : ∀ (i : ℕ) (p q : CGPoint K) (piece : QuadPiece K) (t : K),
    scaled[i]? = some p → scaled[i + 1]? = some q →
      pieces[2 * i]? = some piece ∨ pieces[2 * i + 1]? = some piece → t ∈ Set.Icc 0 1 →
        (piece.point t).y ∈ Set.uIcc p.y q.y

section Scaled

variable {points : List K} {step : CGPoint K} {offset : K}

omit [LinearOrder K] [IsStrictOrderedRing K] in
theorem scaledPoints_x {i : ℕ} {p : CGPoint K}
    (found : (scaledPoints step offset points)[i]? = some p) : p.x = step.x * i := by
  rw [scaledPoints_getElem?, Option.map_eq_some_iff] at found
  obtain ⟨value, -, rfl⟩ := found
  rfl

omit [LinearOrder K] [IsStrictOrderedRing K] in
theorem first_x {p : CGPoint K} {ps : List (CGPoint K)}
    (scaled : scaledPoints step offset points = p :: ps) : p.x = 0 := by
  have first : (scaledPoints step offset points)[0]? = some p := congrArg (·[0]?) scaled
  rw [scaledPoints_x first, Nat.cast_zero, mul_zero]

/-- All pieces advance with the same speed. -/
theorem piece_x {k : ℕ} {piece : QuadPiece K} (t : K)
    (found : (curvePieces (scaledPoints step offset points))[k]? = some piece) :
    (piece.point t).x = step.x / 2 * (k + t) := by
  obtain ⟨i, p, q, hp, hq, half⟩ := curvePieces_getElem? found
  rcases half with ⟨rfl, rfl⟩ | ⟨rfl, rfl⟩
  · rw [firstHalf_x, scaledPoints_x hp, scaledPoints_x hq]
    push_cast
    ring
  · rw [secondHalf_x, scaledPoints_x hp, scaledPoints_x hq]
    push_cast
    ring

theorem piece_joins {k : ℕ} {first second : QuadPiece K}
    (hfirst : (curvePieces (scaledPoints step offset points))[k]? = some first)
    (hsecond : (curvePieces (scaledPoints step offset points))[k + 1]? = some second) :
    first.point 1 = second.point 0 ∧ first.velocity 1 = second.velocity 0 := by
  rw [QuadPiece.point_one, QuadPiece.point_zero]
  obtain ⟨i, p, q, hp, hq, ⟨rfl, rfl⟩ | ⟨rfl, rfl⟩⟩ := curvePieces_getElem? hfirst
  -- The two halves of one pair meet in its midpoint.
  · obtain rfl := eq_secondHalf hp hq hsecond
    exact ⟨rfl, by rw [firstHalf_velocity_one, secondHalf_velocity_zero]⟩
  -- Two pairs meet in a data point, where both are level.
  · obtain ⟨j, q', r, hq', hr, ⟨next, rfl⟩ | ⟨next, rfl⟩⟩ := curvePieces_getElem? hsecond
    · obtain rfl : j = i + 1 := by omega
      obtain rfl : q = q' := Option.some.inj (hq.symm.trans hq')
      refine ⟨rfl, ?_⟩
      rw [secondHalf_velocity_one, firstHalf_velocity_zero, scaledPoints_x hp,
        scaledPoints_x hq, scaledPoints_x hr, CGPoint.mk.injEq]
      push_cast
      exact ⟨by ring, rfl⟩
    · omega

theorem followsData (enough : 2 ≤ points.length) (hx : 0 < step.x) :
    FollowsData (scaledPoints step offset points)
      (curvePieces (scaledPoints step offset points)) where
  passes := by
    intro i
    obtain ⟨p, q, ps, scaled⟩ := exists_scaledPoints step offset enough
    rw [scaled]
    exact targets_getElem? p (q :: ps) i
  advances := by
    intro i j first second t u hfirst hsecond _ _ before
    rw [piece_x t hfirst, piece_x u hsecond]
    exact mul_lt_mul_of_pos_left before (half_pos hx)
  joins := by
    intro i first second hfirst hsecond
    exact piece_joins hfirst hsecond
  between := by
    intro i p q piece t hp hq found ht
    rcases found with found | found
    · rw [eq_firstHalf hp hq found]
      exact firstHalf_y_mem p q ht
    · rw [eq_secondHalf hp hq found]
      exact secondHalf_y_mem p q ht

end Scaled

end FinanciaApp.Guarantees
