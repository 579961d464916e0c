import FinanciaApp.Guarantees.ChordLength

/-!
# The length of the curve up to a place

The pieces of the curve form a chain of spans from 0 to the last data point. `length` is its
total, and `length(to:)`, which measures whole elements and cuts the one that passes the
place, is its measure before the place. So the percentage of `point(to:)` has a value.
-/

set_option autoImplicit false

namespace FinanciaApp.Guarantees

open Library Source

universe u

variable {K : Type u} [Field K] [LinearOrder K]

/-- The span has the lengths that the source measures on the piece. -/
structure Measures (sqrt : K → K) (piece : QuadPiece K) (span : Span K K) : Prop where
  start : span.start = piece.start.x
  stop : span.stop = piece.target.x
  full : piece.start.quadCurve sqrt piece.target piece.control = span.full
  cut : ∀ x, piece.start.quadCurveX sqrt piece.target piece.control x = some (span.cut x)

section Spans

variable [IsStrictOrderedRing K] {sqrt : K → K} (root : RootLike sqrt)

include root

theorem exists_span {piece : QuadPiece K} (advances : StrictMono fun t => (piece.point t).x) :
    ∃ span, Measures sqrt piece span := by
  refine ⟨curveSpan root advances, ?_, ?_, ?_, ?_⟩
  · rw [curveSpan_start, QuadPiece.point_zero]
  · rw [curveSpan_stop, QuadPiece.point_one]
  · exact chords_eq_full root advances
  · exact chordsX_eq_cut root advances

theorem exists_spans {pieces : List (QuadPiece K)}
    (advances : ∀ piece ∈ pieces, StrictMono fun t => (piece.point t).x) :
    ∃ spans, List.Forall₂ (Measures sqrt) pieces spans := by
  induction pieces with
  | nil => exact ⟨[], List.Forall₂.nil⟩
  | cons piece rest ih =>
    obtain ⟨span, measures⟩ := exists_span root (advances piece (by simp))
    obtain ⟨spans, later⟩ := ih fun other member => advances other (by simp [member])
    exact ⟨span :: spans, List.Forall₂.cons measures later⟩

end Spans

section Walk

variable {sqrt : K → K} {p q : CGPoint K} {pieces : List (QuadPiece K)} {spans : List (Span K K)}

theorem chained_spans (joined : Chained QuadPiece.start QuadPiece.target p q pieces)
    (measured : List.Forall₂ (Measures sqrt) pieces spans) :
    Chained Span.start Span.stop p.x q.x spans :=
  joined.transfer CGPoint.x
    (measured.imp fun _ _ measures => ⟨measures.start, measures.stop⟩)

theorem foldl_lengthStep (joined : Chained QuadPiece.start QuadPiece.target p q pieces)
    (measured : List.Forall₂ (Measures sqrt) pieces spans) (state : Source.Path.LengthState K)
    (here : state.point = p) :
    ((pieces.map QuadPiece.element).foldl (Source.Path.lengthStep sqrt) state).ret =
      state.ret + totalMeasure spans := by
  induction joined generalizing spans state with
  | nil p =>
    cases measured
    simp [totalMeasure]
  | cons piece later ih =>
    cases measured with
    | cons measures rest =>
      rw [List.map_cons, List.foldl_cons, QuadPiece.element, ih rest _ rfl, totalMeasure_cons,
        ← measures.full, ← add_assoc, ← here]
      rfl

theorem lengthToStep_finished (x : K) (state : Source.Path.LengthToState K)
    (element : PathElement K) (finished : state.finished = true) :
    Source.Path.lengthToStep sqrt x state element = some state :=
  if_pos finished

theorem foldlM_finished (x : K) (elements : List (PathElement K))
    (state : Source.Path.LengthToState K) (finished : state.finished = true) :
    elements.foldlM (Source.Path.lengthToStep sqrt x) state = some state := by
  induction elements with
  | nil => rfl
  | cons element rest ih =>
    rw [List.foldlM_cons, lengthToStep_finished x state element finished]
    exact ih

/-- Whole elements are measured until one passes the place, which is cut there. -/
theorem foldlM_lengthToStep (joined : Chained QuadPiece.start QuadPiece.target p q pieces)
    (measured : List.Forall₂ (Measures sqrt) pieces spans) (x : K)
    (state : Source.Path.LengthToState K) (here : state.point = p)
    (going : state.finished = false) :
    ((pieces.map QuadPiece.element).foldlM (Source.Path.lengthToStep sqrt x) state).map
        Source.Path.LengthToState.ret = some (state.ret + measureBefore x spans) := by
  induction joined generalizing spans state with
  | nil p =>
    cases measured
    simp [measureBefore]
  | cons piece later ih =>
    cases measured with
    | @cons _ span _ spans measures rest =>
      have running : ¬state.finished = true := by simp [going]
      rw [List.map_cons, List.foldlM_cons, QuadPiece.element, Source.Path.lengthToStep,
        if_neg running, here]
      by_cases inside : x < piece.target.x
      · rw [measureBefore_of_lt span _ (measures.stop ▸ inside)]
        simp only [inside, if_true, measures.cut, Option.bind_eq_bind, Option.bind_some]
        rw [foldlM_finished x _ _ rfl, Option.map_some]
      · rw [measureBefore_of_le span _ (measures.stop ▸ le_of_not_gt inside)]
        simp only [inside, if_false, measures.full, Option.bind_eq_bind, Option.bind_some]
        rw [← add_assoc]
        exact ih rest _ rfl going

theorem length_eq (joined : Chained QuadPiece.start QuadPiece.target p q pieces)
    (measured : List.Forall₂ (Measures sqrt) pieces spans) :
    Source.Path.length sqrt ⟨.move p :: pieces.map QuadPiece.element⟩ = totalMeasure spans := by
  rw [Source.Path.length, List.foldl_cons, foldl_lengthStep joined measured _ rfl]
  exact zero_add _

theorem lengthTo_eq (joined : Chained QuadPiece.start QuadPiece.target p q pieces)
    (measured : List.Forall₂ (Measures sqrt) pieces spans) (x : K) :
    Source.Path.lengthTo sqrt ⟨.move p :: pieces.map QuadPiece.element⟩ x =
      some (measureBefore x spans) := by
  rw [Source.Path.lengthTo, List.foldlM_cons, Source.Path.lengthToStep, if_neg Bool.false_ne_true]
  by_cases before : x < p.x
  · rw [measureBefore_eq_zero (chained_spans joined measured) before.le]
    simp only [before, if_true, Option.bind_eq_bind, Option.bind_some]
    rw [foldlM_finished x _ _ rfl, Option.map_some]
  · simp only [before, if_false, Option.bind_eq_bind, Option.bind_some]
    rw [foldlM_lengthToStep joined measured x _ rfl rfl, zero_add]

end Walk

section Curve

variable {points : List K} {step : CGPoint K}

omit [LinearOrder K] in
theorem getLastD_scaledPoints {offset : K} {p : CGPoint K} {ps : List (CGPoint K)}
    (scaled : scaledPoints step offset points = p :: ps) :
    (ps.getLastD p).x = step.x * ((points.length - 1 : ℕ) : K) := by
  have count : points.length = ps.length + 1 := by
    simpa using congrArg List.length scaled
  have last : (scaledPoints step offset points)[points.length - 1]? = some (ps.getLastD p) := by
    rw [scaled, count, Nat.add_sub_cancel, List.getLastD_eq_getLast?, ← List.getLast?_cons,
      List.getLast?_eq_getElem?, List.length_cons, Nat.add_sub_cancel]
  exact scaledPoints_x last

section Measured

variable [IsStrictOrderedRing K] {sqrt : K → K}

/-- The curve as a chain of spans, which both lengths measure. -/
theorem exists_chain (root : RootLike sqrt) (globalOffset : Option K)
    (enough : 2 ≤ points.length) (forward : 0 < step.x) :
    ∃ spans : List (Span K K), spans ≠ [] ∧
      Chained Span.start Span.stop 0 (step.x * ((points.length - 1 : ℕ) : K)) spans ∧
      (Source.Path.quadCurvedPathWithPoints points step globalOffset).length sqrt =
        totalMeasure spans ∧
      ∀ x, (Source.Path.quadCurvedPathWithPoints points step globalOffset).lengthTo sqrt x =
        some (measureBefore x spans) := by
  obtain ⟨p, q, ps, scaled⟩ := exists_scaledPoints step (baseline globalOffset points) enough
  have pieces := quadCurvedPath_elements enough scaled
  have path : Source.Path.quadCurvedPathWithPoints points step globalOffset =
      ⟨.move p :: (curvePieces (p :: q :: ps)).map QuadPiece.element⟩ :=
    congrArg Source.Path.mk pieces
  have joined := chained_curvePieces p (q :: ps)
  have advances : ∀ piece ∈ curvePieces (p :: q :: ps),
      StrictMono fun t => (piece.point t).x := by
    intro piece member t u before
    obtain ⟨k, found⟩ := List.mem_iff_getElem?.mp member
    rw [← scaled] at found
    simp only [piece_x _ found]
    exact mul_lt_mul_of_pos_left (by linarith) (half_pos forward)
  obtain ⟨spans, measured⟩ := exists_spans root advances
  have chained := chained_spans joined measured
  rw [getLastD_scaledPoints scaled, first_x scaled] at chained
  refine ⟨spans, ?_, chained, ?_, ?_⟩
  · rintro rfl
    cases measured
  · rw [path]
    exact length_eq joined measured
  · intro x
    rw [path]
    exact lengthTo_eq joined measured x

end Measured

end Curve

/-- A percentage from 0 to 1 is inside the range that the path is trimmed to. -/
theorem trimRange_surrounds [IsStrictOrderedRing K] {percent : K} (share : percent ∈ Set.Icc 0 1) :
    (Source.Path.trimRange percent).1 ≤ percent ∧ percent ≤ (Source.Path.trimRange percent).2 ∧
      (Source.Path.trimRange percent).2 ≤ 1 := by
  have kept : (if 1 < percent then 0 else if percent < 0 then 1 else percent) = percent := by
    rw [if_neg share.2.not_gt, if_neg share.1.not_gt]
  have distance : (0 : K) < 1 / 1000 := by norm_num
  simp only [Source.Path.trimRange, kept]
  split_ifs with complete
  · exact ⟨complete.le, share.2, le_rfl⟩
  · exact ⟨by linarith, by linarith, by linarith⟩

/-- The lengths of the curve, and the percentage of `point(to:)`. -/
theorem length_to_is_share_of_length (points : List ℝ) (step : CGPoint ℝ)
    (globalOffset : Option ℝ) (enough : 2 ≤ points.length) (forward : 0 < step.x) :
    0 < (Source.Path.quadCurvedPathWithPoints points step globalOffset).length Real.sqrt ∧
    ∃ sub : ℝ → ℝ,
      (∀ x, (Source.Path.quadCurvedPathWithPoints points step globalOffset).lengthTo Real.sqrt x =
        some (sub x)) ∧
      Monotone sub ∧
      (∀ x ≤ 0, sub x = 0) ∧
      (∀ x, step.x * ((points.length - 1 : ℕ) : ℝ) ≤ x → sub x =
        (Source.Path.quadCurvedPathWithPoints points step globalOffset).length Real.sqrt) ∧
      ∀ x, ∃ percent ∈ Set.Icc (0 : ℝ) 1,
        (Source.Path.quadCurvedPathWithPoints points step globalOffset).percentTo Real.sqrt x =
          some percent := by
  obtain ⟨spans, nonempty, chained, length, lengthTo⟩ :=
    exists_chain rootLike_sqrt globalOffset enough forward
  have positive : 0 < totalMeasure spans := totalMeasure_pos nonempty
  rw [length]
  refine ⟨positive, fun x => measureBefore x spans, lengthTo, ?_, ?_, ?_, ?_⟩
  · intro x y le
    exact measureBefore_mono spans le
  · intro x before
    exact measureBefore_eq_zero chained before
  · intro x beyond
    apply measureBefore_eq_totalMeasure
    intro span member
    exact (stop_le_of_chained chained span member).trans beyond
  · intro x
    refine ⟨measureBefore x spans / totalMeasure spans, ⟨?_, ?_⟩, ?_⟩
    · exact div_nonneg (measureBefore_nonneg x spans) positive.le
    · exact (div_le_one positive).mpr (measureBefore_le_totalMeasure x spans)
    · simp [Source.Path.percentTo, length, lengthTo, positive.ne']

/-- Two values and a step to the right. -/
theorem length_to_is_share_of_length_pair :
    2 ≤ [1, (2 : ℝ)].length ∧ (0 : ℝ) < 3 ∧
    0 < (Source.Path.quadCurvedPathWithPoints [1, 2] ⟨3, 1⟩ none).length Real.sqrt :=
  ⟨by simp, by norm_num,
    (length_to_is_share_of_length [1, 2] ⟨3, 1⟩ none (by simp) (by norm_num)).1⟩

end FinanciaApp.Guarantees
