import FinanciaApp.Guarantees.ChartEntrySearch
import FinanciaApp.Library.CubicBezier
import FinanciaApp.Source.LineChartRenderer

/-!
# The line of a line chart

The x-values of the entries are strictly ascending, the animation is over, and the arithmetic is
exact.

* `line_follows_entries`: the line goes through a run of entries in their order and is smooth at
  each of them; all entries in view are among them, and it goes on to the next entry that is on or
  beyond each edge of the view.
* `line_of_numbers`: the line of a chart of numbers that is in view as a whole goes through all
  numbers, and never back.
-/

set_option autoImplicit false

namespace FinanciaApp.Guarantees

universe u

open Library Source Source.Charts ATCLineChartAdapter

section Spline

variable {K : Type u} [Field K]

/-- The entry at an index in range. -/
def entryAt (entries : List (ChartDataEntry K)) (index : Nat) : ChartDataEntry K :=
  entries.getD index ⟨0, 0⟩

theorem getElem?_eq_entryAt {entries : List (ChartDataEntry K)} {index : Nat}
    (bound : index < entries.length) : entries[index]? = some (entryAt entries index) := by
  simp [entryAt, bound]

theorem entryForIndex_natCast {entries : List (ChartDataEntry K)} {index : Nat}
    (bound : index < entries.length) :
    entryForIndex entries index = some (entryAt entries index) := by
  rw [entryForIndex, if_pos (Int.natCast_nonneg index), Int.toNat_natCast,
    getElem?_eq_entryAt bound]

/-- Where an entry is drawn. -/
def drawnAt (phaseY : K) (entry : ChartDataEntry K) : CGPoint K := ⟨entry.x, entry.y * phaseY⟩

/-- The curve to the entry at an index. -/
def curveTo (entries : List (ChartDataEntry K)) (cubicIntensity phaseY : K) (index : Nat) :
    PathElement K :=
  splineCurve cubicIntensity phaseY (entryAt entries (index - 2)) (entryAt entries (index - 1))
    (entryAt entries index) (entryAt entries (min (index + 1) (entries.length - 1)))

/-- The loop adds the curves to the entries at its indexes. -/
theorem splineLoop_eq (entries : List (ChartDataEntry K)) (cubicIntensity phaseY : K)
    {first count : Nat} (positive : 1 ≤ first) (inside : first + count ≤ entries.length)
    {oldNext : ChartDataEntry K} {oldNextIndex : Int}
    (known : oldNextIndex = first → oldNext = entryAt entries first) :
    splineLoop entries cubicIntensity phaseY count first (entryAt entries (first - 2))
        (entryAt entries (first - 1)) oldNext oldNextIndex =
      (List.range' first count).map (curveTo entries cubicIntensity phaseY) := by
  induction count generalizing first oldNext oldNextIndex with
  | zero => rfl
  | succ count ih =>
    have isCur : (if oldNextIndex = (first : Int) then some oldNext
        else entryForIndex entries first) = some (entryAt entries first) := by
      split
      · rename_i isNext
        rw [known isNext]
      · exact entryForIndex_natCast (by omega)
    have isNextIndex : (if (first : Int) + 1 < entries.length then (first : Int) + 1 else first) =
        (min (first + 1) (entries.length - 1) : Nat) := by
      split <;> omega
    have isNext := entryForIndex_natCast
      (by omega : min (first + 1) (entries.length - 1) < entries.length)
    have later : (min (first + 1) (entries.length - 1) : Nat) = ((first + 1 : Nat) : Int) →
        entryAt entries (min (first + 1) (entries.length - 1)) = entryAt entries (first + 1) :=
      fun same => by rw [Int.ofNat_inj.mp same]
    have rest := ih (by omega : 1 ≤ first + 1) (by omega) later
    rw [splineLoop]
    simp only [isCur, isNextIndex, isNext]
    rw [List.range'_succ, List.map_cons]
    refine List.cons_eq_cons.mpr ⟨rfl, ?_⟩
    exact_mod_cast rest

/-- A line from the entry at an index on, through the next ones. -/
def lineFrom (entries : List (ChartDataEntry K)) (cubicIntensity phaseY : K) (first count : Nat) :
    List (PathElement K) :=
  .move (drawnAt phaseY (entryAt entries first)) ::
    (List.range' (first + 1) count).map (curveTo entries cubicIntensity phaseY)

theorem drawCubicBezier_eq {entries : List (ChartDataEntry K)} (cubicIntensity phaseY : K)
    {first count : Nat} (positive : 1 ≤ count) (inside : first + count < entries.length) :
    drawCubicBezier entries ⟨first, first + count, count⟩ cubicIntensity phaseY =
      ⟨lineFrom entries cubicIntensity phaseY first count⟩ := by
  have isPrev : max ((first : Int) + 1 - 2) 0 = (first - 1 : Nat) := by omega
  have isCur : max ((first : Int) + 1 - 1) 0 = (first : Nat) := by omega
  have known : (-1 : Int) = ((first + 1 : Nat) : Int) →
      entryAt entries first = entryAt entries (first + 1) := fun same => absurd same (by omega)
  have loop : splineLoop entries cubicIntensity phaseY count ((first : Int) + 1)
      (entryAt entries (first - 1)) (entryAt entries first) (entryAt entries first) (-1) =
        (List.range' (first + 1) count).map (curveTo entries cubicIntensity phaseY) :=
    splineLoop_eq entries cubicIntensity phaseY (by omega : 1 ≤ first + 1)
      (by omega : first + 1 + count ≤ entries.length) known
  rw [drawCubicBezier, if_pos (by simpa using positive)]
  simp only [isPrev, isCur, entryForIndex_natCast (by omega : first - 1 < entries.length),
    entryForIndex_natCast (by omega : first < entries.length), Int.toNat_natCast, loop]
  rfl

/-- Where an element of a path ends. -/
def target : PathElement K → Option (CGPoint K)
  | .move target => some target
  | .line target => some target
  | .quadCurve target _ => some target
  | .curve target _ _ => some target
  | .closeSubpath => none

/-- One curve goes on in the direction, and with the speed, with which the one before ends. -/
def SmoothJoint : PathElement K → PathElement K → Prop
  | .curve target _ control2, .curve _ control1 _ =>
    target.x - control2.x = control1.x - target.x ∧ target.y - control2.y = control1.y - target.y
  | _, _ => True

theorem target_lineFrom (entries : List (ChartDataEntry K)) (cubicIntensity phaseY : K)
    (first count : Nat) :
    (lineFrom entries cubicIntensity phaseY first count).map target =
      (List.range' first (count + 1)).map
        (fun i => some (drawnAt phaseY (entryAt entries i))) := by
  rw [lineFrom, List.map_cons, List.map_map, List.range'_succ, List.map_cons]
  rfl

theorem smoothJoint_curveTo {entries : List (ChartDataEntry K)} (cubicIntensity phaseY : K)
    {index : Nat} (positive : 1 ≤ index) (inside : index + 1 < entries.length) :
    SmoothJoint (curveTo entries cubicIntensity phaseY index)
      (curveTo entries cubicIntensity phaseY (index + 1)) := by
  have next : min (index + 1) (entries.length - 1) = index + 1 := by omega
  have before : index + 1 - 2 = index - 1 := by omega
  simp only [SmoothJoint, curveTo, splineCurve, next, before, Nat.add_sub_cancel]
  constructor <;> ring

/-- The line is smooth wherever one curve follows another. -/
theorem smooth_curves {entries : List (ChartDataEntry K)} (cubicIntensity phaseY : K)
    {first count : Nat} (positive : 1 ≤ first) (inside : first + count ≤ entries.length) :
    ((List.range' first count).map
      (curveTo entries cubicIntensity phaseY)).IsChain SmoothJoint := by
  induction count generalizing first with
  | zero => exact List.IsChain.nil
  | succ count ih =>
    rw [List.range'_succ, List.map_cons]
    have rest := ih (by omega : 1 ≤ first + 1) (by omega)
    cases count with
    | zero => exact List.IsChain.singleton _
    | succ count =>
      rw [List.range'_succ, List.map_cons] at rest ⊢
      exact List.isChain_cons_cons.mpr
        ⟨smoothJoint_curveTo cubicIntensity phaseY positive (by omega), rest⟩

theorem smooth_lineFrom {entries : List (ChartDataEntry K)} (cubicIntensity phaseY : K)
    {first count : Nat} (inside : first + count < entries.length) :
    (lineFrom entries cubicIntensity phaseY first count).IsChain SmoothJoint := by
  have smooth := smooth_curves cubicIntensity phaseY (by omega : 1 ≤ first + 1)
    (by omega : first + 1 + count ≤ entries.length)
  rw [lineFrom]
  cases count with
  | zero => exact List.IsChain.singleton _
  | succ count =>
    rw [List.range'_succ, List.map_cons] at smooth ⊢
    exact List.isChain_cons_cons.mpr ⟨trivial, smooth⟩

end Spline

section Bounds

variable {K : Type u} [LinearOrder K] {entries : List (ChartDataEntry K)}

def StrictlyAscending (entries : List (ChartDataEntry K)) : Prop :=
  (entries.map ChartDataEntry.x).Pairwise (· < ·)

theorem StrictlyAscending.ascending (strict : StrictlyAscending entries) : Ascending entries :=
  strict.imp le_of_lt

variable [Field K]

theorem StrictlyAscending.lt_iff (strict : StrictlyAscending entries) {i j : Nat}
    (iBound : i < entries.length) (jBound : j < entries.length) :
    xAt entries i < xAt entries j ↔ i < j := by
  have forward {i j : Nat} (iBound : i < entries.length) (jBound : j < entries.length)
      (before : i < j) : xAt entries i < xAt entries j := by
    have ordered := List.pairwise_iff_getElem.mp strict i j (by simpa using iBound)
      (by simpa using jBound) before
    simpa [xAt_eq entries iBound, xAt_eq entries jBound] using ordered
  rcases Nat.lt_trichotomy i j with before | same | after
  · exact iff_of_true (forward iBound jBound before) before
  · subst same
    exact iff_of_false (lt_irrefl _) (Nat.lt_irrefl i)
  · exact iff_of_false (lt_asymm (forward jBound iBound after)) (Nat.lt_asymm after)

/-- The index of an entry is where the entry is. -/
theorem findIdx?_entry (strict : StrictlyAscending entries) {i : Nat}
    (bound : i < entries.length) :
    (entries.findIdx? fun other => other = entries[i]) = some i := by
  rw [List.findIdx?_eq_some_iff_getElem]
  refine ⟨bound, decide_eq_true rfl, fun j before isSame => ?_⟩
  have equal : entries[j] = entries[i] := of_decide_eq_true isSame
  have less := (strict.lt_iff (by omega : j < entries.length) bound).mpr before
  rw [xAt_eq entries (by omega), xAt_eq entries bound, equal] at less
  exact lt_irrefl _ less

variable [IsStrictOrderedRing K]

/-- Where the two roundings lead for a range of values that reaches into the entries. -/
theorem bounds_of_view (strict : StrictlyAscending entries) (several : 2 ≤ entries.length)
    {lowestVisibleX highestVisibleX : K} (range : lowestVisibleX < highestVisibleX)
    (firstLeft : xAt entries 0 < highestVisibleX)
    (lastRight : lowestVisibleX < xAt entries (entries.length - 1)) :
    ∃ first count, 1 ≤ count ∧ first + count < entries.length ∧
      roundedIndex entries lowestVisibleX .down = first ∧
      roundedIndex entries highestVisibleX .up = first + count ∧
      (∀ i < entries.length, lowestVisibleX ≤ xAt entries i → xAt entries i ≤ highestVisibleX →
        first ≤ i ∧ i ≤ first + count) ∧
      (first = 0 ∨ xAt entries first ≤ lowestVisibleX) ∧
      (first + count + 1 = entries.length ∨ highestVisibleX ≤ xAt entries (first + count)) ∧
      (∀ i, first < i → i < first + count →
        lowestVisibleX < xAt entries i ∧ xAt entries i < highestVisibleX) := by
  have nonempty : entries ≠ [] := List.length_pos_iff.mp (by omega)
  have ascending := strict.ascending
  obtain ⟨firstBound, exact_, before, after, atFirst⟩ :=
    roundedIndex_rounds ascending nonempty lowestVisibleX .down
  obtain ⟨lastBound, beforeLast, atLast⟩ :=
    roundedIndex_rounds ascending nonempty highestVisibleX .up
  generalize isFirst : roundedIndex entries lowestVisibleX .down = first at *
  generalize isLast : roundedIndex entries highestVisibleX .up = last at *
  have ordered : first < last := by
    by_contra notBefore
    have mono := xAt_mono ascending (Nat.not_lt.mp notBefore) firstBound
    rcases atLast with isRight | isEnd
    · rcases atFirst with isLeft | isZero
      · linarith
      · rw [isZero] at mono
        linarith
    · have isFinal : first = entries.length - 1 := by omega
      rcases atFirst with isLeft | isZero
      · rw [isFinal] at isLeft
        linarith
      · omega
  have isEnd : first + (last - first) = last := Nat.add_sub_cancel' ordered.le
  refine ⟨first, last - first, by omega, by omega, rfl, isEnd.symm, ?_, atFirst.symm, ?_, ?_⟩
  · intro i inside fromLow toHigh
    refine ⟨?_, ?_⟩
    · by_contra isBefore
      exact absurd (before i (by omega)) (not_lt.mpr fromLow)
    · by_contra isAfter
      have less := (strict.lt_iff lastBound inside).mpr (by omega)
      rcases atLast with isRight | isEnd
      · linarith
      · omega
  · rw [isEnd]
    exact atLast.symm
  · intro i isAfter isBefore
    have inside : i < entries.length := by omega
    have less := (strict.lt_iff firstBound inside).mpr isAfter
    refine ⟨lt_of_le_of_ne (after i inside isAfter) ?_, beforeLast i (by omega)⟩
    intro equal
    have atLow := exact_ i inside equal.symm
    linarith

variable [FloorRing K]

theorem xBounds_eq (strict : StrictlyAscending entries) (nonempty : entries ≠ [])
    (lowestVisibleX highestVisibleX : K) {phaseX : K} (ended : 1 ≤ phaseX) :
    xBounds lowestVisibleX highestVisibleX phaseX entries =
      let first := roundedIndex entries lowestVisibleX .down
      let last := roundedIndex entries highestVisibleX .up
      ⟨first, last, last - first⟩ := by
  have found (xValue : K) (rounding : ChartDataSetRounding) :
      ∃ bound : roundedIndex entries xValue rounding < entries.length,
        entryForXValue entries xValue none rounding =
          some entries[roundedIndex entries xValue rounding] := by
    have bound := (roundedIndex_rounds strict.ascending nonempty xValue rounding).1
    refine ⟨bound, ?_⟩
    rw [entryForXValue, entryIndex_eq strict.ascending nonempty xValue rounding, Option.bind_some,
      List.getElem?_eq_getElem bound]
  obtain ⟨firstBound, isFirst⟩ := found lowestVisibleX .down
  obtain ⟨lastBound, isLast⟩ := found highestVisibleX .up
  have phase : max 0 (min 1 phaseX) = (1 : K) := by
    rw [min_eq_left ended, max_eq_right zero_le_one]
  simp only [xBounds, isFirst, isLast, findIdx?_entry strict firstBound,
    findIdx?_entry strict lastBound, phase, mul_one, Int.floor_intCast, Int.ceil_intCast, ite_self]

/-- The first and the last entry of the line, where there is something to draw. -/
theorem line_eq (strict : StrictlyAscending entries) (nonempty : entries ≠ [])
    {lowestVisibleX highestVisibleX phaseX : K} (ended : 1 ≤ phaseX) (cubicIntensity phaseY : K)
    {first count : Nat} (positive : 1 ≤ count) (inside : first + count < entries.length)
    (isFirst : roundedIndex entries lowestVisibleX .down = first)
    (isLast : roundedIndex entries highestVisibleX .up = first + count) :
    drawCubicBezier entries (xBounds lowestVisibleX highestVisibleX phaseX entries)
        cubicIntensity phaseY =
      ⟨lineFrom entries cubicIntensity phaseY first count⟩ := by
  have isRange : ((first + count : Nat) : Int) - first = count := by omega
  rw [xBounds_eq strict nonempty lowestVisibleX highestVisibleX ended]
  simp only [isFirst, isLast, isRange]
  exact_mod_cast drawCubicBezier_eq cubicIntensity phaseY positive inside

end Bounds

section Numbers

variable {K : Type u} [Field K]

@[simp] theorem length_lineChartEntries (numbers : List K) :
    (lineChartEntries numbers).length = numbers.length := by
  simp [lineChartEntries]

theorem entryAt_lineChartEntries {numbers : List K} {i : Nat} (bound : i < numbers.length) :
    entryAt (lineChartEntries numbers) i = ⟨i, numbers[i]⟩ := by
  simp [entryAt, lineChartEntries, bound]

theorem xAt_lineChartEntries {numbers : List K} {i : Nat} (bound : i < numbers.length) :
    xAt (lineChartEntries numbers) i = i := by
  simp [xAt, lineChartEntries, bound]

theorem drawnAt_lineChartEntries (numbers : List K) (phaseY : K) :
    (List.range' 0 numbers.length).map
        (fun i => some (drawnAt phaseY (entryAt (lineChartEntries numbers) i))) =
      numbers.zipIdx.map fun (number, i) => some ⟨i, number * phaseY⟩ := by
  refine List.ext_getElem (by simp) fun i inRange inNumbers => ?_
  have bound : i < numbers.length := by simpa using inRange
  simp [drawnAt, entryAt_lineChartEntries bound]

variable [LinearOrder K] [IsStrictOrderedRing K]

theorem strictlyAscending_lineChartEntries (numbers : List K) :
    StrictlyAscending (lineChartEntries numbers) := by
  refine List.pairwise_iff_getElem.mpr fun i j iBound jBound before => ?_
  simpa [lineChartEntries] using before

/-- Up to an intensity of one quarter, the controls of a curve between entries that are one
apart, and whose neighbours are at most one further, are in order. -/
theorem splineCurve_advances {cubicIntensity : K} (nonneg : 0 ≤ cubicIntensity)
    (atMost : cubicIntensity ≤ 1 / 4) (phaseY : K) {prevPrev prev cur next : ChartDataEntry K}
    (one : cur.x = prev.x + 1) (before : prevPrev.x ≤ prev.x) (near : prev.x ≤ prevPrev.x + 1)
    (after : cur.x ≤ next.x) (nextNear : next.x ≤ cur.x + 1) :
    ∃ control1 control2, splineCurve cubicIntensity phaseY prevPrev prev cur next =
        .curve (drawnAt phaseY cur) control1 control2 ∧
      StrictMonoOn (cubic prev.x control1.x control2.x cur.x) (Set.Icc 0 1) := by
  have early : 0 ≤ (cur.x - prevPrev.x) * cubicIntensity := mul_nonneg (by linarith) nonneg
  have early_le : (cur.x - prevPrev.x) * cubicIntensity ≤ 2 * (1 / 4) :=
    mul_le_mul (by linarith) atMost nonneg zero_le_two
  have late : 0 ≤ (next.x - prev.x) * cubicIntensity := mul_nonneg (by linarith) nonneg
  have late_le : (next.x - prev.x) * cubicIntensity ≤ 2 * (1 / 4) :=
    mul_le_mul (by linarith) atMost nonneg zero_le_two
  refine ⟨_, _, rfl, cubic_strictMonoOn ?_ ?_ ?_ ?_⟩
  · exact le_add_of_nonneg_right early
  · simp only
    linarith
  · exact sub_le_self _ late
  · linarith

theorem curveTo_advances {numbers : List K} {cubicIntensity : K} (nonneg : 0 ≤ cubicIntensity)
    (atMost : cubicIntensity ≤ 1 / 4) (phaseY : K) {i : Nat} (bound : i + 1 < numbers.length) :
    ∃ control1 control2, curveTo (lineChartEntries numbers) cubicIntensity phaseY (i + 1) =
        .curve ⟨i + 1, numbers[i + 1] * phaseY⟩ control1 control2 ∧
      StrictMonoOn (cubic (i : K) control1.x control2.x (i + 1)) (Set.Icc 0 1) := by
  have next : min (i + 1 + 1) (numbers.length - 1) < numbers.length := by omega
  have isPrevPrev : entryAt (lineChartEntries numbers) (i + 1 - 2) =
      ⟨(i - 1 : Nat), numbers[i - 1]⟩ := entryAt_lineChartEntries (by omega)
  have isPrev : entryAt (lineChartEntries numbers) (i + 1 - 1) = ⟨i, numbers[i]⟩ :=
    entryAt_lineChartEntries (by omega)
  have isCur : entryAt (lineChartEntries numbers) (i + 1) = ⟨i + 1, numbers[i + 1]⟩ := by
    rw [entryAt_lineChartEntries bound, Nat.cast_add, Nat.cast_one]
  have isNext := entryAt_lineChartEntries next
  rw [curveTo, length_lineChartEntries, isPrevPrev, isPrev, isCur, isNext]
  apply splineCurve_advances nonneg atMost phaseY
  · rfl
  · dsimp only
    exact_mod_cast Nat.sub_le i 1
  · dsimp only
    exact_mod_cast (by omega : i ≤ i - 1 + 1)
  · dsimp only
    exact_mod_cast (by omega : i + 1 ≤ min (i + 1 + 1) (numbers.length - 1))
  · dsimp only
    exact_mod_cast Nat.min_le_left (i + 1 + 1) (numbers.length - 1)

variable [FloorRing K]

/-- The line of a chart of numbers that is in view as a whole goes through all numbers, and
never back. -/
theorem line_of_numbers (numbers : List K) (several : 2 ≤ numbers.length)
    {lowestVisibleX highestVisibleX phaseX : K} (ended : 1 ≤ phaseX)
    (fromFirst : lowestVisibleX ≤ 0)
    (toLast : ((numbers.length - 1 : Nat) : K) ≤ highestVisibleX) {cubicIntensity : K}
    (nonneg : 0 ≤ cubicIntensity) (atMost : cubicIntensity ≤ 1 / 4) (phaseY : K) :
    let entries := lineChartEntries numbers
    let drawn := (drawCubicBezier entries (xBounds lowestVisibleX highestVisibleX phaseX entries)
      cubicIntensity phaseY).elements
    drawn.map target = numbers.zipIdx.map (fun (number, i) => some ⟨i, number * phaseY⟩) ∧
      drawn.IsChain SmoothJoint ∧
      ∀ (i : Nat) (bound : i + 1 < numbers.length), ∃ control1 control2,
        drawn[i + 1]? = some (.curve ⟨i + 1, numbers[i + 1] * phaseY⟩ control1 control2) ∧
          StrictMonoOn (cubic (i : K) control1.x control2.x (i + 1)) (Set.Icc 0 1) := by
  have strict := strictlyAscending_lineChartEntries numbers
  have size := length_lineChartEntries numbers
  have nonempty : lineChartEntries numbers ≠ [] := List.length_pos_iff.mp (by omega)
  have atFirst : xAt (lineChartEntries numbers) 0 = 0 := by
    rw [xAt_lineChartEntries (by omega), Nat.cast_zero]
  have atLast := xAt_lineChartEntries (by omega : numbers.length - 1 < numbers.length)
  have extent : (1 : K) ≤ (numbers.length - 1 : Nat) := by
    exact_mod_cast (by omega : 1 ≤ numbers.length - 1)
  obtain ⟨first, count, positive, inside, isFirst, isLast, inView, -⟩ :=
    bounds_of_view strict (by omega) (by linarith : lowestVisibleX < highestVisibleX)
      (by rw [atFirst]; linarith) (by rw [size, atLast]; linarith)
  -- the first and the last number are in view
  have first_le := (inView 0 (by omega) (by rw [atFirst]; exact fromFirst)
    (by rw [atFirst]; linarith)).1
  have last_le := (inView (numbers.length - 1) (by omega) (by rw [atLast]; linarith)
    (by rw [atLast]; exact toLast)).2
  obtain rfl : first = 0 := by omega
  obtain rfl : count = numbers.length - 1 := by omega
  have isLine := line_eq strict nonempty ended cubicIntensity phaseY positive inside isFirst isLast
  have entire : numbers.length - 1 + 1 = numbers.length := by omega
  refine ⟨?_, ?_, fun i bound => ?_⟩
  · rw [isLine, target_lineFrom, entire]
    exact drawnAt_lineChartEntries numbers phaseY
  · rw [isLine]
    exact smooth_lineFrom cubicIntensity phaseY inside
  · obtain ⟨control1, control2, isCurve, advances⟩ :=
      curveTo_advances nonneg atMost phaseY bound
    refine ⟨control1, control2, ?_, advances⟩
    have inRange : i < numbers.length - 1 := by omega
    rw [isLine, ← isCurve, lineFrom]
    simp [inRange, Nat.add_comm]

end Numbers

theorem line_of_numbers_sample :
    let entries := lineChartEntries [(2 : ℚ), 7, 5]
    let drawn := (drawCubicBezier entries (xBounds 0 2 1 entries) (1 / 5) 1).elements
    drawn.map target = [(2 : ℚ), 7, 5].zipIdx.map (fun (number, i) => some ⟨i, number * 1⟩) ∧
      drawn.IsChain SmoothJoint ∧
      ∀ (i : Nat) (bound : i + 1 < [(2 : ℚ), 7, 5].length), ∃ control1 control2,
        drawn[i + 1]? = some (.curve ⟨i + 1, [(2 : ℚ), 7, 5][i + 1] * 1⟩ control1 control2) ∧
          StrictMonoOn (cubic (i : ℚ) control1.x control2.x (i + 1)) (Set.Icc 0 1) := by
  apply line_of_numbers
  · decide
  · exact le_refl 1
  · exact le_refl 0
  · norm_num
  · norm_num
  · norm_num

end FinanciaApp.Guarantees
