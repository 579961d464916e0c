import Mathlib.Data.Rat.Floor
import Mathlib.Tactic.NormNum
import FinanciaApp.Library.EvenlySpaced
import FinanciaApp.Library.Runs
import FinanciaApp.Source.ATCLineChartView

/-!
# The value under the finger

The chart is drawn 30 points from the left, and a touch is moved 15 points to the left before
its step is counted. The band of touches that shows data point `i` therefore begins 15 points
before the point, whatever half a step is; the touches left of the first band and right of the
last one leave the number shown last.
-/

set_option autoImplicit false

namespace FinanciaApp.Guarantees

open Source Library

variable {K : Type} [Field K] [LinearOrder K]

/-- No data point is drawn nearer to `x` than data point `i`. -/
def DrawnNearest (view : ATCLineChartView K) (width x : K) (i : ℕ) : Prop :=
  i < view.data.points.length ∧
    ∀ j < view.data.points.length, |x - view.drawnX width i| ≤ |x - view.drawnX width j|

/-- A touch does not trap, and shows the value of a data point drawn nearest to it. -/
def ShowsNearest [FloorRing K] (view : ATCLineChartView K) (location : CGPoint K) (width : K) :
    Prop :=
  ∃ after closest, view.getClosestDataPoint location (width - 30) 240 = some (after, closest) ∧
    (view.data.points ≠ [] → ∃ i, DrawnNearest view width location.x i ∧
      view.data.onlyPoints[i]? = some after.currentDataNumber)

/-- The step between two data points as drawn. -/
def drawnStep (view : ATCLineChartView K) (width : K) : K :=
  (view.lineProgress width).stepWidth

/-- The value of the band touched, or the number shown last outside the bands. -/
def Touched (view : ATCLineChartView K) (width x value : K) : Prop :=
  (∃ i, view.data.onlyPoints[i]? = some value ∧
    mark 15 (drawnStep view width) i ≤ x ∧ x < mark 15 (drawnStep view width) (i + 1)) ∨
  ((x < 15 ∨ mark 15 (drawnStep view width) view.data.points.length ≤ x) ∧
    value = view.currentDataNumber)

/-- The value of a data point within half a step of the finger. -/
def UnderFinger (view : ATCLineChartView K) (width x value : K) : Prop :=
  ∃ i, view.data.onlyPoints[i]? = some value ∧
    WithinHalfStep 30 (drawnStep view width) view.data.points.length x i

/-- There are data, and where there are several the touch is at most `2 ^ 63` steps away and
in a band whose value is also that under the finger. -/
structure BandUnderFinger (view : ATCLineChartView K) (width x : K) : Prop where
  nonempty : view.data.points ≠ []
  inRange : 2 ≤ view.data.points.length →
    15 - 2 ^ 63 * drawnStep view width ≤ x ∧ x < 15 + 2 ^ 63 * drawnStep view width
  agree : 2 ≤ view.data.points.length →
    ∃ value, Touched view width x value ∧ UnderFinger view width x value

/-! ## What a touch shows -/

section Shown

variable {view : ATCLineChartView K} {location : CGPoint K} {width : K}

omit [LinearOrder K] in
theorem drawnStep_of_several (several : 2 ≤ view.data.points.length) :
    drawnStep view width = (width - 30) / ((view.data.points.length - 1 : ℕ) : K) := by
  have not_short : ¬(view.lineProgress width).data.points.length < 2 := Nat.not_lt.mpr several
  rw [drawnStep, ATCLineChartLineProgress.stepWidth, stepWidth, if_neg not_short]
  rfl

theorem drawnStep_pos [IsStrictOrderedRing K] (several : 2 ≤ view.data.points.length)
    (wide : 30 < width) : 0 < drawnStep view width := by
  rw [drawnStep_of_several several]
  have steps : (0 : K) < ((view.data.points.length - 1 : ℕ) : K) :=
    Nat.cast_pos.mpr (by omega)
  exact div_pos (sub_pos.mpr wide) steps

variable [FloorRing K]

/-- The number that the magnifier shows after a touch. -/
def shownNumber (view : ATCLineChartView K) (location : CGPoint K) (width : K) : Option K :=
  (view.getClosestDataPoint location (width - 30) 240).map fun result =>
    result.1.currentDataNumber

theorem showsNearest_iff :
    ShowsNearest view location width ↔
      ∃ value, shownNumber view location width = some value ∧
        (view.data.points ≠ [] → ∃ i, DrawnNearest view width location.x i ∧
          view.data.onlyPoints[i]? = some value) := by
  constructor
  · rintro ⟨after, closest, found, shown⟩
    exact ⟨after.currentDataNumber, by rw [shownNumber, found]; rfl, shown⟩
  · rintro ⟨value, found, shown⟩
    obtain ⟨⟨after, closest⟩, result, rfl⟩ := Option.map_eq_some_iff.mp found
    exact ⟨after, closest, result, shown⟩

omit [Field K] [LinearOrder K] [FloorRing K] in
theorem length_onlyPoints (data : ATCLineChartDataSource K) :
    data.onlyPoints.length = data.points.length :=
  List.length_map _

theorem shownNumber_of_empty (empty : view.data.points = []) :
    shownNumber view location width = none := by
  simp [shownNumber, ATCLineChartView.getClosestDataPoint, ATCLineChartDataSource.onlyPoints,
    empty]

/-- The number shown once the index is known. -/
def numberAt (view : ATCLineChartView K) (index : ℤ) : K :=
  if 0 ≤ index then view.data.onlyPoints[index.toNat]?.getD view.currentDataNumber
  else view.currentDataNumber

theorem shownNumber_eq (nonempty : view.data.points ≠ []) :
    shownNumber view location width =
      (((CGFloat.number (location.x - 15)).div
        ((CGFloat.number (width - 30)).div
          (.number ((view.data.onlyPoints.length - 1 : ℤ) : K)))).floorInt).map
        (numberAt view) := by
  have filled : view.data.onlyPoints ≠ [] := by
    simpa [ATCLineChartDataSource.onlyPoints] using nonempty
  obtain ⟨greatest, hgreatest⟩ :=
    Option.isSome_iff_exists.mp (List.isSome_max?_of_ne_nil filled)
  obtain ⟨least, hleast⟩ := Option.isSome_iff_exists.mp (List.isSome_min?_of_ne_nil filled)
  simp only [shownNumber, ATCLineChartView.getClosestDataPoint, hgreatest, hleast,
    Option.bind_eq_bind, Option.bind_some]
  generalize ((CGFloat.number (location.x - 15)).div _).floorInt = found
  cases found with
  | none => rfl
  | some index =>
    simp only [Option.bind_some, Option.map_some, numberAt]
    split_ifs with inside nonneg nonneg
    · have bound : index.toNat < view.data.onlyPoints.length := by omega
      simp [List.getElem?_eq_getElem bound]
    · exact absurd inside.1 nonneg
    · have bound : view.data.onlyPoints.length ≤ index.toNat := by omega
      simp [List.getElem?_eq_none bound]
    · rfl

variable [IsStrictOrderedRing K]

/-- A single value is shown wherever the touch is: the step is an infinity. -/
theorem shownNumber_of_single (single : view.data.points.length = 1) (wide : 30 < width) :
    shownNumber view location width = view.data.onlyPoints[0]? := by
  have nonempty : view.data.points ≠ [] := List.ne_nil_of_length_pos (by omega)
  have room : width - 30 ≠ 0 := sub_ne_zero.mpr wide.ne'
  have first : 0 < view.data.onlyPoints.length := by
    rw [length_onlyPoints]
    omega
  rw [shownNumber_eq nonempty, length_onlyPoints, single]
  simp [CGFloat.div, CGFloat.floorInt, room, numberAt, List.getElem?_eq_getElem first]

theorem shownNumber_of_several (several : 2 ≤ view.data.points.length) (wide : 30 < width) :
    shownNumber view location width =
      ((CGFloat.number ((location.x - 15) / drawnStep view width)).floorInt).map
        (numberAt view) := by
  have nonempty : view.data.points ≠ [] := List.ne_nil_of_length_pos (by omega)
  have steps : ((view.data.points.length - 1 : ℤ) : K) =
      ((view.data.points.length - 1 : ℕ) : K) := by
    rw [Nat.cast_sub (by omega), Int.cast_sub, Int.cast_natCast, Int.cast_one, Nat.cast_one]
  have some_steps : ((view.data.points.length - 1 : ℕ) : K) ≠ 0 :=
    Nat.cast_ne_zero.mpr (by omega)
  have positive := drawnStep_pos several wide
  rw [shownNumber_eq nonempty, length_onlyPoints, steps]
  rw [CGFloat.div, if_pos some_steps, ← drawnStep_of_several several, CGFloat.div,
    if_pos positive.ne']

/-- The index fits in an `Int` for the touches at most `2 ^ 63` steps away. -/
theorem floorInt_eq_some_iff {step x : K} (positive : 0 < step) (index : ℤ) :
    (CGFloat.number ((x - 15) / step)).floorInt = some index ↔
      (15 - 2 ^ 63 * step ≤ x ∧ x < 15 + 2 ^ 63 * step) ∧
        15 + index * step ≤ x ∧ x < 15 + (index + 1) * step := by
  have lower : -2 ^ 63 ≤ ⌊(x - 15) / step⌋ ↔ 15 - 2 ^ 63 * step ≤ x := by
    rw [Int.le_floor, le_div_iff₀ positive]
    push_cast
    constructor <;> intro h <;> linarith
  have upper : ⌊(x - 15) / step⌋ < 2 ^ 63 ↔ x < 15 + 2 ^ 63 * step := by
    rw [Int.floor_lt, div_lt_iff₀ positive]
    push_cast
    constructor <;> intro h <;> linarith
  rw [CGFloat.floorInt, ← lower, ← upper, ← floor_marks_iff positive]
  split_ifs with inRange
  · rw [Option.some_inj]
    exact ⟨fun same => ⟨inRange, same⟩, fun same => same.2⟩
  · exact ⟨nofun, fun h => absurd h.1 inRange⟩

/-- The bands are those between the marks from 15 on, so the index is that of the band. -/
theorem numberAt_eq_iff (several : 2 ≤ view.data.points.length) (wide : 30 < width) {x : K}
    {index : ℤ} (band : ⌊(x - 15) / drawnStep view width⌋ = index) (value : K) :
    numberAt view index = value ↔ Touched view width x value := by
  have positive := drawnStep_pos several wide
  have in_band (i : ℕ) : (mark 15 (drawnStep view width) i ≤ x ∧
      x < mark 15 (drawnStep view width) (i + 1)) ↔ index = i := by
    have marks : ⌊(x - 15) / drawnStep view width⌋ = (i : ℤ) ↔ _ := floor_marks_iff positive
    rw [band, Int.cast_natCast] at marks
    rw [marks, mark, mark, Nat.cast_add, Nat.cast_one]
  have before : x < 15 ↔ index < 0 := by
    rw [← band, Int.floor_lt, Int.cast_zero, div_lt_iff₀ positive, zero_mul, sub_neg]
  have after : mark 15 (drawnStep view width) view.data.points.length ≤ x ↔
      (view.data.points.length : ℤ) ≤ index := by
    rw [← band, Int.le_floor, Int.cast_natCast, le_div_iff₀ positive, mark, le_sub_iff_add_le']
  simp only [Touched, in_band, before, after]
  rw [numberAt]
  split_ifs with nonneg
  · obtain ⟨i, rfl⟩ := Int.eq_ofNat_of_zero_le nonneg
    rw [Int.toNat_natCast]
    rcases Nat.lt_or_ge i view.data.points.length with inside | outside
    · have bound : i < view.data.onlyPoints.length := by rwa [length_onlyPoints]
      have not_outside : ¬((i : ℤ) < 0 ∨ (view.data.points.length : ℤ) ≤ i) := by omega
      rw [List.getElem?_eq_getElem bound, Option.getD_some]
      simp only [not_outside, false_and, or_false, Nat.cast_inj]
      constructor
      · exact fun shown => ⟨i, by rw [List.getElem?_eq_getElem bound, shown], rfl⟩
      · rintro ⟨j, at_j, rfl⟩
        rw [List.getElem?_eq_getElem bound] at at_j
        exact Option.some_inj.mp at_j
    · have bound : view.data.onlyPoints.length ≤ i := by rwa [length_onlyPoints]
      have beyond : (view.data.points.length : ℤ) ≤ i := Nat.cast_le.mpr outside
      simp [beyond, List.getElem?_eq_none bound, Nat.cast_inj, eq_comm]
  · have below : index < 0 := Int.not_le.mp nonneg
    have no_band (i : ℕ) : index ≠ i := by omega
    simp [below, no_band, eq_comm]

/-- Of several values a touch shows that of its band. -/
theorem shownNumber_eq_some_iff (several : 2 ≤ view.data.points.length) (wide : 30 < width)
    (value : K) :
    shownNumber view location width = some value ↔
      (15 - 2 ^ 63 * drawnStep view width ≤ location.x ∧
        location.x < 15 + 2 ^ 63 * drawnStep view width) ∧
      Touched view width location.x value := by
  have positive := drawnStep_pos several wide
  rw [shownNumber_of_several several wide, Option.map_eq_some_iff]
  constructor
  · rintro ⟨index, found, shown⟩
    obtain ⟨inRange, marks⟩ := (floorInt_eq_some_iff positive index).mp found
    have band := (floor_marks_iff positive).mpr marks
    exact ⟨inRange, (numberAt_eq_iff several wide band value).mp shown⟩
  · rintro ⟨inRange, touched⟩
    refine ⟨⌊(location.x - 15) / drawnStep view width⌋, ?_, ?_⟩
    · exact (floorInt_eq_some_iff positive _).mpr ⟨inRange, (floor_marks_iff positive).mp rfl⟩
    · exact (numberAt_eq_iff several wide rfl value).mpr touched

omit [FloorRing K] in
theorem drawnNearest_iff (several : 2 ≤ view.data.points.length) (wide : 30 < width) {x : K}
    (i : ℕ) :
    DrawnNearest view width x i ↔
      WithinHalfStep 30 (drawnStep view width) view.data.points.length x i :=
  isNearestMark_iff (drawnStep_pos several wide)

end Shown

/-! ## Whole gestures -/

/-- The data are those of the start, the grid is hidden while the magnifier is visible, and
the number shown is one of the data or that of the start. -/
structure Magnifies (start view : ATCLineChartView K) : Prop where
  data : view.data = start.data
  grid : view.hideHorizontalLines = true ↔ view.opacity = 1
  number : view.currentDataNumber = start.currentDataNumber ∨
    view.currentDataNumber ∈ start.data.onlyPoints

section Gesture

variable [FloorRing K] {start view after : ATCLineChartView K} {location : CGPoint K} {width : K}

/-- What a touch finds, it changes only in the number shown, which becomes one of the data. -/
theorem getClosestDataPoint_effects {height : K} {closest : CGPoint (CGFloat K)}
    (found : view.getClosestDataPoint location width height = some (after, closest)) :
    after = { view with currentDataNumber := after.currentDataNumber } ∧
      (after.currentDataNumber = view.currentDataNumber ∨
        after.currentDataNumber ∈ view.data.onlyPoints) := by
  simp only [ATCLineChartView.getClosestDataPoint, Option.bind_eq_bind,
    Option.bind_eq_some_iff] at found
  obtain ⟨_, -, _, -, index, -, found⟩ := found
  split_ifs at found
  · obtain ⟨rfl, -⟩ := Prod.mk.inj (Option.some_inj.mp found)
    exact ⟨rfl, Or.inr (List.get_mem _ _)⟩
  · obtain ⟨rfl, -⟩ := Prod.mk.inj (Option.some_inj.mp found)
    exact ⟨rfl, Or.inl rfl⟩

theorem magnifies_onChanged (magnifies : Magnifies start view)
    (changed : view.onChanged location width = some after) : Magnifies start after := by
  simp only [ATCLineChartView.onChanged, Option.bind_eq_bind, Option.bind_eq_some_iff] at changed
  obtain ⟨⟨found, closest⟩, touched, changed⟩ := changed
  obtain ⟨same, number⟩ := getClosestDataPoint_effects touched
  obtain rfl := Option.some_inj.mp changed
  have data : found.data = view.data := by rw [same]
  have opacity : found.opacity = 1 := by rw [same]
  refine ⟨data.trans magnifies.data, iff_of_true rfl opacity, ?_⟩
  rcases number with kept | shown
  · exact magnifies.number.imp kept.trans fun shown => kept ▸ shown
  · exact Or.inr (magnifies.data ▸ shown)

omit [LinearOrder K] [FloorRing K] in
theorem magnifies_onEnded (magnifies : Magnifies start view) : Magnifies start view.onEnded where
  data := magnifies.data
  grid := iff_of_false Bool.false_ne_true zero_ne_one
  number := magnifies.number

/-- However a finger moves over the chart, as long as nothing traps. -/
theorem magnifies_run (hidden : start.opacity = 0) (gridded : start.hideHorizontalLines = false)
    {gestures : List (ATCLineChartView.DragGesture K)}
    (moved : run (ATCLineChartView.drag width) start gestures = some after) :
    Magnifies start after := by
  have begun : Magnifies start start := by
    refine ⟨rfl, ?_, Or.inl rfl⟩
    rw [hidden, gridded]
    exact iff_of_false Bool.false_ne_true zero_ne_one
  apply run_invariant (Magnifies start) _ begun moved
  intro view gesture next magnifies stepped
  cases gesture with
  | changed location => exact magnifies_onChanged magnifies stepped
  | ended =>
    obtain rfl := Option.some_inj.mp stepped
    exact magnifies_onEnded magnifies

end Gesture

/-- Exactly when the magnifier shows the value under the finger. -/
theorem showsNearest_iff_bandUnderFinger [IsStrictOrderedRing K] [FloorRing K]
    (view : ATCLineChartView K) (location : CGPoint K) (width : K) (wide : 30 < width) :
    ShowsNearest view location width ↔ BandUnderFinger view width location.x := by
  rw [showsNearest_iff]
  constructor
  · rintro ⟨value, shown, nearest⟩
    have nonempty : view.data.points ≠ [] := by
      intro empty
      rw [shownNumber_of_empty empty] at shown
      cases shown
    obtain ⟨i, near, at_i⟩ := nearest nonempty
    refine ⟨nonempty, fun several => ?_, fun several => ?_⟩
    · exact ((shownNumber_eq_some_iff several wide value).mp shown).1
    · have touched := ((shownNumber_eq_some_iff several wide value).mp shown).2
      exact ⟨value, touched, i, at_i, (drawnNearest_iff several wide i).mp near⟩
  · rintro ⟨nonempty, inRange, agree⟩
    have some_point : 0 < view.data.points.length := List.length_pos_iff.mpr nonempty
    rcases Nat.lt_or_ge 1 view.data.points.length with several | single
    · obtain ⟨value, touched, i, at_i, near⟩ := agree several
      refine ⟨value, ?_, fun _ => ⟨i, (drawnNearest_iff several wide i).mpr near, at_i⟩⟩
      exact (shownNumber_eq_some_iff several wide value).mpr ⟨inRange several, touched⟩
    · have one : view.data.points.length = 1 := by omega
      have bound : 0 < view.data.onlyPoints.length := by rwa [length_onlyPoints]
      have first := List.getElem?_eq_getElem bound
      refine ⟨view.data.onlyPoints[0], ?_, fun _ => ⟨0, ⟨some_point, ?_⟩, first⟩⟩
      · rw [shownNumber_of_single one wide, first]
      · intro j hj
        obtain rfl : j = 0 := by omega
        exact le_rfl

/-- Without data `max()!` traps. -/
def emptyChart : ATCLineChartView ℚ :=
  { data := ⟨[]⟩, dragLocation := ⟨0, 0⟩, indicatorLocation := ⟨0, 0⟩,
    closestPoint := ⟨.number 0, .number 0⟩, opacity := 0, currentDataNumber := 0,
    hideHorizontalLines := false }

/-- The data of the preview, whose points are drawn 45 apart in a chart of width 390. -/
def previewChart : ATCLineChartView ℚ :=
  { emptyChart with
    data := ⟨[("", 18), ("", 23), ("", 54), ("", 32), ("", 12), ("", 37), ("", 17), ("", 23),
      ("", 43)]⟩ }

theorem showsNearest_iff_bandUnderFinger_previewChart :
    ShowsNearest previewChart ⟨62, 100⟩ 390 ↔ BandUnderFinger previewChart 390 62 :=
  showsNearest_iff_bandUnderFinger previewChart ⟨62, 100⟩ 390 (by norm_num)

theorem shownNumber_previewChart : shownNumber previewChart ⟨59, 100⟩ 390 = some 18 := by
  decide +kernel

/-- The touch at 59 is 16 before the second point, drawn at 75 with the value 23, and 29
after the first one: its band shows 18. -/
theorem magnifier_misses_finger :
    ¬(∀ (view : ATCLineChartView ℚ) (location : CGPoint ℚ) (width : ℚ), 30 < width →
      0 ≤ location.x → location.x ≤ width → ShowsNearest view location width) ∧
    emptyChart.getClosestDataPoint ⟨62, 100⟩ 360 240 = none ∧
    ¬ShowsNearest previewChart ⟨59, 100⟩ 390 := by
  have traps : emptyChart.getClosestDataPoint ⟨62, 100⟩ 360 240 = none := by decide +kernel
  refine ⟨fun claimed => ?_, traps, fun shows_nearest => ?_⟩
  · obtain ⟨after, closest, found, -⟩ :=
      claimed emptyChart ⟨62, 100⟩ 390 (by norm_num) (by norm_num) (by norm_num)
    rw [show (390 : ℚ) - 30 = 360 by norm_num, traps] at found
    cases found
  · obtain ⟨value, shown, nearest⟩ := showsNearest_iff.mp shows_nearest
    obtain rfl : 18 = value := Option.some_inj.mp (shownNumber_previewChart.symm.trans shown)
    obtain ⟨i, ⟨inside, near⟩, at_i⟩ := nearest (List.cons_ne_nil _ _)
    have farther : ¬|(59 : ℚ) - previewChart.drawnX 390 0| ≤ |59 - previewChart.drawnX 390 1| := by
      decide +kernel
    have only_first : ∀ i < 9, previewChart.data.onlyPoints[i]? = some 18 → i = 0 := by
      decide +kernel
    obtain rfl := only_first i inside at_i
    exact farther (near 1 (by decide))

end FinanciaApp.Guarantees
