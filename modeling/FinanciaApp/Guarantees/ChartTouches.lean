import FinanciaApp.Guarantees.ChartEntrySearch
import FinanciaApp.Library.LeastScan
import FinanciaApp.Source.ChartHighlighter
import Mathlib.Data.List.Chain

/-!
# Touches of a chart

The entries of every data set are in ascending order of `x`, and the arithmetic is exact.

* `touch_finds_nearest`: a touch highlights an entry whose x-value is nearest to it in its data
  set, and which is the nearest one to the finger of all these on the axis of the touch; the
  highlight leads back to its entry.
* `delegate_follows_highlights`: in every run of taps, drags and changes of the data, the delegate
  was last told about the value that is highlighted.
-/

set_option autoImplicit false

namespace FinanciaApp.Guarantees

universe u

open Library Source Source.Charts

section Scans

variable {K : Type u} [Field K] [LinearOrder K]

/-- The pixels between a highlight and a touch, from top to bottom. -/
def verticalDistance (y : K) (high : Highlight K) : K := |high.yPx - y|

theorem getMinimumDistance_eq (viewport : ChartViewport K) (values : List (Highlight K)) (y : K)
    (axis : AxisDependency) :
    getMinimumDistance viewport values y axis =
      ((values.filter fun high => high.axis = axis).foldl (leastStep (verticalDistance y))
        (viewport.greatestFiniteMagnitude, none)).1 := by
  unfold getMinimumDistance
  generalize (values.filter fun high => high.axis = axis) = onAxis
  generalize viewport.greatestFiniteMagnitude = distance
  generalize (none : Option (Highlight K)) = closest
  induction onAxis generalizing distance closest with
  | nil => rfl
  | cons high rest ih =>
    rw [List.foldl_cons, List.foldl_cons, leastStep, keepLess]
    by_cases less : |high.yPx - y| < distance
    · have isLess : verticalDistance y high < distance := less
      rw [if_pos isLess]
      simp only [if_pos less]
      exact ih _ _
    · have notLess : ¬ verticalDistance y high < distance := less
      rw [if_neg notLess]
      simp only [if_neg less]
      exact ih _ _

theorem closestSelectionDetailByPixel_eq (viewport : ChartViewport K)
    (values : List (Highlight K)) (x y : K) (axis : AxisDependency) (distance : K) :
    closestSelectionDetailByPixel viewport values x y axis distance =
      ((values.filter fun high => high.axis = axis).foldl
        (leastStep (getDistance viewport x y)) (distance, none)).2 := by
  rw [List.foldl_filter]
  simp only [decide_eq_true_eq]
  rfl

theorem getMinimumDistance_spec (viewport : ChartViewport K) (values : List (Highlight K)) (y : K)
    (axis : AxisDependency) :
    (∀ high ∈ values, high.axis = axis →
      getMinimumDistance viewport values y axis ≤ verticalDistance y high) ∧
    (getMinimumDistance viewport values y axis = viewport.greatestFiniteMagnitude ∨
      ∃ high ∈ values, high.axis = axis ∧
        getMinimumDistance viewport values y axis = verticalDistance y high) := by
  rw [getMinimumDistance_eq]
  rcases foldl_leastStep (verticalDistance y) (values.filter fun high => high.axis = axis)
    (viewport.greatestFiniteMagnitude, none) with ⟨same, noLess⟩ | ⟨high, there, isLeast, -, least⟩
  · rw [same]
    refine ⟨fun high inValues onAxis => ?_, .inl rfl⟩
    exact noLess high (List.mem_filter.mpr ⟨inValues, decide_eq_true onAxis⟩)
  · rw [isLeast]
    obtain ⟨inValues, onAxis⟩ := List.mem_filter.mp there
    refine ⟨fun other otherInValues otherOnAxis => ?_,
      .inr ⟨high, inValues, of_decide_eq_true onAxis, rfl⟩⟩
    exact least other (List.mem_filter.mpr ⟨otherInValues, decide_eq_true otherOnAxis⟩)

/-- The axis of a touch has a highlight that no other one is nearer than from top to bottom. -/
theorem closestAxis_nearest {viewport : ChartViewport K} {values : List (Highlight K)} {y : K}
    (finite : ∀ high ∈ values, verticalDistance y high < viewport.greatestFiniteMagnitude)
    (nonempty : values ≠ []) :
    ∃ nearest ∈ values, nearest.axis = closestAxis viewport values y ∧
      ∀ other ∈ values, verticalDistance y nearest ≤ verticalDistance y other := by
  have spec := getMinimumDistance_spec viewport values y
  have isLess (axis : AxisDependency) : getMinimumDistance viewport values y
      (closestAxis viewport values y) ≤ getMinimumDistance viewport values y axis := by
    unfold closestAxis
    by_cases less : getMinimumDistance viewport values y .left <
        getMinimumDistance viewport values y .right
    · rw [if_pos less]
      cases axis with
      | left => exact le_refl _
      | right => exact le_of_lt less
    · rw [if_neg less]
      cases axis with
      | left => exact not_lt.mp less
      | right => exact le_refl _
  have least : ∀ other ∈ values, getMinimumDistance viewport values y
      (closestAxis viewport values y) ≤ verticalDistance y other :=
    fun other there => (isLess other.axis).trans ((spec other.axis).1 other there rfl)
  rcases (spec (closestAxis viewport values y)).2 with isGreatest | ⟨nearest, there, onAxis, isMin⟩
  · obtain ⟨some_, there⟩ := List.exists_mem_of_ne_nil values nonempty
    exact absurd (finite some_ there) (not_lt.mpr (isGreatest ▸ least some_ there))
  · exact ⟨nearest, there, onAxis, fun other inValues => isMin ▸ least other inValues⟩

end Scans

section Touches

variable {K : Type u} [Field K] [LinearOrder K]

/-- The highlight is that of an entry of a data set that can be highlighted, at the x-value of
that set that is nearest. -/
def Candidate (viewport : ChartViewport K) (dataSets : List (LineChartDataSet K)) (xValue : K)
    (high : Highlight K) : Prop :=
  ∃ set, dataSets[high.dataSetIndex]? = some set ∧ set.isHighlightEnabled = true ∧
    high.axis = set.axisDependency ∧
    (high.xPx, high.yPx) = viewport.pixelForValues set.axisDependency high.x high.y ∧
    ⟨high.x, high.y⟩ ∈ set.entries ∧ high.x = nearestX set.entries xValue

variable [IsStrictOrderedRing K]

theorem mem_getHighlights {dataSets : List (LineChartDataSet K)}
    (ascending : ∀ set ∈ dataSets, Ascending set.entries) (viewport : ChartViewport K)
    (xValue : K) (high : Highlight K) :
    high ∈ getHighlights viewport dataSets xValue ↔ Candidate viewport dataSets xValue high := by
  have mem_build (set : LineChartDataSet K) (index : Nat) (inOrder : Ascending set.entries) :
      high ∈ buildHighlights viewport set index xValue .closest ↔
        high.dataSetIndex = index ∧ high.axis = set.axisDependency ∧
          (high.xPx, high.yPx) = viewport.pixelForValues set.axisDependency high.x high.y ∧
          ⟨high.x, high.y⟩ ∈ set.entries ∧ high.x = nearestX set.entries xValue := by
    rw [buildHighlights, highlightedEntries_eq inOrder]
    constructor
    · intro there
      obtain ⟨e, inGroup, rfl⟩ := List.mem_map.mp there
      obtain ⟨inSet, atX⟩ := List.mem_filter.mp inGroup
      exact ⟨rfl, rfl, rfl, inSet, of_decide_eq_true atX⟩
    · rintro ⟨rfl, onAxis, pixels, inSet, atX⟩
      refine List.mem_map.mpr ⟨⟨high.x, high.y⟩,
        List.mem_filter.mpr ⟨inSet, decide_eq_true atX⟩, ?_⟩
      dsimp only
      rw [← pixels, ← onAxis]
  unfold getHighlights
  rw [List.mem_flatMap]
  constructor
  · rintro ⟨⟨set, index⟩, there, built⟩
    have found : dataSets[index]? = some set := List.mk_mem_zipIdx_iff_getElem?.mp there
    have inOrder := ascending set (List.mem_of_getElem? found)
    by_cases enabled : set.isHighlightEnabled = true
    · simp only [if_pos enabled] at built
      obtain ⟨rfl, rest⟩ := (mem_build set index inOrder).mp built
      exact ⟨set, found, enabled, rest⟩
    · simp only [if_neg enabled] at built
      cases built
  · rintro ⟨set, found, enabled, rest⟩
    have inOrder := ascending set (List.mem_of_getElem? found)
    refine ⟨(set, high.dataSetIndex), List.mk_mem_zipIdx_iff_getElem?.mpr found, ?_⟩
    simp only [if_pos enabled]
    exact (mem_build set high.dataSetIndex inOrder).mpr ⟨rfl, rest⟩

theorem entryForHighlight_candidate {dataSets : List (LineChartDataSet K)}
    (ascending : ∀ set ∈ dataSets, Ascending set.entries) {viewport : ChartViewport K} {xValue : K}
    {high : Highlight K} (candidate : Candidate viewport dataSets xValue high) :
    entryForHighlight dataSets high = some ⟨high.x, high.y⟩ := by
  obtain ⟨set, found, -, -, -, inSet, -⟩ := candidate
  rw [entryForHighlight, found, Option.bind_some]
  exact entryForXValue_self (ascending set (List.mem_of_getElem? found)) inSet

/-- What a touch finds on an axis: nothing, where all candidates are too far; or a candidate that
no other one is nearer than, and that leads back to its entry. -/
def Finds (viewport : ChartViewport K) (dataSets : List (LineChartDataSet K)) (x y : K)
    (axis : AxisDependency) : Option (Highlight K) → Prop
  | none =>
    ∀ high, Candidate viewport dataSets (viewport.valueForTouchPoint x y) high →
      high.axis = axis → viewport.maxHighlightDistance ≤ getDistance viewport x y high
  | some high =>
    Candidate viewport dataSets (viewport.valueForTouchPoint x y) high ∧ high.axis = axis ∧
      entryForHighlight dataSets high = some ⟨high.x, high.y⟩ ∧
      getDistance viewport x y high < viewport.maxHighlightDistance ∧
      ∀ other, Candidate viewport dataSets (viewport.valueForTouchPoint x y) other →
        other.axis = axis → getDistance viewport x y high ≤ getDistance viewport x y other

theorem getHighlight_finds {dataSets : List (LineChartDataSet K)}
    (ascending : ∀ set ∈ dataSets, Ascending set.entries) (viewport : ChartViewport K) (x y : K) :
    Finds viewport dataSets x y
      (closestAxis viewport (getHighlights viewport dataSets (viewport.valueForTouchPoint x y)) y)
      (getHighlight viewport dataSets x y) := by
  have mem := mem_getHighlights ascending viewport (viewport.valueForTouchPoint x y)
  simp only [getHighlight]
  generalize getHighlights viewport dataSets (viewport.valueForTouchPoint x y) = values at mem ⊢
  by_cases isEmpty : values.isEmpty = true
  · rw [if_pos isEmpty]
    intro high candidate
    have there := (mem high).mpr candidate
    rw [List.isEmpty_iff.mp isEmpty] at there
    cases there
  · rw [if_neg isEmpty, closestSelectionDetailByPixel_eq]
    generalize closestAxis viewport values y = axis
    rcases foldl_leastStep (getDistance viewport x y)
      (values.filter fun high => high.axis = axis) (viewport.maxHighlightDistance, none) with
      ⟨same, noLess⟩ | ⟨high, there, isLeast, below, least⟩
    · rw [same]
      intro high candidate onAxis
      exact noLess high (List.mem_filter.mpr ⟨(mem high).mpr candidate, decide_eq_true onAxis⟩)
    · rw [isLeast]
      obtain ⟨inValues, onAxis⟩ := List.mem_filter.mp there
      have candidate := (mem high).mp inValues
      refine ⟨candidate, of_decide_eq_true onAxis, entryForHighlight_candidate ascending candidate,
        below, fun other otherCandidate otherOnAxis => ?_⟩
      exact least other
        (List.mem_filter.mpr ⟨(mem other).mpr otherCandidate, decide_eq_true otherOnAxis⟩)

/-- A touch finds a nearest candidate on one axis, that of a candidate that is nearest from top to
bottom. -/
theorem touch_finds_nearest {dataSets : List (LineChartDataSet K)}
    (ascending : ∀ set ∈ dataSets, Ascending set.entries) (viewport : ChartViewport K) (x y : K)
    (finite : ∀ high, Candidate viewport dataSets (viewport.valueForTouchPoint x y) high →
      verticalDistance y high < viewport.greatestFiniteMagnitude) :
    let xVal := viewport.valueForTouchPoint x y
    (∀ set ∈ dataSets, ∀ e ∈ set.entries, |nearestX set.entries xVal - xVal| ≤ |e.x - xVal|) ∧
    ∃ axis, Finds viewport dataSets x y axis (getHighlight viewport dataSets x y) ∧
      ((∃ high, Candidate viewport dataSets xVal high) →
        ∃ nearest, Candidate viewport dataSets xVal nearest ∧ nearest.axis = axis ∧
          ∀ other, Candidate viewport dataSets xVal other →
            verticalDistance y nearest ≤ verticalDistance y other) := by
  intro xVal
  have mem := mem_getHighlights ascending viewport xVal
  refine ⟨fun set there e => nearestX_nearest (ascending set there) xVal,
    _, getHighlight_finds ascending viewport x y, ?_⟩
  rintro ⟨high, candidate⟩
  obtain ⟨nearest, there, onAxis, least⟩ :=
    closestAxis_nearest (fun high there => finite high ((mem high).mp there))
      (List.ne_nil_of_mem ((mem high).mpr candidate))
  exact ⟨nearest, (mem nearest).mp there, onAxis,
    fun other candidate => least other ((mem other).mpr candidate)⟩

end Touches

/-- Every unit is a pixel; the touches of the samples are above or below an entry. -/
def sampleViewport : ChartViewport ℚ where
  valueForTouchPoint x _ := x
  pixelForValues _ x y := (x, y)
  hypot a b := max |a| |b|
  greatestFiniteMagnitude := 1000000
  maxHighlightDistance := 500

def sampleDataSets : List (LineChartDataSet ℚ) := [⟨sampleEntries, .left, true⟩]

theorem sampleDataSets_ascending : ∀ set ∈ sampleDataSets, Ascending set.entries := by
  intro set there
  rw [List.mem_singleton.mp there]
  exact sampleEntries_ascending

theorem sampleDataSets_finite (high : Highlight ℚ)
    (candidate : Candidate sampleViewport sampleDataSets (sampleViewport.valueForTouchPoint 1 7)
      high) : verticalDistance 7 high < sampleViewport.greatestFiniteMagnitude := by
  obtain ⟨set, found, -, -, pixels, inSet, -⟩ := candidate
  rw [List.mem_singleton.mp (List.mem_of_getElem? found)] at inSet
  have isY : high.yPx = high.y := congrArg Prod.snd pixels
  simp only [sampleEntries, List.mem_cons, ChartDataEntry.mk.injEq, List.not_mem_nil,
    or_false] at inSet
  rw [verticalDistance, isY]
  rcases inSet with ⟨-, y⟩ | ⟨-, y⟩ | ⟨-, y⟩ | ⟨-, y⟩ <;> rw [y] <;> norm_num [sampleViewport]

theorem touch_finds_nearest_sample :
    let xVal := sampleViewport.valueForTouchPoint 1 7
    (∀ set ∈ sampleDataSets, ∀ e ∈ set.entries,
      |nearestX set.entries xVal - xVal| ≤ |e.x - xVal|) ∧
    ∃ axis, Finds sampleViewport sampleDataSets 1 7 axis
        (getHighlight sampleViewport sampleDataSets 1 7) ∧
      ((∃ high, Candidate sampleViewport sampleDataSets xVal high) →
        ∃ nearest, Candidate sampleViewport sampleDataSets xVal nearest ∧ nearest.axis = axis ∧
          ∀ other, Candidate sampleViewport sampleDataSets xVal other →
            verticalDistance 7 nearest ≤ verticalDistance 7 other) :=
  touch_finds_nearest sampleDataSets_ascending sampleViewport 1 7 sampleDataSets_finite

section Calls

variable {K : Type u}

/-- The highlight that the delegate was last told about. -/
def lastTold (calls : List (ChartViewMessage K)) : Option (Highlight K) :=
  match calls.getLast? with
  | some (.chartValueSelected _ highlight) => some highlight
  | _ => none

theorem lastTold_concat (calls : List (ChartViewMessage K)) (call : ChartViewMessage K) :
    lastTold (calls ++ [call]) = match call with
      | .chartValueSelected _ highlight => some highlight
      | .chartValueNothingSelected => none := by
  rw [lastTold, List.getLast?_append, List.getLast?_singleton]
  cases call <;> rfl

/-- The entry that the delegate is told about is that of the highlight, and one of the data that
the chart was given. -/
def Given (events : List (ChartViewEvent K)) (entry : ChartDataEntry K)
    (highlight : Highlight K) : Prop :=
  entry = ⟨highlight.x, highlight.y⟩ ∧
    ∃ dataSets, .setData (some dataSets) ∈ events ∧
      ∃ set, dataSets[highlight.dataSetIndex]? = some set ∧ entry ∈ set.entries

variable [DecidableEq K]

/-- No highlight is selected again right after itself. -/
def Differs : ChartViewMessage K → ChartViewMessage K → Prop
  | .chartValueSelected _ before, .chartValueSelected _ highlight =>
    highlight.isEqual before = false
  | _, _ => True

theorem differs_concat {calls : List (ChartViewMessage K)} {call : ChartViewMessage K}
    (before : calls.IsChain Differs)
    (atLast : ∀ last, calls.getLast? = some last → Differs last call) :
    (calls ++ [call]).IsChain Differs := by
  refine List.isChain_append.mpr ⟨before, List.isChain_singleton _, ?_⟩
  intro last isLast next isNext
  have isCall : next = call := by simpa using isNext.symm
  rw [isCall]
  exact atLast last isLast

end Calls

section Delegates

variable {K : Type u} [LinearOrder K]

structure Told (events : List (ChartViewEvent K)) (view : ChartView K) : Prop where
  given : ∀ dataSets, view.data = some dataSets → .setData (some dataSets) ∈ events
  shown : view.indicesToHighlight = view.lastHighlighted.toList
  told : view.lastHighlighted = lastTold view.delegateCalls
  differs : view.delegateCalls.IsChain Differs
  entries : ∀ entry highlight, .chartValueSelected entry highlight ∈ view.delegateCalls →
    Given events entry highlight

variable [Field K] {events : List (ChartViewEvent K)} {view : ChartView K}

theorem Told.deselect (inv : Told events view) :
    Told events ({ view with lastHighlighted := none }.highlightValue none) where
  given := inv.given
  shown := rfl
  told := (lastTold_concat view.delegateCalls .chartValueNothingSelected).symm
  differs := differs_concat inv.differs fun last _ => by cases last <;> trivial
  entries := by
    intro entry highlight there
    rcases List.mem_append.mp there with before | isNew
    · exact inv.entries entry highlight before
    · cases List.mem_singleton.mp isNew

/-- What a touch at a place can do. -/
inductive TouchResult (view : ChartView K) (viewport : ChartViewport K) (x y : K) :
    ChartView K → Prop
  | unchanged : TouchResult view viewport x y view
  | deselected :
      TouchResult view viewport x y ({ view with lastHighlighted := none }.highlightValue none)
  | selected {dataSets : List (LineChartDataSet K)} {highlight : Highlight K}
      (isData : view.data = some dataSets)
      (isHigh : getHighlight viewport dataSets x y = some highlight)
      (new : Highlight.same (some highlight) view.lastHighlighted = false) :
      TouchResult view viewport x y
        ({ view with lastHighlighted := some highlight }.highlightValue (some highlight))

theorem tap_result (view : ChartView K) (viewport : ChartViewport K) (x y : K) :
    TouchResult view viewport x y (view.tapGestureRecognized viewport x y) := by
  obtain ⟨data, lastHighlighted, indices, perTap, perDrag, calls⟩ := view
  unfold ChartView.tapGestureRecognized
  cases data with
  | none => exact .unchanged
  | some dataSets =>
    cases perTap with
    | false => exact .unchanged
    | true =>
      dsimp only
      rw [if_pos rfl]
      split
      · exact .deselected
      · rename_i select
        cases isHigh : getHighlight viewport dataSets x y with
        | none => exact absurd (.inl isHigh) select
        | some highlight =>
          rw [isHigh] at select
          exact .selected rfl isHigh (Bool.eq_false_iff.mpr fun same => select (.inr same))

theorem pan_result (view : ChartView K) (viewport : ChartViewport K) (x y : K) :
    TouchResult view viewport x y (view.panGestureChanged viewport x y) := by
  obtain ⟨data, lastHighlighted, indices, perTap, perDrag, calls⟩ := view
  unfold ChartView.panGestureChanged
  cases perDrag with
  | false => exact .unchanged
  | true =>
    rw [if_pos rfl]
    dsimp only
    split
    · exact .unchanged
    · rename_i select
      cases data with
      | none => exact .deselected
      | some dataSets =>
        rw [Option.bind_some] at select ⊢
        cases isHigh : getHighlight viewport dataSets x y with
        | none => exact .deselected
        | some highlight =>
          rw [isHigh] at select
          exact .selected rfl isHigh (Bool.eq_false_iff.mpr select)

variable [IsStrictOrderedRing K] {viewport : ChartViewport K} {xValue : K}

theorem Told.select {dataSets : List (LineChartDataSet K)} (inv : Told events view)
    (ascending : ∀ set ∈ dataSets, Ascending set.entries) (isData : view.data = some dataSets)
    {highlight : Highlight K} (candidate : Candidate viewport dataSets xValue highlight)
    (new : Highlight.same (some highlight) view.lastHighlighted = false) :
    Told events ({ view with lastHighlighted := some highlight }.highlightValue
      (some highlight)) := by
  have isEntry := entryForHighlight_candidate ascending candidate
  obtain ⟨set, found, -, -, -, inSet, -⟩ := candidate
  have result : { view with lastHighlighted := some highlight }.highlightValue (some highlight) =
      { view with
        lastHighlighted := some highlight
        indicesToHighlight := [highlight]
        delegateCalls := view.delegateCalls ++
          [.chartValueSelected ⟨highlight.x, highlight.y⟩ highlight] } := by
    rw [ChartView.highlightValue, isData, Option.bind_some, isEntry]
  rw [result]
  constructor
  · exact inv.given
  · rfl
  · exact (lastTold_concat view.delegateCalls
      (.chartValueSelected ⟨highlight.x, highlight.y⟩ highlight)).symm
  · refine differs_concat inv.differs fun last isLast => ?_
    cases last with
    | chartValueNothingSelected => trivial
    | chartValueSelected entry before =>
      have told := inv.told
      rw [lastTold, isLast] at told
      rw [told] at new
      exact new
  · intro entry other there
    rcases List.mem_append.mp there with before | isNew
    · exact inv.entries entry other before
    · cases List.mem_singleton.mp isNew
      exact ⟨rfl, dataSets, inv.given dataSets isData, set, found, inSet⟩

theorem Told.touch {next : ChartView K} {x y : K} (inv : Told events view)
    (ascending : ∀ dataSets, .setData (some dataSets) ∈ events →
      ∀ set ∈ dataSets, Ascending set.entries) (result : TouchResult view viewport x y next) :
    Told events next := by
  cases result with
  | unchanged => exact inv
  | deselected => exact inv.deselect
  | @selected dataSets highlight isData isHigh new =>
    have inOrder := ascending dataSets (inv.given dataSets isData)
    have finds := getHighlight_finds inOrder viewport x y
    rw [isHigh] at finds
    exact inv.select inOrder isData finds.1 new

theorem Told.step (inv : Told events view) {event : ChartViewEvent K} (there : event ∈ events)
    (ascending : ∀ dataSets, .setData (some dataSets) ∈ events →
      ∀ set ∈ dataSets, Ascending set.entries) : Told events (view.step event) := by
  cases event with
  | setData data =>
    refine ⟨fun dataSets isData => ?_, inv.shown, inv.told, inv.differs, inv.entries⟩
    have isNew : data = some dataSets := isData
    rwa [isNew] at there
  | tapGestureRecognized viewport x y => exact inv.touch ascending (tap_result view viewport x y)
  | panGestureChanged viewport x y => exact inv.touch ascending (pan_result view viewport x y)

theorem Told.run {past : List (ChartViewEvent K)} (inv : Told events view)
    (all : ∀ event ∈ past, event ∈ events)
    (ascending : ∀ dataSets, .setData (some dataSets) ∈ events →
      ∀ set ∈ dataSets, Ascending set.entries) : Told events (past.foldl ChartView.step view) := by
  induction past generalizing view with
  | nil => exact inv
  | cons event rest ih =>
    exact ih (inv.step (all event List.mem_cons_self) ascending)
      fun later there => all later (List.mem_cons_of_mem _ there)

/-- Where all data sets that the chart is given are in ascending order, what is highlighted is
what the delegate was last told about; it is told about entries of the data only, and never about
the same highlight twice in a row. -/
theorem delegate_follows_highlights (events : List (ChartViewEvent K))
    (ascending : ∀ dataSets, .setData (some dataSets) ∈ events →
      ∀ set ∈ dataSets, Ascending set.entries) (perTap perDrag : Bool) :
    let start : ChartView K :=
      { isHighLightPerTapEnabled := perTap, isHighlightPerDragEnabled := perDrag }
    let view := events.foldl ChartView.step start
    view.indicesToHighlight = view.lastHighlighted.toList ∧
      view.lastHighlighted = lastTold view.delegateCalls ∧
      view.delegateCalls.IsChain Differs ∧
      ∀ entry highlight, .chartValueSelected entry highlight ∈ view.delegateCalls →
        Given events entry highlight := by
  intro start view
  have fresh : Told events start :=
    ⟨fun _ isData => absurd isData (by simp [start]), rfl, rfl, List.IsChain.nil,
      fun _ _ there => absurd there List.not_mem_nil⟩
  have inv : Told events view := fresh.run (fun _ there => there) ascending
  exact ⟨inv.shown, inv.told, inv.differs, inv.entries⟩

end Delegates

/-- The second tap takes the highlight back. -/
def sampleTouches : List (ChartViewEvent ℚ) :=
  [.setData (some sampleDataSets), .tapGestureRecognized sampleViewport 1 7,
    .tapGestureRecognized sampleViewport 1 7]

theorem delegate_follows_highlights_sample :
    let start : ChartView ℚ :=
      { isHighLightPerTapEnabled := true, isHighlightPerDragEnabled := true }
    let view := sampleTouches.foldl ChartView.step start
    view.indicesToHighlight = view.lastHighlighted.toList ∧
      view.lastHighlighted = lastTold view.delegateCalls ∧
      view.delegateCalls.IsChain Differs ∧
      ∀ entry highlight, .chartValueSelected entry highlight ∈ view.delegateCalls →
        Given sampleTouches entry highlight := by
  apply delegate_follows_highlights
  intro dataSets there
  simp only [sampleTouches, List.mem_cons, ChartViewEvent.setData.injEq, Option.some.injEq,
    reduceCtorEq, List.not_mem_nil, or_false] at there
  rw [there]
  exact sampleDataSets_ascending

end FinanciaApp.Guarantees
