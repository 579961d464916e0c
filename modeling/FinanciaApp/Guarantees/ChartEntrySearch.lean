import FinanciaApp.Library.Numerals
import FinanciaApp.Source.ChartDataSet
import Mathlib

/-!
# The searches of a chart data set

The entries are in ascending order of `x`, and the arithmetic is exact: a `Double` is an element of
an ordered field. `place` is the number of entries left of a value.

* `entryIndex_rounds`: without a y-value the search by halves finds the last entry to the left,
  the first one to the right, or the nearest one, of any number of entries.
* `highlighted_are_nearest`: a touch highlights all entries at the x-value nearest to it.
-/

set_option autoImplicit false

namespace FinanciaApp.Guarantees

universe u

open Library Source Source.Charts

section Places

variable {K : Type u} [LinearOrder K]

def Ascending (entries : List (ChartDataEntry K)) : Prop :=
  (entries.map ChartDataEntry.x).Pairwise (· ≤ ·)

/-- How many entries are left of the value. -/
def place (entries : List (ChartDataEntry K)) (xValue : K) : Nat :=
  countBelow (entries.map ChartDataEntry.x) xValue

theorem place_le (entries : List (ChartDataEntry K)) (xValue : K) :
    place entries xValue ≤ entries.length := by
  simpa [place] using countBelow_le_length (entries.map ChartDataEntry.x) xValue

end Places

section Search

variable {K : Type u} [Field K] [LinearOrder K] {entries : List (ChartDataEntry K)}

theorem lt_iff_lt_place (ascending : Ascending entries) (xValue : K) {i : Nat}
    (bound : i < entries.length) : xAt entries i < xValue ↔ i < place entries xValue := by
  have inXs : i < (entries.map ChartDataEntry.x).length := by simpa using bound
  have found := lt_iff_lt_countBelow ascending xValue inXs
  rw [List.getElem_map] at found
  rw [xAt_eq entries bound]
  exact found

theorem le_iff_place_le (ascending : Ascending entries) (xValue : K) {i : Nat}
    (bound : i < entries.length) : xValue ≤ xAt entries i ↔ place entries xValue ≤ i := by
  rw [← not_lt, lt_iff_lt_place ascending xValue bound, Nat.not_lt]

theorem xAt_mono (ascending : Ascending entries) {i j : Nat} (le : i ≤ j)
    (bound : j < entries.length) : xAt entries i ≤ xAt entries j := by
  have iBound : i < entries.length := Nat.lt_of_le_of_lt le bound
  rw [xAt_eq entries iBound, xAt_eq entries bound]
  rcases Nat.eq_or_lt_of_le le with rfl | before
  · exact le_refl _
  · have ordered := List.pairwise_iff_getElem.mp ascending i j (by simpa using iBound)
      (by simpa using bound) before
    simpa using ordered

/-! ## All entries at a value -/

theorem backToFirst_eq (ascending : Ascending entries) (xValue : K) {m : Nat}
    (bound : m < entries.length) (equal : xAt entries m = xValue) :
    backToFirst entries xValue m = place entries xValue := by
  induction m with
  | zero =>
    have first := (le_iff_place_le ascending xValue bound).mp (le_of_eq equal.symm)
    rw [backToFirst, Nat.le_zero.mp first]
  | succ m ih =>
    have inside : m < entries.length := Nat.lt_of_succ_lt bound
    by_cases before : xAt entries m = xValue
    · rw [backToFirst, if_pos before]
      exact ih inside before
    · have ordered := xAt_mono ascending (Nat.le_succ m) bound
      have less : xAt entries m < xValue := lt_of_le_of_ne (equal ▸ ordered) before
      have isLeft := (lt_iff_lt_place ascending xValue inside).mp less
      have notLeft := (le_iff_place_le ascending xValue bound).mp (le_of_eq equal.symm)
      rw [backToFirst, if_neg before]
      omega

/-- The loop of `entriesForXValue`, once the value can only be between its two ends. -/
theorem entriesLoop_eq (ascending : Ascending entries) (xValue : K) {low high : Nat}
    (range : high ≤ entries.length) (below : ∀ i < low, i < entries.length → xAt entries i < xValue)
    (above : ∀ i < entries.length, high ≤ i → xValue < xAt entries i) :
    entriesLoop entries xValue low high = entries.filter fun entry => entry.x = xValue := by
  induction low, high using entriesLoop.induct entries xValue with
  | case1 low high isRange m found =>
    have bound : (high - 1 + low) / 2 < entries.length := by omega
    have first := backToFirst_eq ascending xValue bound found.symm
    rw [entriesLoop, if_pos isRange]
    refine (if_pos found).trans ?_
    rw [first]
    exact takeWhile_drop_countBelow ChartDataEntry.x ascending xValue
  | case2 low high isRange m notHere isLeft ih =>
    rw [entriesLoop, if_pos isRange]
    refine (if_neg notHere).trans ((if_pos isLeft).trans (ih range ?_ above))
    intro i before inside
    exact (xAt_mono ascending (Nat.le_of_lt_succ before) (by omega)).trans_lt isLeft
  | case3 low high isRange m notHere notLeft ih =>
    have less : xValue < xAt entries ((high - 1 + low) / 2) :=
      lt_of_le_of_ne (not_lt.mp notLeft) notHere
    rw [entriesLoop, if_pos isRange]
    refine (if_neg notHere).trans ((if_neg notLeft).trans (ih (by omega) below ?_))
    intro i inside after
    exact less.trans_le (xAt_mono ascending after inside)
  | case4 low high notRange =>
    rw [entriesLoop, if_neg notRange]
    refine (List.filter_eq_nil_iff.mpr (fun entry there => ?_)).symm
    obtain ⟨i, inside, isEntry⟩ := List.getElem_of_mem there
    have atIndex : xAt entries i = entry.x := by rw [xAt_eq entries inside, isEntry]
    rw [decide_eq_true_eq, ← atIndex]
    rcases Nat.lt_or_ge i low with before | after
    · exact ne_of_lt (below i before inside)
    · exact ne_of_gt (above i inside (by omega))

/-- The search finds exactly the entries at the value, in their order. -/
theorem entriesForXValue_eq (ascending : Ascending entries) (xValue : K) :
    entriesForXValue entries xValue = entries.filter fun entry => entry.x = xValue :=
  entriesLoop_eq ascending xValue (Nat.le_refl _)
    (fun i before => absurd before (Nat.not_lt_zero i))
    (fun _ inside after => absurd inside (Nat.not_lt.mpr after))

/-! ## The nearest entry and the roundings -/

/-- The entry with the least distance, the right one of two. -/
def nearestIndex (entries : List (ChartDataEntry K)) (xValue : K) : Nat :=
  let k := place entries xValue
  if k = entries.length then entries.length - 1
  else if 0 < k ∧ xValue - xAt entries (k - 1) < xAt entries k - xValue then k - 1
  else k

/-- All entries are left of the value, or the one before it is nearer, or the one after it. -/
theorem nearestIndex_cases (entries : List (ChartDataEntry K)) (xValue : K) {k : Nat}
    (isPlace : place entries xValue = k) :
    (k = entries.length ∧ nearestIndex entries xValue = entries.length - 1) ∨
    (0 < k ∧ k < entries.length ∧ nearestIndex entries xValue = k - 1 ∧
      xValue - xAt entries (k - 1) < xAt entries k - xValue) ∨
    (k < entries.length ∧ nearestIndex entries xValue = k ∧
      (0 < k → xAt entries k - xValue ≤ xValue - xAt entries (k - 1))) := by
  have kBound := place_le entries xValue
  simp only [nearestIndex, isPlace] at kBound ⊢
  by_cases all : k = entries.length
  · exact .inl ⟨all, if_pos all⟩
  · rw [if_neg all]
    have inside : k < entries.length := Nat.lt_of_le_of_ne kBound all
    by_cases nearer : 0 < k ∧ xValue - xAt entries (k - 1) < xAt entries k - xValue
    · exact .inr (.inl ⟨nearer.1, inside, if_pos nearer, nearer.2⟩)
    · refine .inr (.inr ⟨inside, if_neg nearer, fun positive => ?_⟩)
      exact not_lt.mp (fun less => nearer ⟨positive, less⟩)

theorem nearestIndex_lt (nonempty : entries ≠ []) (xValue : K) :
    nearestIndex entries xValue < entries.length := by
  have positive : 0 < entries.length := List.length_pos_iff.mpr nonempty
  rcases nearestIndex_cases entries xValue rfl with all | before | after <;> omega

variable [IsStrictOrderedRing K]

/-- The entry at `m` is right of the value, or nearer to it than the next one. -/
theorem goesLower_iff (ascending : Ascending entries) (xValue : K) {m : Nat}
    (bound : m + 1 < entries.length) :
    goesLower entries xValue m = true ↔
      xValue ≤ xAt entries m ∨ 2 * xValue < xAt entries m + xAt entries (m + 1) := by
  have ordered := xAt_mono ascending (Nat.le_succ m) bound
  simp only [goesLower, decide_eq_true_eq]
  rcases le_or_gt xValue (xAt entries m) with right | left
  · have first : 0 ≤ xAt entries m - xValue := sub_nonneg.mpr right
    have second : 0 ≤ xAt entries (m + 1) - xValue := sub_nonneg.mpr (right.trans ordered)
    rw [abs_of_nonneg first, abs_of_nonneg second]
    refine iff_of_true ?_ (.inl right)
    rcases lt_or_eq_of_le (sub_le_sub_right ordered xValue) with less | equal
    · exact .inl less
    · exact .inr ⟨equal, first⟩
  · have first : xAt entries m - xValue < 0 := sub_neg.mpr left
    rw [abs_of_neg first]
    have notRight : ¬ (xValue ≤ xAt entries m) := not_le.mpr left
    have notNonneg : ¬ (0 ≤ xAt entries m - xValue) := not_le.mpr first
    simp only [notRight, notNonneg, false_or, and_false, or_false]
    rcases le_or_gt xValue (xAt entries (m + 1)) with nextRight | nextLeft
    · rw [abs_of_nonneg (sub_nonneg.mpr nextRight)]
      constructor <;> intro less <;> linarith
    · rw [abs_of_neg (sub_neg.mpr nextLeft)]
      constructor <;> intro less <;> linarith

theorem closestLoop_eq (ascending : Ascending entries) (nonempty : entries ≠ []) (xValue : K) :
    closestLoop entries xValue 0 (entries.length - 1) = nearestIndex entries xValue := by
  have positive : 0 < entries.length := List.length_pos_iff.mpr nonempty
  have lower {m : Nat} (bound : m + 1 < entries.length) := goesLower_iff ascending xValue bound
  have upward : ∀ i, 0 ≤ i → i + 1 < entries.length - 1 → goesLower entries xValue i = true →
      goesLower entries xValue (i + 1) = true := by
    intro i _ before goes
    have ordered := xAt_mono ascending (Nat.le_succ i) (by omega : i + 1 < entries.length)
    rw [lower (by omega)] at goes ⊢
    rcases goes with right | nearer
    · exact .inl (right.trans ordered)
    · exact .inl (by linarith)
  obtain ⟨-, atMost, not, holds⟩ := bisect_spec (Nat.zero_le (entries.length - 1)) upward
  rw [closestLoop_eq_bisect]
  generalize bisect (goesLower entries xValue) 0 (entries.length - 1) = r at atMost not holds ⊢
  have left {i : Nat} (bound : i < entries.length) := lt_iff_lt_place ascending xValue bound
  have right {i : Nat} (bound : i < entries.length) := le_iff_place_le ascending xValue bound
  have cases := nearestIndex_cases entries xValue rfl
  have kBound := place_le entries xValue
  generalize place entries xValue = k at left right cases kBound
  -- the loop does not stop while the next entry is left of the value
  have atLeast : r = entries.length - 1 ∨ k ≤ r + 1 := by
    by_contra both
    obtain ⟨notLast, before⟩ := not_or.mp both
    have rLeft : xAt entries r < xValue := (left (by omega)).mpr (by omega)
    have nextLeft : xAt entries (r + 1) < xValue := (left (by omega)).mpr (by omega)
    rcases (lower (by omega)).mp (holds (by omega)) with isRight | nearer
    · exact absurd isRight (not_le.mpr rLeft)
    · linarith
  -- and it does not pass the first entry that is not
  have notPast : k < entries.length → r ≤ k := by
    intro inside
    by_contra past
    have stops := not k (Nat.zero_le k) (by omega)
    rw [(lower (by omega)).mpr (.inl ((right inside).mpr (Nat.le_refl k)))] at stops
    cases stops
  rcases cases with ⟨all, isLast⟩ | ⟨kPos, inside, isBefore, nearer⟩ | ⟨inside, isAfter, other⟩
  · omega
  · by_contra different
    have stops := not (k - 1) (Nat.zero_le _) (by have := notPast inside; omega)
    have next : k - 1 + 1 = k := by omega
    have goes : goesLower entries xValue (k - 1) = true := by
      rw [lower (by omega), next]
      exact .inr (by linarith)
    rw [goes] at stops
    cases stops
  · by_contra different
    have isBefore : r = k - 1 := by
      have := notPast inside
      omega
    have next : k - 1 + 1 = k := by
      have := notPast inside
      omega
    have rLeft : xAt entries (k - 1) < xValue := (left (by omega)).mpr (by omega)
    have goes := holds (by omega)
    rw [lower (by omega), isBefore, next] at goes
    rcases goes with isRight | nearer
    · exact absurd isRight (not_le.mpr rLeft)
    · have := other (by omega)
      linarith

theorem nearestIndex_nearest (ascending : Ascending entries) (xValue : K) {j : Nat}
    (bound : j < entries.length) :
    |xAt entries (nearestIndex entries xValue) - xValue| ≤ |xAt entries j - xValue| := by
  have left {i : Nat} (bound : i < entries.length) := lt_iff_lt_place ascending xValue bound
  have right {i : Nat} (bound : i < entries.length) := le_iff_place_le ascending xValue bound
  have kBound := place_le entries xValue
  have ofLeft {i : Nat} (isLeft : xAt entries i < xValue) :
      |xAt entries i - xValue| = xValue - xAt entries i := by
    rw [abs_of_neg (sub_neg.mpr isLeft), neg_sub]
  have ofRight {i : Nat} (isRight : xValue ≤ xAt entries i) :
      |xAt entries i - xValue| = xAt entries i - xValue :=
    abs_of_nonneg (sub_nonneg.mpr isRight)
  have cases := nearestIndex_cases entries xValue rfl
  generalize place entries xValue = k at left right kBound cases
  rcases cases with ⟨all, isLast⟩ | ⟨kPos, inside, isBefore, nearer⟩ | ⟨inside, isAfter, other⟩
  · have ordered := xAt_mono ascending (by omega : j ≤ entries.length - 1) (by omega)
    rw [isLast, ofLeft ((left bound).mpr (by omega)), ofLeft ((left (by omega)).mpr (by omega))]
    linarith
  · rw [isBefore, ofLeft ((left (by omega)).mpr (by omega))]
    rcases Nat.lt_or_ge j k with jBefore | jAfter
    · have ordered := xAt_mono ascending (by omega : j ≤ k - 1) (by omega)
      rw [ofLeft ((left bound).mpr jBefore)]
      linarith
    · have ordered := xAt_mono ascending jAfter bound
      rw [ofRight ((right bound).mpr jAfter)]
      linarith
  · rw [isAfter, ofRight ((right inside).mpr (Nat.le_refl k))]
    rcases Nat.lt_or_ge j k with jBefore | jAfter
    · have ordered := xAt_mono ascending (by omega : j ≤ k - 1) (by omega)
      have notNearer := other (by omega)
      rw [ofLeft ((left bound).mpr jBefore)]
      linarith
    · have ordered := xAt_mono ascending jAfter bound
      rw [ofRight ((right bound).mpr jAfter)]
      linarith

/-- The index that each rounding leads to. -/
def roundedIndex (entries : List (ChartDataEntry K)) (xValue : K) :
    ChartDataSetRounding → Nat
  | .closest => nearestIndex entries xValue
  | .up => min (place entries xValue) (entries.length - 1)
  | .down =>
    if place entries xValue < entries.length ∧ xAt entries (place entries xValue) = xValue then
      place entries xValue
    else place entries xValue - 1

theorem entryIndex_eq (ascending : Ascending entries) (nonempty : entries ≠ []) (xValue : K)
    (rounding : ChartDataSetRounding) :
    entryIndex entries xValue none rounding = some (roundedIndex entries xValue rounding) := by
  have left {i : Nat} (bound : i < entries.length) := lt_iff_lt_place ascending xValue bound
  have right {i : Nat} (bound : i < entries.length) := le_iff_place_le ascending xValue bound
  have positive : 0 < entries.length := List.length_pos_iff.mpr nonempty
  have found := closestLoop_eq ascending nonempty xValue
  simp only [entryIndex, if_neg nonempty, found]
  refine congrArg some ?_
  have cases := nearestIndex_cases entries xValue rfl
  cases rounding with
  | closest => rfl
  | up =>
    simp only [roundedIndex]
    generalize place entries xValue = k at left right cases ⊢
    rcases cases with ⟨all, isLast⟩ | ⟨kPos, inside, isBefore, -⟩ | ⟨inside, isAfter, -⟩
    · rw [isLast, if_neg (fun both => absurd both.2 (Nat.lt_irrefl _))]
      omega
    · rw [isBefore, if_pos ⟨(left (by omega)).mpr (by omega), by omega⟩]
      omega
    · have kRight := (right inside).mpr (Nat.le_refl k)
      rw [isAfter, if_neg (fun both => absurd both.1 (not_lt.mpr kRight))]
      omega
  | down =>
    simp only [roundedIndex]
    generalize place entries xValue = k at left right cases ⊢
    rcases cases with ⟨all, isLast⟩ | ⟨kPos, inside, isBefore, nearer⟩ | ⟨inside, isAfter, -⟩
    · have lastLeft := (left (by omega : entries.length - 1 < entries.length)).mpr (by omega)
      rw [isLast, if_neg (fun both => absurd both.1 (lt_asymm lastLeft)),
        if_neg (fun both => absurd both.1 (by omega)), all]
    · have rLeft : xAt entries (k - 1) < xValue := (left (by omega)).mpr (by omega)
      rw [isBefore, if_neg (fun both => absurd both.1 (lt_asymm rLeft)), if_neg]
      intro both
      linarith [both.2]
    · have kRight := (right inside).mpr (Nat.le_refl k)
      rw [isAfter]
      by_cases same : xAt entries k = xValue
      · rw [if_neg (fun both => absurd both.1 (by rw [same]; exact lt_irrefl xValue)),
          if_pos ⟨inside, same⟩]
      · have notSame : ¬(k < entries.length ∧ xAt entries k = xValue) := fun both => same both.2
        rw [if_neg notSame]
        split
        · rfl
        · rename_i notBoth
          have less : xValue < xAt entries k := lt_of_le_of_ne kRight (Ne.symm same)
          have isZero : ¬ 0 < k := fun positive => notBoth ⟨less, positive⟩
          omega

/-- What an index has to do with the value, for each rounding: no entry is nearer; it is the
first entry that is not left of the value, or the last entry; it is the first entry at the value
or the last one left of it, or the first entry. -/
def Rounds (entries : List (ChartDataEntry K)) (xValue : K) (index : Nat) :
    ChartDataSetRounding → Prop
  | .closest => ∀ j < entries.length, |xAt entries index - xValue| ≤ |xAt entries j - xValue|
  | .up => (∀ j < index, xAt entries j < xValue) ∧
      (xValue ≤ xAt entries index ∨ index + 1 = entries.length)
  | .down => (∀ j < entries.length, xAt entries j = xValue → xAt entries index = xValue) ∧
      (∀ j < index, xAt entries j < xValue) ∧
      (∀ j < entries.length, index < j → xValue ≤ xAt entries j) ∧
      (xAt entries index ≤ xValue ∨ index = 0)

/-- The index is in range, and what the rounding asks for. -/
theorem roundedIndex_rounds (ascending : Ascending entries) (nonempty : entries ≠ [])
    (xValue : K) (rounding : ChartDataSetRounding) :
    roundedIndex entries xValue rounding < entries.length ∧
      Rounds entries xValue (roundedIndex entries xValue rounding) rounding := by
  have left {i : Nat} (bound : i < entries.length) := lt_iff_lt_place ascending xValue bound
  have right {i : Nat} (bound : i < entries.length) := le_iff_place_le ascending xValue bound
  have positive : 0 < entries.length := List.length_pos_iff.mpr nonempty
  have kBound := place_le entries xValue
  cases rounding with
  | closest =>
    exact ⟨nearestIndex_lt nonempty xValue, fun j => nearestIndex_nearest ascending xValue⟩
  | up =>
    simp only [roundedIndex, Rounds]
    generalize place entries xValue = k at left right kBound ⊢
    refine ⟨by omega, fun j before => (left (by omega)).mpr (by omega), ?_⟩
    rcases Nat.lt_or_ge k entries.length with inside | all
    · exact .inl ((right (by omega)).mpr (by omega))
    · exact .inr (by omega)
  | down =>
    simp only [roundedIndex, Rounds]
    generalize place entries xValue = k at left right kBound ⊢
    by_cases exact_ : k < entries.length ∧ xAt entries k = xValue
    · rw [if_pos exact_]
      refine ⟨exact_.1, fun _ _ _ => exact_.2, fun j before => (left (by omega)).mpr before, ?_,
        .inl (le_of_eq exact_.2)⟩
      exact fun j bound after => (right bound).mpr (by omega)
    · rw [if_neg exact_]
      have noneEqual : ∀ j < entries.length, xAt entries j ≠ xValue := by
        intro j bound equal
        have after := (right bound).mp (le_of_eq equal.symm)
        have kRight : xValue ≤ xAt entries k := (right (by omega)).mpr (Nat.le_refl k)
        have ordered := xAt_mono ascending after bound
        exact exact_ ⟨by omega, le_antisymm (ordered.trans (le_of_eq equal)) kRight⟩
      refine ⟨by omega, fun j bound equal => absurd equal (noneEqual j bound),
        fun j before => (left (by omega)).mpr (by omega),
        fun j bound after => (right bound).mpr (by omega), ?_⟩
      rcases Nat.eq_zero_or_pos k with isZero | isPos
      · exact .inr (by omega)
      · exact .inl (le_of_lt ((left (by omega)).mpr (by omega)))

/-- Without a y-value the search finds the entry that the rounding asks for. -/
theorem entryIndex_rounds (ascending : Ascending entries) (nonempty : entries ≠ [])
    (xValue : K) (rounding : ChartDataSetRounding) :
    ∃ index, entryIndex entries xValue none rounding = some index ∧ index < entries.length ∧
      Rounds entries xValue index rounding :=
  ⟨_, entryIndex_eq ascending nonempty xValue rounding,
    roundedIndex_rounds ascending nonempty xValue rounding⟩

/-- The x-value of the nearest entry. -/
def nearestX (entries : List (ChartDataEntry K)) (xValue : K) : K :=
  xAt entries (nearestIndex entries xValue)

theorem nearestX_nearest (ascending : Ascending entries) (xValue : K)
    {entry : ChartDataEntry K} (there : entry ∈ entries) :
    |nearestX entries xValue - xValue| ≤ |entry.x - xValue| := by
  obtain ⟨j, inside, isEntry⟩ := List.getElem_of_mem there
  have nearest := nearestIndex_nearest ascending xValue inside
  rwa [xAt_eq entries inside, isEntry] at nearest

theorem nearestX_of_mem (ascending : Ascending entries) {entry : ChartDataEntry K}
    (there : entry ∈ entries) : nearestX entries entry.x = entry.x := by
  have nearest := nearestX_nearest ascending entry.x there
  rw [sub_self, abs_zero] at nearest
  exact sub_eq_zero.mp (abs_eq_zero.mp (le_antisymm nearest (abs_nonneg _)))

theorem highlightedEntries_eq (ascending : Ascending entries) (xValue : K) :
    highlightedEntries entries xValue .closest =
      entries.filter fun entry => entry.x = nearestX entries xValue := by
  unfold highlightedEntries
  rw [entriesForXValue_eq ascending xValue]
  split
  · by_cases nonempty : entries = []
    · subst nonempty
      rfl
    · have bound := nearestIndex_lt nonempty xValue
      have found := entryIndex_eq ascending nonempty xValue .closest
      have closest : entryForXValue entries xValue none .closest =
          some entries[nearestIndex entries xValue] := by
        rw [entryForXValue, found, Option.bind_some]
        exact List.getElem?_eq_getElem bound
      rw [closest, nearestX, xAt_eq entries bound]
      exact entriesForXValue_eq ascending _
  · rename_i isHere
    obtain ⟨entry, there⟩ := List.exists_mem_of_ne_nil _ isHere
    obtain ⟨inEntries, atValue⟩ := List.mem_filter.mp there
    have equal : entry.x = xValue := of_decide_eq_true atValue
    rw [← equal, nearestX_of_mem ascending inEntries]

/-- A touch highlights all entries at one x-value, and no entry is nearer to the touch. -/
theorem highlighted_are_nearest (ascending : Ascending entries) (nonempty : entries ≠ [])
    (xValue : K) :
    ∃ nearest ∈ entries, (∀ entry ∈ entries, |nearest.x - xValue| ≤ |entry.x - xValue|) ∧
      highlightedEntries entries xValue .closest =
        entries.filter fun entry => entry.x = nearest.x := by
  have bound := nearestIndex_lt nonempty xValue
  have isNearest : nearestX entries xValue = entries[nearestIndex entries xValue].x :=
    xAt_eq entries bound
  refine ⟨_, List.getElem_mem bound, fun entry there => ?_, ?_⟩
  · rw [← isNearest]
    exact nearestX_nearest ascending xValue there
  · rw [← isNearest]
    exact highlightedEntries_eq ascending xValue

/-! ## Back from a value to its entry -/

/-- An entry with exactly the y-value is not passed over, although the loop compares with the
y-value that it looks for once it has found a nearer one. -/
theorem closestYLoop_exact (x y : K) (P : Nat → Prop) :
    ∀ (rest : List (ChartDataEntry K × Nat)) (closestYValue : K) (closestYIndex : Nat),
      (∀ pair ∈ rest, pair.1 = ⟨x, y⟩ → P pair.2) →
      (closestYValue = y ∧ P closestYIndex ∨
        ∃ pair ∈ rest.takeWhile (fun pair => pair.1.x = x), pair.1 = ⟨x, y⟩) →
      P (closestYLoop x y rest closestYValue closestYIndex)
  | [], _, _, _, found => by
    rcases found with here | ⟨_, there, _⟩
    · exact here.2
    · cases there
  | (value, index) :: rest, closestYValue, closestYIndex, hits, found => by
    have later : ∀ pair ∈ rest, pair.1 = ⟨x, y⟩ → P pair.2 :=
      fun pair there => hits pair (List.mem_cons_of_mem _ there)
    by_cases atX : value.x = x
    · rw [closestYLoop, if_neg (not_not.mpr atX)]
      rw [List.takeWhile_cons_of_pos (by simpa using atX)] at found
      split
      · rename_i nearer
        refine closestYLoop_exact x y P rest y index later ?_
        rcases found with ⟨isY, -⟩ | ⟨pair, there, isEntry⟩
        · rw [isY, sub_self, abs_zero] at nearer
          have isValue : value.y = y :=
            sub_eq_zero.mp (abs_eq_zero.mp (le_antisymm nearer (abs_nonneg _)))
          refine .inl ⟨rfl, hits _ List.mem_cons_self ?_⟩
          rw [← atX, ← isValue]
        · rcases List.mem_cons.mp there with rfl | inRest
          · exact .inl ⟨rfl, hits _ List.mem_cons_self isEntry⟩
          · exact .inr ⟨pair, inRest, isEntry⟩
      · rename_i notNearer
        refine closestYLoop_exact x y P rest closestYValue closestYIndex later ?_
        rcases found with here | ⟨pair, there, isEntry⟩
        · exact .inl here
        · rcases List.mem_cons.mp there with rfl | inRest
          · refine absurd ?_ notNearer
            have isValue : value.y = y := congrArg ChartDataEntry.y isEntry
            rw [isValue, sub_self, abs_zero]
            exact abs_nonneg _
          · exact .inr ⟨pair, inRest, isEntry⟩
    · rw [closestYLoop, if_pos atX]
      rw [List.takeWhile_cons_of_neg (by simpa using atX)] at found
      rcases found with here | ⟨_, there, _⟩
      · exact here.2
      · cases there

/-- The values of an entry lead back to it, also among several entries at its x-value. -/
theorem entryForXValue_self (ascending : Ascending entries) {entry : ChartDataEntry K}
    (there : entry ∈ entries) :
    entryForXValue entries entry.x (some entry.y) .closest = some entry := by
  have nonempty : entries ≠ [] := List.ne_nil_of_mem there
  have bound := nearestIndex_lt nonempty entry.x
  have atX : xAt entries (nearestIndex entries entry.x) = entry.x :=
    nearestX_of_mem ascending there
  have isFirst : backToFirst entries entry.x (nearestIndex entries entry.x) =
      place entries entry.x := backToFirst_eq ascending entry.x bound atX
  have inside : place entries entry.x < entries.length :=
    ((le_iff_place_le ascending entry.x bound).mp (le_of_eq atX.symm)).trans_lt bound
  have group : ∃ pair ∈ (entries.zipIdx.drop (place entries entry.x)).takeWhile
      (fun pair => pair.1.x = entry.x), pair.1 = entry := by
    have all := takeWhile_drop_countBelow ChartDataEntry.x ascending entry.x
    have inGroup : entry ∈ (entries.drop (place entries entry.x)).takeWhile
        fun other => other.x = entry.x := by
      rw [place, all]
      exact List.mem_filter.mpr ⟨there, decide_eq_true rfl⟩
    have drops : entries.drop (place entries entry.x) =
        (entries.zipIdx.drop (place entries entry.x)).map Prod.fst := by
      rw [List.map_drop, List.zipIdx_map_fst]
    rw [drops, List.takeWhile_map] at inGroup
    exact List.mem_map.mp inGroup
  have hits : ∀ pair ∈ entries.zipIdx.drop (place entries entry.x), pair.1 = ⟨entry.x, entry.y⟩ →
      entries[pair.2]? = some entry := by
    intro pair inDrop isEntry
    have found := List.mem_zipIdx_iff_getElem?.mp (List.mem_of_mem_drop inDrop)
    rw [found, isEntry]
  rw [entryForXValue, entryIndex, if_neg nonempty, closestLoop_eq ascending nonempty]
  simp only [atX, Option.bind_some, closestToY, isFirst]
  cases isDrop : entries.zipIdx.drop (place entries entry.x) with
  | nil =>
    rw [isDrop] at group
    obtain ⟨_, inNil, _⟩ := group
    cases inNil
  | cons head rest =>
    obtain ⟨value, index⟩ := head
    rw [isDrop] at group hits
    obtain ⟨pair, inGroup, isEntry⟩ := group
    refine closestYLoop_exact entry.x entry.y (fun i => entries[i]? = some entry) rest value.y index
      (fun pair later => hits pair (List.mem_cons_of_mem _ later)) ?_
    by_cases valueAtX : value.x = entry.x
    · rw [List.takeWhile_cons_of_pos (by simpa using valueAtX)] at inGroup
      rcases List.mem_cons.mp inGroup with rfl | inRest
      · exact .inl ⟨congrArg ChartDataEntry.y isEntry, hits _ List.mem_cons_self isEntry⟩
      · exact .inr ⟨pair, inRest, isEntry⟩
    · rw [List.takeWhile_cons_of_neg (by simpa using valueAtX)] at inGroup
      cases inGroup

end Search

/-- Two entries share an x-value. -/
def sampleEntries : List (ChartDataEntry ℚ) := [⟨0, 3⟩, ⟨1, 5⟩, ⟨1, 4⟩, ⟨3, 2⟩]

theorem sampleEntries_ascending : Ascending sampleEntries := by
  simp [Ascending, sampleEntries]

theorem entryIndex_rounds_sample :
    ∃ index, entryIndex sampleEntries 2 none .closest = some index ∧
      index < sampleEntries.length ∧ Rounds sampleEntries 2 index .closest :=
  entryIndex_rounds sampleEntries_ascending (by simp [sampleEntries]) 2 .closest

theorem highlighted_are_nearest_sample :
    ∃ nearest ∈ sampleEntries,
      (∀ entry ∈ sampleEntries, |nearest.x - 2| ≤ |entry.x - 2|) ∧
        highlightedEntries sampleEntries 2 .closest =
          sampleEntries.filter fun entry => entry.x = nearest.x :=
  highlighted_are_nearest sampleEntries_ascending (by simp [sampleEntries]) 2

end FinanciaApp.Guarantees
