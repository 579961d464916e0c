import Mathlib.Tactic.FieldSimp
import Mathlib.Tactic.Linarith
import Mathlib.Tactic.Ring
import FinanciaApp.Library.Runs
import FinanciaApp.Source.ATCLiquidCollectionViewLayout

/-!
# The frames of the liquid layout

The loop of `prepare` deals the rows to the columns in turn: `rowFrames` are the padded
frames it computes, with the total of a column as the next `y`, and the cache holds them
without the padding.
-/

set_option autoImplicit false

namespace FinanciaApp.Guarantees

open Library Source Source.ATCLiquidCollectionViewLayout

def paddedHeights (cellPadding : Rat) (cellHeights : List Rat) : List Rat :=
  cellHeights.map fun cellHeight => cellPadding + cellHeight + cellPadding

@[simp] theorem paddedHeights_concat (cellPadding : Rat) (cellHeights : List Rat)
    (cellHeight : Rat) :
    paddedHeights cellPadding (cellHeights ++ [cellHeight]) =
      paddedHeights cellPadding cellHeights ++ [cellPadding + cellHeight + cellPadding] := by
  simp [paddedHeights]

/-- The total of a column after one more row. -/
theorem columnTotal_concat (cellPadding : Rat) (columns column : Nat) (cellHeights : List Rat)
    (cellHeight : Rat) :
    laneTotal columns column (paddedHeights cellPadding (cellHeights ++ [cellHeight])) =
      laneTotal columns column (paddedHeights cellPadding cellHeights) +
        if cellHeights.length % columns = column then cellPadding + cellHeight + cellPadding
        else 0 := by
  rw [paddedHeights_concat, laneTotal_concat]
  simp [paddedHeights]

section Rows

variable (cellPadding cellWidth : Rat) (columns : Nat) (offset : Nat → Rat)

/-- The padded frame of a row below the rows before it. -/
def rowFrame (before : List Rat) (cellHeight : Rat) : CGRect where
  x := offset (before.length % columns)
  y := laneTotal columns (before.length % columns) (paddedHeights cellPadding before)
  width := cellWidth
  height := cellPadding + cellHeight + cellPadding

def rowFrames (cellHeights : List Rat) : List CGRect :=
  cellHeights.zipIdx.map fun cell =>
    rowFrame cellPadding cellWidth columns offset (cellHeights.take cell.2) cell.1

/-- The cache for padded frames. -/
def cacheOf (frames : List CGRect) : List UICollectionViewLayoutAttributes :=
  frames.zipIdx.map fun frame => ⟨frame.2, frame.1.insetBy 0 cellPadding⟩

variable {cellPadding cellWidth columns offset}

@[simp] theorem length_rowFrames (cellHeights : List Rat) :
    (rowFrames cellPadding cellWidth columns offset cellHeights).length = cellHeights.length := by
  simp [rowFrames]

theorem rowFrames_concat (cellHeights : List Rat) (cellHeight : Rat) :
    rowFrames cellPadding cellWidth columns offset (cellHeights ++ [cellHeight]) =
      rowFrames cellPadding cellWidth columns offset cellHeights ++
        [rowFrame cellPadding cellWidth columns offset cellHeights cellHeight] := by
  unfold rowFrames
  rw [List.zipIdx_append, List.map_append]
  congr 1
  · apply List.map_congr_left
    intro cell placed
    have bound := List.snd_lt_of_mem_zipIdx placed
    rw [List.take_append_of_le_length (by omega)]
  · simp

theorem element_map_range {column : Nat} (f : Nat → Rat) (bound : column < columns) :
    element ((List.range columns).map f) column = .ok (f column) := by
  simp [element, bound]

/-- Writing to one column. -/
theorem set_map_range {column : Nat} (f g : Nat → Rat)
    (others : ∀ other, other ≠ column → f other = g other) :
    ((List.range columns).map f).set column (g column) = (List.range columns).map g := by
  refine List.ext_getElem (by simp) ?_
  intro other _ _
  by_cases same : column = other
  · simp [same]
  · simp [same, others other (Ne.symm same)]

/-- The column after a row: the next one, or the first after the last. -/
theorem next_column (positive : 0 < columns) (row : Nat) :
    (if ((row % columns : Nat) : Int) ≥ columns - 1 then 0 else row % columns + 1) =
      (row + 1) % columns := by
  have bound := Nat.mod_lt row positive
  have next : (row + 1) % columns = (row % columns + 1) % columns :=
    (Nat.mod_add_mod row columns 1).symm
  rw [next]
  split
  · have last : row % columns + 1 = columns := by omega
    rw [last, Nat.mod_self]
  · have within : row % columns + 1 < columns := by omega
    exact (Nat.mod_eq_of_lt within).symm

/-- One row of the loop. -/
theorem placeRow_spec (positive : 0 < columns) (before : List Rat) (cellHeight : Rat)
    (cache : List UICollectionViewLayoutAttributes) (contentHeight : Rat) :
    placeRow cellPadding cellWidth columns ((List.range columns).map offset)
        { column := before.length % columns
          yOffset := (List.range columns).map fun column =>
            laneTotal columns column (paddedHeights cellPadding before)
          cache := cache
          contentHeight := contentHeight }
        (cellHeight, before.length) =
      .ok {
        column := (before.length + 1) % columns
        yOffset := (List.range columns).map fun column =>
          laneTotal columns column (paddedHeights cellPadding (before ++ [cellHeight]))
        cache := cache ++ [⟨before.length,
          (rowFrame cellPadding cellWidth columns offset before cellHeight).insetBy 0 cellPadding⟩]
        contentHeight := max contentHeight
          (rowFrame cellPadding cellWidth columns offset before cellHeight).maxY } := by
  have bound := Nat.mod_lt before.length positive
  have written := @set_map_range columns (before.length % columns)
    (fun column => laneTotal columns column (paddedHeights cellPadding before))
    (fun column => laneTotal columns column (paddedHeights cellPadding (before ++ [cellHeight])))
    (fun other different => by rw [columnTotal_concat, if_neg (Ne.symm different), add_zero])
  rw [columnTotal_concat, if_pos rfl] at written
  simp only [placeRow, element_map_range _ bound, bind, Except.bind, written,
    next_column positive]
  rfl

/-- The loop over the rows. -/
theorem placeRows_spec (positive : 0 < columns) (start : Rat) (cellHeights : List Rat) :
    cellHeights.zipIdx.foldlM
        (placeRow cellPadding cellWidth columns ((List.range columns).map offset))
        ⟨0, List.replicate columns 0, [], start⟩ =
      .ok {
        column := cellHeights.length % columns
        yOffset := (List.range columns).map fun column =>
          laneTotal columns column (paddedHeights cellPadding cellHeights)
        cache := cacheOf cellPadding (rowFrames cellPadding cellWidth columns offset cellHeights)
        contentHeight := ((rowFrames cellPadding cellWidth columns offset cellHeights).map
          CGRect.maxY).foldl max start } := by
  induction cellHeights using List.reverseRecOn with
  | nil => simp [rowFrames, cacheOf, paddedHeights, Nat.zero_mod, pure, Except.pure,
      List.map_const']
  | append_singleton cellHeights cellHeight ih =>
    rw [List.zipIdx_append, List.foldlM_append, ih, rowFrames_concat]
    simp [bind, Except.bind, placeRow_spec positive, cacheOf, List.zipIdx_append, pure, Except.pure]

/-- A point strictly inside a rectangle. -/
structure InteriorContains (rect : CGRect) (x y : Rat) : Prop where
  left : rect.x < x
  right : x < rect.x + rect.width
  top : rect.y < y
  bottom : y < rect.y + rect.height

def InteriorsDisjoint (first second : CGRect) : Prop :=
  ∀ x y, ¬ (InteriorContains first x y ∧ InteriorContains second x y)

/-- The frame lies in a column, and ends before the next row of the column starts. -/
def InColumn (cellPadding cellWidth : Rat) (columns : Nat) (offset : Nat → Rat)
    (cellHeights : List Rat) (frame : CGRect) : Prop :=
  ∃ column < columns, frame.x = offset column ∧ frame.width = cellWidth ∧ 0 ≤ frame.y ∧
    frame.y + frame.height ≤ laneTotal columns column (paddedHeights cellPadding cellHeights)

theorem paddedHeights_nonneg (paddingNonneg : 0 ≤ cellPadding) {cellHeights : List Rat}
    (heightsNonneg : ∀ cellHeight ∈ cellHeights, 0 ≤ cellHeight) :
    ∀ height ∈ paddedHeights cellPadding cellHeights, 0 ≤ height := by
  intro height padded
  obtain ⟨cellHeight, here, rfl⟩ := List.mem_map.mp padded
  have := heightsNonneg cellHeight here
  linarith

/-- The frames of one more row. -/
theorem inColumn_concat (paddingNonneg : 0 ≤ cellPadding) (positive : 0 < columns)
    {cellHeights : List Rat} {cellHeight : Rat}
    (heightsNonneg : ∀ h ∈ cellHeights ++ [cellHeight], 0 ≤ h)
    (inColumn : ∀ frame ∈ rowFrames cellPadding cellWidth columns offset cellHeights,
      InColumn cellPadding cellWidth columns offset cellHeights frame) :
    ∀ frame ∈ rowFrames cellPadding cellWidth columns offset (cellHeights ++ [cellHeight]),
      InColumn cellPadding cellWidth columns offset (cellHeights ++ [cellHeight]) frame := by
  have padded := paddedHeights_nonneg paddingNonneg heightsNonneg
  rw [paddedHeights_concat] at padded
  intro frame placed
  rw [rowFrames_concat, List.mem_append, List.mem_singleton] at placed
  unfold InColumn
  rcases placed with earlier | rfl
  · obtain ⟨column, bound, x, width, y, ends⟩ := inColumn frame earlier
    refine ⟨column, bound, x, width, y, ends.trans ?_⟩
    rw [paddedHeights_concat]
    exact laneTotal_le_append _ _ _ fun h last => padded h (List.mem_append_right _ last)
  · refine ⟨_, Nat.mod_lt cellHeights.length positive, rfl, rfl, ?_, ?_⟩
    · exact laneTotal_nonneg _ _ fun h here => padded h (List.mem_append_left _ here)
    · rw [columnTotal_concat, if_pos rfl]
      rfl

/-- No two padded frames overlap, if the columns do not. -/
theorem rowFrames_disjoint (paddingNonneg : 0 ≤ cellPadding) (positive : 0 < columns)
    (apart : ∀ column other, column < other → offset column + cellWidth ≤ offset other)
    {cellHeights : List Rat} (heightsNonneg : ∀ h ∈ cellHeights, 0 ≤ h) :
    (∀ frame ∈ rowFrames cellPadding cellWidth columns offset cellHeights,
        InColumn cellPadding cellWidth columns offset cellHeights frame) ∧
      (rowFrames cellPadding cellWidth columns offset cellHeights).Pairwise
        InteriorsDisjoint := by
  induction cellHeights using List.reverseRecOn with
  | nil => simp [rowFrames]
  | append_singleton cellHeights cellHeight ih =>
    obtain ⟨inColumn, disjoint⟩ :=
      ih fun h earlier => heightsNonneg h (List.mem_append_left _ earlier)
    refine ⟨inColumn_concat paddingNonneg positive heightsNonneg inColumn, ?_⟩
    rw [rowFrames_concat, List.pairwise_append]
    refine ⟨disjoint, List.pairwise_singleton _ _, ?_⟩
    intro earlier placed frame last
    rw [List.mem_singleton] at last
    subst last
    obtain ⟨column, -, x, width, -, ends⟩ := inColumn earlier placed
    rintro px py ⟨inEarlier, inLast⟩
    have left := inEarlier.left
    have right := inEarlier.right
    have bottom := inEarlier.bottom
    have lastLeft := inLast.left
    have lastRight := inLast.right
    have lastTop := inLast.top
    simp only [rowFrame] at lastLeft lastRight lastTop
    rw [x] at left right
    rw [width] at right
    rcases Nat.lt_trichotomy column (cellHeights.length % columns) with before | same | after
    · have := apart _ _ before
      linarith
    · rw [same] at ends
      linarith
    · have := apart _ _ after
      linarith

/-- Without negative heights the content ends where the longest column ends. -/
theorem contentHeight_isGreatest (paddingNonneg : 0 ≤ cellPadding) (positive : 0 < columns)
    {cellHeights : List Rat} (heightsNonneg : ∀ h ∈ cellHeights, 0 ≤ h) :
    IsGreatest {total | ∃ column < columns,
        total = laneTotal columns column (paddedHeights cellPadding cellHeights)}
      (((rowFrames cellPadding cellWidth columns offset cellHeights).map CGRect.maxY).foldl
        max 0) := by
  induction cellHeights using List.reverseRecOn with
  | nil =>
    refine ⟨⟨0, positive, by simp [rowFrames, paddedHeights]⟩, ?_⟩
    rintro total ⟨column, -, rfl⟩
    simp [rowFrames, paddedHeights]
  | append_singleton cellHeights cellHeight ih =>
    obtain ⟨⟨longest, longestBound, attained⟩, greatest⟩ :=
      ih fun h earlier => heightsNonneg h (List.mem_append_left _ earlier)
    have padded : 0 ≤ cellPadding + cellHeight + cellPadding := by
      have := heightsNonneg cellHeight (by simp)
      linarith
    have own := columnTotal_concat cellPadding columns (cellHeights.length % columns) cellHeights
      cellHeight
    rw [if_pos rfl] at own
    have maxY : (rowFrame cellPadding cellWidth columns offset cellHeights cellHeight).maxY =
        laneTotal columns (cellHeights.length % columns)
          (paddedHeights cellPadding (cellHeights ++ [cellHeight])) := by
      rw [own]
      exact max_eq_right (le_add_of_nonneg_right padded)
    rw [rowFrames_concat, List.map_append, List.foldl_append, List.map_singleton,
      List.foldl_cons, List.foldl_nil, maxY]
    generalize ((rowFrames cellPadding cellWidth columns offset cellHeights).map
      CGRect.maxY).foldl max 0 = before at attained greatest
    constructor
    · rcases le_total before (laneTotal columns (cellHeights.length % columns)
        (paddedHeights cellPadding (cellHeights ++ [cellHeight]))) with taller | shorter
      · exact ⟨_, Nat.mod_lt _ positive, max_eq_right taller⟩
      · refine ⟨longest, longestBound, ?_⟩
        rw [max_eq_left shorter, columnTotal_concat]
        split
        · rename_i last
          -- the row makes the longest column no longer: its padded height is zero
          rw [last] at own shorter
          linarith
        · rw [attained, add_zero]
    · rintro total ⟨column, bound, rfl⟩
      by_cases last : cellHeights.length % columns = column
      · subst last
        exact le_max_right _ _
      · rw [columnTotal_concat, if_neg last, add_zero]
        exact (greatest ⟨column, bound, rfl⟩).trans (le_max_left _ _)

end Rows

section Prepare

variable (view : UICollectionView)

/-- The padded frames that `prepare` computes. -/
def viewFrames (cellPadding : Rat) : List CGRect :=
  rowFrames cellPadding view.collectionViewCellWidth (numberOfColumns view).toNat
    (columnOffset view) view.cellHeights

variable {view} {layout : ATCLiquidCollectionViewLayout}

theorem resetIfChanged_numberOfItems :
    (resetIfChanged view layout).numberOfItems = view.cellHeights.length := by
  unfold resetIfChanged
  split
  · rfl
  · rename_i same
    exact of_not_not fun different => same (.inr different)

theorem resetIfChanged_cellPadding :
    (resetIfChanged view layout).cellPadding = layout.cellPadding := by
  unfold resetIfChanged
  split <;> rfl

/-- `prepare` with an empty cache and at least one column. -/
theorem prepare_rebuilt (columns : 1 ≤ numberOfColumns view)
    (rebuilt : (resetIfChanged view layout).cache = []) :
    prepare view layout = .ok {
      cellPadding := layout.cellPadding
      cachedWidth := contentWidth view
      cache := cacheOf layout.cellPadding (viewFrames view layout.cellPadding)
      contentHeight := ((viewFrames view layout.cellPadding).map CGRect.maxY).foldl max
        (resetIfChanged view layout).contentHeight
      numberOfItems := view.cellHeights.length } := by
  have positive : 0 < (numberOfColumns view).toNat := by omega
  have cast : ((numberOfColumns view).toNat : Int) = numberOfColumns view := by omega
  have rows := @placeRows_spec layout.cellPadding view.collectionViewCellWidth _
    (columnOffset view) positive (resetIfChanged view layout).contentHeight view.cellHeights
  rw [cast] at rows
  unfold prepare
  rw [if_neg (by omega)]
  simp only [rebuilt, List.isEmpty_nil, if_true, resetIfChanged_cellPadding, rows, bind,
    Except.bind]
  rw [if_neg (by omega)]
  simp only [pure, Except.pure, resetIfChanged_numberOfItems]
  rfl

theorem one_le_numberOfColumns_iff :
    1 ≤ numberOfColumns view ↔
      view.collectionViewCellWidth ≤ 0 ∨ view.collectionViewCellWidth ≤ contentWidth view := by
  unfold numberOfColumns
  split
  · rename_i positive
    rw [le_truncate_iff one_pos, Int.cast_one, le_div_iff₀ positive, one_mul]
    exact ⟨.inr, fun fits => fits.resolve_left (not_le.mpr positive)⟩
  · rename_i notPositive
    exact iff_of_true le_rfl (.inl (not_lt.mp notPositive))

/-- Columns and paddings fill the width. -/
theorem columns_fill_width (columns : 1 ≤ numberOfColumns view) :
    (numberOfColumns view : Rat) * view.collectionViewCellWidth +
      (numberOfColumns view + 1) * horizontalPadding view = contentWidth view := by
  have cast : (1 : Rat) ≤ numberOfColumns view := by exact_mod_cast columns
  have nonzero : (numberOfColumns view + 1 : Rat) ≠ 0 := by linarith
  rw [horizontalPadding, mul_div_cancel₀ _ nonzero]
  ring

section Columns

variable (positive : 0 < view.collectionViewCellWidth)
variable (fits : view.collectionViewCellWidth ≤ contentWidth view)

include positive fits

/-- The columns leave some width over, which is shared as padding. -/
theorem horizontalPadding_nonneg : 0 ≤ horizontalPadding view := by
  have atLeastOne := one_le_numberOfColumns_iff.mpr (.inr fits)
  have columnsFit : (numberOfColumns view : Rat) ≤
      contentWidth view / view.collectionViewCellWidth := by
    rw [← le_truncate_iff (by omega)]
    unfold numberOfColumns
    rw [if_pos positive]
  rw [le_div_iff₀ positive] at columnsFit
  have cast : (1 : Rat) ≤ numberOfColumns view := by exact_mod_cast atLeastOne
  exact div_nonneg (by linarith) (by linarith)

theorem columnOffset_nonneg (column : Nat) : 0 ≤ columnOffset view column := by
  have padding := horizontalPadding_nonneg positive fits
  unfold columnOffset
  positivity

theorem columnOffset_apart (column other : Nat) (before : column < other) :
    columnOffset view column + view.collectionViewCellWidth ≤ columnOffset view other := by
  have padding := horizontalPadding_nonneg positive fits
  have cast : (column : Rat) + 1 ≤ other := by exact_mod_cast before
  unfold columnOffset
  nlinarith

theorem columnOffset_right {column : Nat} (bound : column < (numberOfColumns view).toNat) :
    columnOffset view column + view.collectionViewCellWidth ≤ contentWidth view := by
  have padding := horizontalPadding_nonneg positive fits
  have filled := columns_fill_width (one_le_numberOfColumns_iff.mpr (.inr fits))
  have cast : (column : Rat) + 1 ≤ numberOfColumns view := by
    have : (column : Int) + 1 ≤ numberOfColumns view := by omega
    exact_mod_cast this
  unfold columnOffset
  nlinarith

end Columns

/-- The frame of a cell: a padded frame without its padding. -/
def cellFrame (cellPadding : Rat) (frame : CGRect) : CGRect :=
  { frame with y := frame.y + cellPadding, height := frame.height - 2 * cellPadding }

/-- The cells of a view: one frame for each item in the order of the items, no two of them
overlap, they are inside the content, and the content ends with its longest column. -/
structure LaidOut (view : UICollectionView) (cellPadding : Rat) (frames : List CGRect)
    (layout : ATCLiquidCollectionViewLayout) : Prop where
  cache : layout.cache = frames.zipIdx.map fun frame => ⟨frame.2, some frame.1⟩
  items : frames.map CGRect.height = view.cellHeights
  widths : ∀ frame ∈ frames, frame.width = view.collectionViewCellWidth
  disjoint : frames.Pairwise InteriorsDisjoint
  inside : ∀ frame ∈ frames,
    0 ≤ frame.x ∧ frame.x + frame.width ≤ (collectionViewContentSize view layout).1 ∧
      0 ≤ frame.y ∧ frame.y + frame.height ≤ (collectionViewContentSize view layout).2
  longest : IsGreatest {total | ∃ column < (numberOfColumns view).toNat,
    total = laneTotal (numberOfColumns view).toNat column
      (paddedHeights cellPadding view.cellHeights)} (collectionViewContentSize view layout).2

/-- A smaller frame contains fewer points. -/
theorem interiorContains_of_cellFrame {cellPadding : Rat} (paddingNonneg : 0 ≤ cellPadding)
    {frame : CGRect} {x y : Rat} (inside : InteriorContains (cellFrame cellPadding frame) x y) :
    InteriorContains frame x y := by
  have top := inside.top
  have bottom := inside.bottom
  simp only [cellFrame] at top bottom
  exact ⟨inside.left, inside.right, by linarith, by linarith⟩

theorem insetBy_cellPadding {cellPadding : Rat} {frame : CGRect} (widthNonneg : 0 ≤ frame.width)
    (paddingNonneg : 0 ≤ cellPadding) (heightNonneg : 2 * cellPadding ≤ frame.height) :
    frame.insetBy 0 cellPadding = some (cellFrame cellPadding frame) := by
  have standardized : frame.standardized = frame := by
    have height : 0 ≤ frame.height := by linarith
    simp only [CGRect.standardized]
    rw [min_eq_left (by linarith), min_eq_left (by linarith), max_eq_left (by linarith),
      max_eq_left (by linarith)]
  unfold CGRect.insetBy
  rw [standardized, if_neg (by rintro (narrow | low) <;> linarith)]
  simp [cellFrame]

/-- What a padded frame of the view is made of. -/
theorem mem_viewFrames {cellPadding : Rat} {frame : CGRect}
    (placed : frame ∈ viewFrames view cellPadding) :
    frame.width = view.collectionViewCellWidth ∧
      ∃ cellHeight ∈ view.cellHeights, frame.height = cellPadding + cellHeight + cellPadding := by
  obtain ⟨cell, here, rfl⟩ := List.mem_map.mp placed
  exact ⟨rfl, cell.1, List.fst_mem_of_mem_zipIdx here, rfl⟩

/-- With an empty cache, and cells that fit in the content, `prepare` lays out all cells. -/
theorem cells_are_laid_out (view : UICollectionView) (layout : ATCLiquidCollectionViewLayout)
    (emptyCache : layout.cache = []) (noContent : layout.contentHeight = 0)
    (paddingNonneg : 0 ≤ layout.cellPadding)
    (heightsNonneg : ∀ cellHeight ∈ view.cellHeights, 0 ≤ cellHeight)
    (positive : 0 < view.collectionViewCellWidth)
    (fits : view.collectionViewCellWidth ≤ contentWidth view) :
    ∃ prepared frames, prepare view layout = .ok prepared ∧
      LaidOut view layout.cellPadding frames prepared := by
  have columns := one_le_numberOfColumns_iff.mpr (.inr fits)
  have reset : (resetIfChanged view layout).cache = [] ∧
      (resetIfChanged view layout).contentHeight = 0 := by
    unfold resetIfChanged
    split
    · exact ⟨rfl, rfl⟩
    · exact ⟨emptyCache, noContent⟩
  have positiveColumns : 0 < (numberOfColumns view).toNat := by omega
  obtain ⟨inColumn, disjoint⟩ := rowFrames_disjoint paddingNonneg positiveColumns
    (columnOffset_apart positive fits) heightsNonneg
  have longest := @contentHeight_isGreatest _ view.collectionViewCellWidth _ (columnOffset view)
    paddingNonneg positiveColumns _ heightsNonneg
  refine ⟨_, (viewFrames view layout.cellPadding).map (cellFrame layout.cellPadding),
    prepare_rebuilt columns reset.1, ?_⟩
  rw [reset.2]
  constructor
  · simp only [cacheOf, List.zipIdx_map, List.map_map]
    apply List.map_congr_left
    intro frame placed
    obtain ⟨width, cellHeight, here, height⟩ :=
      mem_viewFrames (List.fst_mem_of_mem_zipIdx placed)
    have := heightsNonneg cellHeight here
    rw [insetBy_cellPadding (by linarith) paddingNonneg (by linarith)]
    rfl
  · rw [List.map_map, viewFrames, rowFrames, List.map_map]
    refine Eq.trans (List.map_congr_left ?_) (List.zipIdx_map_fst 0 view.cellHeights)
    intro cell _
    simp only [Function.comp_apply, cellFrame, rowFrame]
    ring
  · intro frame placed
    obtain ⟨padded, here, rfl⟩ := List.mem_map.mp placed
    exact (mem_viewFrames here).1
  · refine (List.pairwise_map.mpr (disjoint.imp ?_))
    rintro first second apart x y ⟨inFirst, inSecond⟩
    exact apart x y ⟨interiorContains_of_cellFrame paddingNonneg inFirst,
      interiorContains_of_cellFrame paddingNonneg inSecond⟩
  · intro frame placed
    obtain ⟨padded, here, rfl⟩ := List.mem_map.mp placed
    obtain ⟨column, bound, x, width, y, ends⟩ := inColumn padded here
    have below : padded.y + padded.height ≤ _ := ends.trans (longest.2 ⟨column, bound, rfl⟩)
    simp only [cellFrame, collectionViewContentSize, x, width]
    refine ⟨columnOffset_nonneg positive fits column, columnOffset_right positive fits bound,
      by linarith, ?_⟩
    refine le_trans ?_ below
    linarith
  · exact longest

end Prepare

/-- Four cells in two columns of a view with insets. -/
def twoColumns : UICollectionView := ⟨120, 10, 10, 40, [10, 20, 30, 5]⟩

theorem cells_are_laid_out_two_columns :
    ∃ prepared frames, prepare twoColumns (new 2) = .ok prepared ∧
      LaidOut twoColumns 2 frames prepared :=
  cells_are_laid_out twoColumns (new 2) rfl rfl (by decide) (by decide) (by decide)
    (by decide +kernel)

end FinanciaApp.Guarantees
