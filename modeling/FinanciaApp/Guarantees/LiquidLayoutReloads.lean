import FinanciaApp.Guarantees.LiquidLayout

/-!
# Reloads of the liquid layout, and where `prepare` fails

`invalidateCache` empties the cache and leaves the content height, which `prepare` resets
only for another width or another number of items. The new height is then the maximum of
the old one and of the new rows. Apart from that, `prepare` fails only when the number of
columns it computes is not positive: it divides by the number of columns plus one, makes a
range and indexes arrays of that size.
-/

set_option autoImplicit false

namespace FinanciaApp.Guarantees

open Library Source Source.ATCLiquidCollectionViewLayout

section Reloads

/-- The layout after a reload has the frames and the height of a freshly created one. -/
def SameAsFresh (layout : ATCLiquidCollectionViewLayout) (view : UICollectionView)
    (reloaded : ATCLiquidCollectionViewLayout) : Prop :=
  ∃ fresh, prepare view (new layout.cellPadding) = .ok fresh ∧
    reloaded.cache = fresh.cache ∧ reloaded.contentHeight = fresh.contentHeight

/-- The width or the number of items is another one, or some new row ends where the content
ended or below. -/
def NoTallerBefore (layout : ATCLiquidCollectionViewLayout) (view : UICollectionView) : Prop :=
  contentWidth view ≠ layout.cachedWidth ∨ layout.numberOfItems ≠ view.cellHeights.length ∨
    layout.contentHeight ≤ 0 ∨
    ∃ frame ∈ viewFrames view layout.cellPadding, layout.contentHeight ≤ frame.maxY

theorem reloadStep_spec {layout reloaded : ATCLiquidCollectionViewLayout}
    {view : UICollectionView} (taken : reloadStep layout view = some reloaded) :
    1 ≤ numberOfColumns view ∧
      reloaded.cache = cacheOf layout.cellPadding (viewFrames view layout.cellPadding) ∧
      reloaded.contentHeight = ((viewFrames view layout.cellPadding).map CGRect.maxY).foldl max
        (resetIfChanged view layout.invalidateCache).contentHeight := by
  unfold reloadStep at taken
  split at taken
  · rename_i columns
    have rebuilt : (resetIfChanged view layout.invalidateCache).cache = [] := by
      unfold resetIfChanged
      split <;> rfl
    rw [reloadCollectionView, prepare_rebuilt columns rebuilt] at taken
    cases taken
    exact ⟨columns, rfl, rfl⟩
  · cases taken

theorem prepare_new {view : UICollectionView} (cellPadding : Rat)
    (columns : 1 ≤ numberOfColumns view) :
    ∃ fresh, prepare view (new cellPadding) = .ok fresh ∧
      fresh.cache = cacheOf cellPadding (viewFrames view cellPadding) ∧
      fresh.contentHeight = ((viewFrames view cellPadding).map CGRect.maxY).foldl max 0 := by
  have reset : (resetIfChanged view (new cellPadding)).cache = [] ∧
      (resetIfChanged view (new cellPadding)).contentHeight = 0 := by
    unfold resetIfChanged
    split <;> exact ⟨rfl, rfl⟩
  refine ⟨_, prepare_rebuilt columns reset.1, rfl, ?_⟩
  simp only [reset.2]
  rfl

theorem resetIfChanged_contentHeight_nonneg (layout : ATCLiquidCollectionViewLayout)
    (nonneg : 0 ≤ layout.contentHeight) (view : UICollectionView) :
    0 ≤ (resetIfChanged view layout).contentHeight := by
  unfold resetIfChanged
  split
  · exact le_rfl
  · exact nonneg

theorem sameAsFresh_step_iff (layout : ATCLiquidCollectionViewLayout) (view : UICollectionView)
    (reloaded : ATCLiquidCollectionViewLayout) (nonneg : 0 ≤ layout.contentHeight)
    (taken : reloadStep layout view = some reloaded) :
    SameAsFresh layout view reloaded ↔ NoTallerBefore layout view := by
  obtain ⟨columns, cache, height⟩ := reloadStep_spec taken
  obtain ⟨fresh, prepared, freshCache, freshHeight⟩ := prepare_new layout.cellPadding columns
  have same : SameAsFresh layout view reloaded ↔
      reloaded.contentHeight = fresh.contentHeight := by
    unfold SameAsFresh
    rw [prepared]
    constructor
    · rintro ⟨_, isFresh, -, height⟩
      cases isFresh
      exact height
    · intro height
      exact ⟨fresh, rfl, cache.trans freshCache.symm, height⟩
  rw [same, height, freshHeight, foldl_max_eq_iff _
    (resetIfChanged_contentHeight_nonneg layout.invalidateCache nonneg view)]
  simp only [List.mem_map, exists_exists_and_eq_and]
  unfold NoTallerBefore resetIfChanged
  split
  · rename_i changed
    exact iff_of_true (.inl le_rfl) (changed.elim .inl fun items => .inr (.inl items))
  · rename_i unchanged
    obtain ⟨width, items⟩ := not_or.mp unchanged
    exact ⟨fun covered => .inr (.inr covered), fun covered =>
      (covered.resolve_left width).resolve_left items⟩

theorem contentHeight_nonneg_step (layout : ATCLiquidCollectionViewLayout)
    (view : UICollectionView) (reloaded : ATCLiquidCollectionViewLayout)
    (nonneg : 0 ≤ layout.contentHeight) (taken : reloadStep layout view = some reloaded) :
    0 ≤ reloaded.contentHeight := by
  obtain ⟨-, -, height⟩ := reloadStep_spec taken
  rw [height, le_foldl_max_iff]
  exact .inl (resetIfChanged_contentHeight_nonneg layout.invalidateCache nonneg view)

/-- Along every history of reloads the layout is the freshly created one exactly when no
reload keeps the width and the number of items and has lower rows than the content before. -/
theorem reloads_same_as_fresh_iff (cellPadding : Rat) (views : List UICollectionView) :
    AlongRun reloadStep SameAsFresh (new cellPadding) views ↔
      AlongRun reloadStep (fun layout view _ => NoTallerBefore layout view) (new cellPadding)
        views :=
  alongRun_iff_of_invariant (fun layout => 0 ≤ layout.contentHeight) sameAsFresh_step_iff
    (fun layout view reloaded nonneg taken _ =>
      contentHeight_nonneg_step layout view reloaded nonneg taken) le_rfl

/-- A view of one column and one cell. -/
def oneCell (cellHeight : Rat) : UICollectionView := ⟨100, 0, 0, 100, [cellHeight]⟩

/-- The layout with one cell, and the height of its content. -/
def oneCellLayout (cellHeight contentHeight : Rat) : ATCLiquidCollectionViewLayout :=
  ⟨0, 100, [⟨0, some ⟨0, 0, 100, cellHeight⟩⟩], contentHeight, 1⟩

/-- The content stays as high as it was for the taller cell. -/
theorem taller_content_survives_reload :
    ¬ ∀ (cellPadding : Rat) (views : List UICollectionView),
      AlongRun reloadStep SameAsFresh (new cellPadding) views := by
  intro claim
  have along := claim 0 [oneCell 50, oneCell 20]
  have first : reloadStep (new 0) (oneCell 50) = some (oneCellLayout 50 50) := by
    decide +kernel
  have second : reloadStep (oneCellLayout 50 50) (oneCell 20) = some (oneCellLayout 20 50) := by
    decide +kernel
  have prepared : (prepare (oneCell 20) (new 0)).toOption = some (oneCellLayout 20 20) := by
    decide +kernel
  obtain ⟨fresh, isFresh, -, height⟩ := ((along _ first).2 _ second).1
  rw [show prepare (oneCell 20) (new 0) = .ok fresh from isFresh] at prepared
  cases prepared
  exact absurd height (by decide)

end Reloads

section Failures

variable (view : UICollectionView) (layout : ATCLiquidCollectionViewLayout)

/-- The frames for this width and this number of items are in the cache. -/
def Cached : Prop :=
  contentWidth view = layout.cachedWidth ∧ layout.numberOfItems = view.cellHeights.length ∧
    layout.cache ≠ []

/-- The array accesses stay in range, and there is no division by zero. -/
def NeverOutOfRange : Prop :=
  prepare view layout ≠ .error .indexOutOfRange ∧ prepare view layout ≠ .error .divisionByZero

variable {view layout}

theorem numberOfColumns_le_neg_iff {n : Int} (positive : 0 < n) :
    numberOfColumns view ≤ -n ↔
      0 < view.collectionViewCellWidth ∧
        contentWidth view ≤ -(n : Rat) * view.collectionViewCellWidth := by
  unfold numberOfColumns
  split
  · rename_i wide
    rw [truncate_le_neg_iff positive, div_le_iff₀ wide]
    exact ⟨fun narrow => ⟨wide, narrow⟩, And.right⟩
  · rename_i notWide
    exact iff_of_false (by omega) fun wide => notWide wide.1

theorem resetIfChanged_of_cached (cached : Cached view layout) :
    resetIfChanged view layout = layout := by
  unfold resetIfChanged
  rw [if_neg (by rintro (width | items)
                 · exact width cached.1
                 · exact items cached.2.1)]

theorem resetIfChanged_cache_of_not_cached (notCached : ¬ Cached view layout) :
    (resetIfChanged view layout).cache = [] := by
  unfold resetIfChanged
  split
  · rfl
  · rename_i same
    obtain ⟨width, items⟩ := not_or.mp same
    by_contra nonempty
    exact notCached ⟨of_not_not width, of_not_not items, nonempty⟩

/-- One column less than none makes a divisor of zero. -/
theorem prepare_minus_one (columns : numberOfColumns view = -1) :
    prepare view layout = .error .divisionByZero := by
  unfold prepare
  rw [if_pos (by omega)]

theorem prepare_cached (columns : numberOfColumns view ≠ -1) (cached : Cached view layout) :
    prepare view layout = .ok layout := by
  unfold prepare
  rw [if_neg (by omega)]
  simp only [resetIfChanged_of_cached cached]
  rw [if_neg (by simpa using cached.2.2)]

theorem prepare_negative (columns : numberOfColumns view < -1) (notCached : ¬ Cached view layout) :
    prepare view layout = .error .rangeBounds := by
  unfold prepare
  rw [if_neg (by omega)]
  simp only [resetIfChanged_cache_of_not_cached notCached, List.isEmpty_nil, if_true]
  rw [if_pos (by omega)]

/-- Without columns the first row has no `xOffset`. -/
theorem prepare_zero (columns : numberOfColumns view = 0) (notCached : ¬ Cached view layout)
    (items : view.cellHeights ≠ []) : prepare view layout = .error .indexOutOfRange := by
  obtain ⟨cellHeight, rest, split⟩ := List.exists_cons_of_ne_nil items
  unfold prepare
  rw [if_neg (by omega)]
  simp only [resetIfChanged_cache_of_not_cached notCached, List.isEmpty_nil, if_true]
  rw [if_neg (by omega), columns, split]
  rfl

theorem prepare_zero_without_items (columns : numberOfColumns view = 0)
    (notCached : ¬ Cached view layout) (items : view.cellHeights = []) :
    ∃ prepared, prepare view layout = .ok prepared := by
  unfold prepare
  rw [if_neg (by omega)]
  simp only [resetIfChanged_cache_of_not_cached notCached, List.isEmpty_nil, if_true]
  rw [if_neg (by omega), items]
  exact ⟨_, rfl⟩

theorem prepare_at_least_one (columns : 1 ≤ numberOfColumns view) :
    ∃ prepared, prepare view layout = .ok prepared := by
  by_cases cached : Cached view layout
  · exact ⟨layout, prepare_cached (by omega) cached⟩
  · exact ⟨_, prepare_rebuilt columns (resetIfChanged_cache_of_not_cached cached)⟩

/-- The arrays and the divisor, by the number of columns. -/
theorem neverOutOfRange_by_columns_iff :
    NeverOutOfRange view layout ↔
      1 ≤ numberOfColumns view ∨
        (numberOfColumns view = 0 ∧ (Cached view layout ∨ view.cellHeights = [])) ∨
        numberOfColumns view ≤ -2 := by
  rcases lt_trichotomy (numberOfColumns view) 0 with negative | zero | positive
  · have few : ¬1 ≤ numberOfColumns view := by omega
    have some_columns : numberOfColumns view ≠ 0 := negative.ne
    by_cases minusOne : numberOfColumns view = -1
    · have not_narrower : ¬numberOfColumns view ≤ -2 := by omega
      simp [NeverOutOfRange, prepare_minus_one minusOne, few, some_columns, not_narrower]
    · have narrower : numberOfColumns view ≤ -2 := by omega
      by_cases cached : Cached view layout
      · simp [NeverOutOfRange, prepare_cached minusOne cached, cached, narrower]
      · simp [NeverOutOfRange, prepare_negative (by omega) cached, cached, few, some_columns,
          narrower]
  · have few : ¬1 ≤ numberOfColumns view := by omega
    have not_narrower : ¬numberOfColumns view ≤ -2 := by omega
    by_cases cached : Cached view layout
    · simp [NeverOutOfRange, prepare_cached (by omega) cached, cached, zero]
    · by_cases items : view.cellHeights = []
      · obtain ⟨prepared, isPrepared⟩ := prepare_zero_without_items zero cached items
        simp [NeverOutOfRange, isPrepared, items, zero]
      · simp [NeverOutOfRange, prepare_zero zero cached items, cached, items, few, not_narrower]
  · obtain ⟨prepared, isPrepared⟩ : ∃ prepared, prepare view layout = .ok prepared :=
      prepare_at_least_one positive
    have inRange : NeverOutOfRange view layout := by simp [NeverOutOfRange, isPrepared]
    exact iff_of_true inRange (.inl positive)

theorem no_columns_iff (wide : ¬(view.collectionViewCellWidth ≤ 0 ∨
      view.collectionViewCellWidth ≤ contentWidth view)) :
    numberOfColumns view = 0 ↔ -view.collectionViewCellWidth < contentWidth view := by
  have few : ¬1 ≤ numberOfColumns view := mt one_le_numberOfColumns_iff.mp wide
  have positive := not_le.mp (not_or.mp wide).1
  have narrow := @numberOfColumns_le_neg_iff view 1 one_pos
  push_cast at narrow
  rw [neg_one_mul, and_iff_right positive] at narrow
  rw [← not_le, ← narrow]
  omega

theorem narrower_iff (wide : ¬(view.collectionViewCellWidth ≤ 0 ∨
      view.collectionViewCellWidth ≤ contentWidth view)) :
    numberOfColumns view ≤ -2 ↔ contentWidth view ≤ -2 * view.collectionViewCellWidth := by
  have narrower := @numberOfColumns_le_neg_iff view 2 two_pos
  push_cast at narrower
  rwa [and_iff_right (not_le.mp (not_or.mp wide).1)] at narrower

end Failures

/-- `prepare` indexes its arrays in range and does not divide by zero exactly when the cell is
not wider than the inset content, or the frames are cached or there are no items and the
content is not narrower than minus one cell, or the content is so much narrower that the
range traps before, or cached frames are kept. -/
theorem prepare_in_range_iff (view : UICollectionView) (layout : ATCLiquidCollectionViewLayout) :
    NeverOutOfRange view layout ↔
      view.collectionViewCellWidth ≤ 0 ∨ view.collectionViewCellWidth ≤ contentWidth view ∨
        (-view.collectionViewCellWidth < contentWidth view ∧
          (Cached view layout ∨ view.cellHeights = [])) ∨
        contentWidth view ≤ -2 * view.collectionViewCellWidth := by
  rw [neverOutOfRange_by_columns_iff, one_le_numberOfColumns_iff]
  by_cases fits : view.collectionViewCellWidth ≤ 0 ∨
      view.collectionViewCellWidth ≤ contentWidth view
  · exact iff_of_true (.inl fits) (or_assoc.mp (.inl fits))
  · rw [or_iff_right fits, no_columns_iff fits, narrower_iff fits]
    obtain ⟨positive, tooWide⟩ := not_or.mp fits
    rw [or_iff_right positive, or_iff_right tooWide]

/-- A cell as wide as the bounds, in a view with insets. -/
theorem full_width_cell_in_insets_traps :
    ¬ ∀ (view : UICollectionView) (layout : ATCLiquidCollectionViewLayout),
      0 ≤ view.insetLeft → 0 ≤ view.insetRight → view.cellHeights ≠ [] →
      NeverOutOfRange view layout := by
  intro claim
  have safe := claim ⟨375, 16, 16, 375, [70]⟩ (new 0) (by decide) (by decide) (by simp)
  refine safe.1 (prepare_zero (by decide +kernel) ?_ (by simp))
  intro cached
  exact cached.2.2 rfl

end FinanciaApp.Guarantees
