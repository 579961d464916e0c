import FinanciaApp.Guarantees.LiquidLayoutReloads
import FinanciaApp.Source.ATCCardViewControllerContainerRowAdapter

/-!
# The rows of a card on the home screen

The card counts 67 points for each row, and the adapters give every row they know 70.
-/

set_option autoImplicit false

namespace FinanciaApp.Guarantees

open Library Source ATCLiquidCollectionViewLayout

/-- The adapter in the store for the class of the row is the one for such rows. -/
def Adapted (store : ATCAdapterStore) : CardRow → Bool
  | .CardHeaderModel => store "CardHeaderModel" = some .CardHeaderRowAdapter
  | .ATCFinanceAccount => store "ATCFinanceAccount" = some .FinanceAccountRowAdapter
  | .CardFooterModel => store "CardFooterModel" = some .CardFooterRowAdapter

/-- The card is as high as the content in it. -/
def FitsCard (controller : CardViewController) (containerWidth boundsWidth : Rat) : Prop :=
  ∃ size layout,
    ATCCardViewControllerContainerRowAdapter.size containerWidth (homeCard controller) =
      some size ∧
    controller.prepareLayout boundsWidth = .ok layout ∧ layout.contentHeight ≤ size.2

section Rows

variable (store : ATCAdapterStore) (cellPadding boundsWidth : Rat) (rows : List CardRow)

theorem size_of_row {row : Nat} {object : CardRow} (found : rows[row]? = some object) :
    (CardViewController.mk (some rows) store cellPadding).size boundsWidth row =
      if Adapted store object then (boundsWidth, 70) else (0, 0) := by
  have adapter : (CardViewController.mk (some rows) store cellPadding).adapter row =
      store object.stringClass := by
    rw [CardViewController.adapter, CardViewController.object, Option.getD_some, found,
      Option.bind_some]
  rw [CardViewController.size, adapter, CardViewController.object, Option.getD_some, found]
  cases registered : store object.stringClass with
  | none => cases object <;> simp_all [Adapted, CardRow.stringClass]
  | some known =>
    cases object <;> cases known <;> simp_all [Adapted, CardRow.stringClass, CardRowAdapter.size]

/-- The heights of the rows, as the layout asks for them. -/
theorem cellHeights_eq :
    ((CardViewController.mk (some rows) store cellPadding).collectionView boundsWidth).cellHeights =
      rows.map fun row => if Adapted store row then 70 else 0 := by
  rw [CardViewController.collectionView]
  apply List.ext_getElem?
  intro row
  rw [List.getElem?_map, List.getElem?_map]
  change ((List.range rows.length)[row]?).map _ = _
  cases found : rows[row]? with
  | none =>
    have outside := List.getElem?_eq_none_iff.mp found
    rw [List.getElem?_eq_none_iff.mpr (by rwa [List.length_range])]
    rfl
  | some object =>
    have inside := (List.getElem?_eq_some_iff.mp found).1
    rw [List.getElem?_range inside, Option.map_some, Option.map_some,
      size_of_row store cellPadding boundsWidth rows found]
    split <;> rfl

/-- There is one column, also where the first row has no width. -/
theorem numberOfColumns_eq_one :
    numberOfColumns ((CardViewController.mk (some rows) store cellPadding).collectionView
      boundsWidth) = 1 := by
  have first : (CardViewController.mk (some rows) store cellPadding).size boundsWidth 0 =
      (boundsWidth, 70) ∨
      (CardViewController.mk (some rows) store cellPadding).size boundsWidth 0 = (0, 0) := by
    cases found : rows[0]? with
    | none =>
      refine .inr ?_
      rw [CardViewController.size, CardViewController.object, Option.getD_some, found]
      split <;> trivial
    | some object =>
      rw [size_of_row store cellPadding boundsWidth rows found]
      split
      · exact .inl rfl
      · exact .inr rfl
  have width : contentWidth ((CardViewController.mk (some rows) store cellPadding).collectionView
      boundsWidth) = boundsWidth := by
    rw [contentWidth, CardViewController.collectionView, add_zero, sub_zero]
  unfold numberOfColumns
  rw [width]
  cases first with
  | inl full =>
    rw [CardViewController.collectionView, full]
    split
    · rename_i positive
      rw [div_self positive.ne']
      decide +kernel
    · rfl
  | inr empty =>
    rw [CardViewController.collectionView, empty]
    exact if_neg (lt_irrefl 0)

end Rows

/-- One column holds everything. -/
theorem laneTotal_one (weights : List Rat) : laneTotal 1 0 weights = weights.sum := by
  induction weights using List.reverseRecOn with
  | nil => rfl
  | append_singleton weights weight ih =>
    rw [laneTotal_concat, ih, List.sum_append, List.sum_singleton, Nat.mod_one, if_pos rfl]

theorem sum_paddedHeights (store : ATCAdapterStore) (cellPadding : Rat) (rows : List CardRow) :
    (paddedHeights cellPadding (rows.map fun row => if Adapted store row then 70 else 0)).sum =
      2 * cellPadding * rows.length + 70 * rows.countP (Adapted store) := by
  induction rows with
  | nil => simp [paddedHeights]
  | cons row rows ih =>
    rw [paddedHeights, List.map_cons, List.map_cons, List.sum_cons, ← paddedHeights, ih,
      List.length_cons, List.countP_cons]
    push_cast
    split
    · ring
    · ring

/-- The content height of the layout in a card. -/
theorem prepareLayout_eq (store : ATCAdapterStore) {cellPadding : Rat} (nonneg : 0 ≤ cellPadding)
    (rows : List CardRow) (boundsWidth : Rat) :
    ∃ layout, (CardViewController.mk (some rows) store cellPadding).prepareLayout boundsWidth =
        .ok layout ∧
      layout.contentHeight =
        2 * cellPadding * rows.length + 70 * rows.countP (Adapted store) := by
  have one := numberOfColumns_eq_one store cellPadding boundsWidth rows
  obtain ⟨layout, prepared, -, height⟩ := prepare_new cellPadding one.ge
  refine ⟨layout, prepared, ?_⟩
  have heightsNonneg : ∀ height ∈ rows.map fun row => if Adapted store row then (70 : Rat) else 0,
      0 ≤ height := by
    intro height member
    obtain ⟨row, -, rfl⟩ := List.mem_map.mp member
    split
    · exact Nat.ofNat_nonneg 70
    · exact le_refl 0
  rw [height, viewFrames, one, Int.toNat_one, cellHeights_eq]
  obtain ⟨column, bound, total⟩ :=
    (contentHeight_isGreatest nonneg Nat.one_pos heightsNonneg).1
  obtain rfl : column = 0 := by omega
  rw [total, laneTotal_one, sum_paddedHeights]

/-- For every list of rows and all adapters, without negative padding. -/
theorem fitsCard_iff (store : ATCAdapterStore) (cellPadding : Rat) (rows : List CardRow)
    (containerWidth boundsWidth : Rat) (nonneg : 0 ≤ cellPadding) :
    FitsCard ⟨some rows, store, cellPadding⟩ containerWidth boundsWidth ↔
      2 * cellPadding * rows.length + 70 * rows.countP (Adapted store) ≤
        67 * (rows.length : Rat) := by
  obtain ⟨layout, prepared, height⟩ := prepareLayout_eq store nonneg rows boundsWidth
  have given : ATCCardViewControllerContainerRowAdapter.size containerWidth
      (homeCard ⟨some rows, store, cellPadding⟩) =
      some (containerWidth, (rows.length : Rat) * 67) := rfl
  rw [← height, mul_comm 67]
  constructor
  · intro ⟨size, other, sized, otherPrepared, fits⟩
    cases given.symm.trans sized
    cases prepared.symm.trans otherPrepared
    exact fits
  · intro fits
    exact ⟨_, layout, given, prepared, fits⟩

theorem fitsCard_iff_without_padding :
    (0 : Rat) ≤ 0 ∧
      (FitsCard ⟨some [.CardHeaderModel], CardViewController.homeAdapterStore, 0⟩ 100 100 ↔
        2 * 0 * [CardRow.CardHeaderModel].length +
            70 * [CardRow.CardHeaderModel].countP (Adapted CardViewController.homeAdapterStore) ≤
          67 * ([CardRow.CardHeaderModel].length : Rat)) :=
  ⟨le_refl 0, fitsCard_iff CardViewController.homeAdapterStore 0 [.CardHeaderModel] 100 100
    (le_refl 0)⟩

/-- A card with one account is three points too low. -/
theorem one_account_cut_off :
    ¬(∀ store cellPadding rows containerWidth boundsWidth, 0 ≤ cellPadding →
      FitsCard ⟨some rows, store, cellPadding⟩ containerWidth boundsWidth) ∧
    ATCCardViewControllerContainerRowAdapter.size 100
        (homeCard ⟨some [.ATCFinanceAccount], CardViewController.homeAdapterStore, 0⟩) =
      some (100, 67) ∧
    (CardViewController.prepareLayout
        ⟨some [.ATCFinanceAccount], CardViewController.homeAdapterStore, 0⟩ 100).map
      (fun layout => layout.contentHeight) = .ok 70 := by
  have given : ATCCardViewControllerContainerRowAdapter.size 100
      (homeCard ⟨some [.ATCFinanceAccount], CardViewController.homeAdapterStore, 0⟩) =
      some (100, 67) := by decide +kernel
  have laid : (CardViewController.prepareLayout
        ⟨some [.ATCFinanceAccount], CardViewController.homeAdapterStore, 0⟩ 100).map
      (fun layout => layout.contentHeight) = .ok 70 := by decide +kernel
  refine ⟨fun claimed => ?_, given, laid⟩
  obtain ⟨size, layout, sized, prepared, fits⟩ :=
    claimed CardViewController.homeAdapterStore 0 [.ATCFinanceAccount] 100 100 (le_refl 0)
  rw [prepared] at laid
  cases given.symm.trans sized
  have height : layout.contentHeight = 70 := Except.ok.inj laid
  rw [height] at fits
  exact absurd fits (by decide +kernel)

end FinanciaApp.Guarantees
