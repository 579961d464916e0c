import Mathlib.Algebra.Order.Group.Abs
import Mathlib.Tactic.Linarith
import FinanciaApp.Library.FailableMaps
import FinanciaApp.Library.LeastByKey
import FinanciaApp.Source.CPKCarouselFlowLayout

/-!
# The item to which a carousel snaps

The item is picked among those in the current bounds, nearest to the proposed centre. So it is a
nearest one of all where such a one is in view, whatever the layout; else only the floor to whole
points can hide the difference.
-/

set_option autoImplicit false

namespace FinanciaApp.Guarantees

open Library Source Source.CPKCarouselFlowLayout

/-! ## The items of the flow layout -/

def rectCenter (rect : CGRect) : CGPoint ℚ :=
  ⟨rect.x + rect.width / 2, rect.y + rect.height / 2⟩

def Intersects (rect other : CGRect) : Prop :=
  (rect.x < other.x + other.width ∧ other.x < rect.x + rect.width) ∧
  (rect.y < other.y + other.height ∧ other.y < rect.y + rect.height)

instance (rect other : CGRect) : Decidable (Intersects rect other) :=
  inferInstanceAs (Decidable (_ ∧ _))

/-- The items follow each other to the right, with the line spacing between them. -/
def itemFrame (layout : CPKCarouselFlowLayout) (item : Nat) : CGRect where
  x := layout.sectionInsetX + item * (layout.itemWidth + layout.minimumLineSpacing)
  y := layout.sectionInsetY
  width := layout.itemWidth
  height := layout.itemHeight

def itemCenter (layout : CPKCarouselFlowLayout) (item : Nat) : CGPoint ℚ :=
  rectCenter (itemFrame layout item)

/-- The flow layout gives the items whose frames intersect a rectangle, in any order. -/
def LaysOutItems (items : Nat) (layout : CPKCarouselFlowLayout)
    (elements : CGRect → Option (List CarouselAttributes)) : Prop :=
  ∀ rect, ∃ attributes, elements rect = some attributes ∧ ∀ center,
    center ∈ attributes.map CarouselAttributes.center ↔
      ∃ item < items, Intersects (itemFrame layout item) rect ∧ center = itemCenter layout item

section Nearness

variable (items : Nat) (layout : CPKCarouselFlowLayout) (view : CarouselCollectionView)
  (proposed : CGPoint ℚ)

/-- The distance of an item from the centre of the bounds at the proposed offset. -/
def distanceToProposed (item : Nat) : ℚ :=
  |(itemCenter layout item).x - (proposed.x + view.bounds.width / 2)|

/-- No item is nearer, in view or not. -/
def NearestItem (item : Nat) : Prop :=
  item < items ∧ ∀ other < items,
    distanceToProposed layout view proposed item ≤ distanceToProposed layout view proposed other

def InView (item : Nat) : Prop :=
  item < items ∧ Intersects (itemFrame layout item) view.bounds

def NearestInView (item : Nat) : Prop :=
  InView items layout view item ∧ ∀ other, InView items layout view other →
    distanceToProposed layout view proposed item ≤ distanceToProposed layout view proposed other

/-- The offset that centres an `x`, in whole points. -/
def centredOffset (x : ℚ) : ℤ := ⌊x - view.bounds.width / 2⌋

/-- The bounds are centred on a nearest item of all, up to the floor. -/
def SnapsToNearest (result : Option (CGPoint ℚ)) : Prop :=
  0 < items → ∃ item, NearestItem items layout view proposed item ∧
    result = some ⟨centredOffset view (itemCenter layout item).x, proposed.y⟩

/-- The attributes of an item can be transformed. -/
def Transforms (center : CGPoint ℚ) : Prop :=
  (layout.transformLayoutAttributes view ⟨center, 1, 1, 0⟩).isSome = true

/-- With paging, the proposed offset centres a nearest item already. Without, no item in view
traps, and a nearest item of all is in view, or has the whole points of the nearest ones in view
(of the origin, where none is in view). -/
def SnapCondition : Prop :=
  0 < items →
    if view.isPagingEnabled then
      ∃ item, NearestItem items layout view proposed item ∧
        proposed.x = centredOffset view (itemCenter layout item).x
    else
      (∀ item, InView items layout view item → Transforms layout view (itemCenter layout item)) ∧
      ∃ item, NearestItem items layout view proposed item ∧
        (InView items layout view item ∨
          ((∃ other, InView items layout view other) ∧
            ∀ other, NearestInView items layout view proposed other →
              centredOffset view (itemCenter layout other).x =
                centredOffset view (itemCenter layout item).x) ∨
          ((∀ other, ¬InView items layout view other) ∧
            centredOffset view 0 = centredOffset view (itemCenter layout item).x))

end Nearness

section Items

variable {items : Nat} {layout : CPKCarouselFlowLayout} {view : CarouselCollectionView}
  {proposed : CGPoint ℚ}

/-- What is between two items in view is in view. -/
theorem inView_between {low item high : Nat} (lowInView : InView items layout view low)
    (highInView : InView items layout view high) (inside : item < items)
    (above : (itemCenter layout low).x < (itemCenter layout item).x)
    (below : (itemCenter layout item).x < (itemCenter layout high).x) :
    InView items layout view item := by
  obtain ⟨-, ⟨-, left⟩, vertical⟩ := lowInView
  obtain ⟨-, ⟨right, -⟩, -⟩ := highInView
  simp only [itemCenter, rectCenter, itemFrame] at above below left right
  refine ⟨inside, ⟨?_, ?_⟩, vertical⟩
  · simp only [itemFrame]
    linarith
  · simp only [itemFrame]
    linarith

/-- A point nearer than two points at one distance is between them. -/
theorem between_of_nearer {a b c x : ℚ} (apart : a < b) (same : |a - x| = |b - x|)
    (nearer : |c - x| < |a - x|) : a < c ∧ c < b := by
  have middle : a - x = -(b - x) := by
    apply (abs_eq_abs.mp same).resolve_left
    intro equal
    linarith
  have right : |b - x| = b - x := abs_of_pos (by linarith)
  rw [same, right] at nearer
  obtain ⟨above, below⟩ := abs_lt.mp nearer
  exact ⟨by linarith, by linarith⟩

theorem NearestInView.same_distance {item other : Nat}
    (nearest : NearestInView items layout view proposed item)
    (otherNearest : NearestInView items layout view proposed other) :
    distanceToProposed layout view proposed item =
      distanceToProposed layout view proposed other :=
  le_antisymm (nearest.2 other otherNearest.1) (otherNearest.2 item nearest.1)

theorem nearestItem_of_tie {low high : Nat}
    (lowNearest : NearestInView items layout view proposed low)
    (highNearest : NearestInView items layout view proposed high)
    (apart : (itemCenter layout low).x < (itemCenter layout high).x) :
    NearestItem items layout view proposed low := by
  refine ⟨lowNearest.1.1, fun other inside => ?_⟩
  by_contra nearer
  obtain ⟨above, below⟩ := between_of_nearer apart (lowNearest.same_distance highNearest)
    (not_le.mp nearer)
  exact nearer (lowNearest.2 other
    (inView_between lowNearest.1 highNearest.1 inside above below))

/-- Of several nearest items in view, at different centres, each is a nearest one of all. -/
theorem NearestInView.nearestItem_or_same {item other : Nat}
    (nearest : NearestInView items layout view proposed item)
    (otherNearest : NearestInView items layout view proposed other) :
    NearestItem items layout view proposed item ∨
      (itemCenter layout other).x = (itemCenter layout item).x := by
  rcases lt_trichotomy (itemCenter layout item).x (itemCenter layout other).x with
    before | same | behind
  · exact .inl (nearestItem_of_tie nearest otherNearest before)
  · exact .inr same.symm
  · have nearestOther := nearestItem_of_tie otherNearest nearest behind
    refine .inl ⟨nearest.1.1, fun third inside => ?_⟩
    rw [nearest.same_distance otherNearest]
    exact nearestOther.2 third inside

/-- Without a nearest item in view, only the floor can be that of one. -/
theorem exists_nearest_offset_iff {item : Nat}
    (nearest : NearestInView items layout view proposed item) :
    (∃ other, NearestItem items layout view proposed other ∧
        centredOffset view (itemCenter layout item).x =
          centredOffset view (itemCenter layout other).x) ↔
      ∃ other, NearestItem items layout view proposed other ∧
        (InView items layout view other ∨
          ((∃ third, InView items layout view third) ∧
            ∀ third, NearestInView items layout view proposed third →
              centredOffset view (itemCenter layout third).x =
                centredOffset view (itemCenter layout other).x) ∨
          ((∀ third, ¬InView items layout view third) ∧
            centredOffset view 0 = centredOffset view (itemCenter layout other).x)) := by
  constructor
  · intro ⟨other, otherNearest, offset⟩
    by_cases all : NearestItem items layout view proposed item
    · exact ⟨item, all, .inl nearest.1⟩
    · refine ⟨other, otherNearest, .inr (.inl ⟨⟨item, nearest.1⟩, fun third thirdNearest => ?_⟩)⟩
      have same := (nearest.nearestItem_or_same thirdNearest).resolve_left all
      rw [same, offset]
  · intro ⟨other, otherNearest, reached⟩
    rcases reached with visible | ⟨-, offsets⟩ | ⟨none_visible, -⟩
    · refine ⟨item, ⟨nearest.1.1, fun third inside => ?_⟩, rfl⟩
      exact (nearest.2 other visible).trans (otherNearest.2 third inside)
    · exact ⟨other, otherNearest, offsets item nearest⟩
    · exact absurd nearest.1 (none_visible item)

/-- Without an item in view, the floor of the origin can be that of a nearest item. -/
theorem exists_origin_offset_iff (none_visible : ∀ item, ¬InView items layout view item) :
    (∃ item, NearestItem items layout view proposed item ∧
        centredOffset view 0 = centredOffset view (itemCenter layout item).x) ↔
      ∃ item, NearestItem items layout view proposed item ∧
        (InView items layout view item ∨
          ((∃ other, InView items layout view other) ∧
            ∀ other, NearestInView items layout view proposed other →
              centredOffset view (itemCenter layout other).x =
                centredOffset view (itemCenter layout item).x) ∨
          ((∀ other, ¬InView items layout view other) ∧
            centredOffset view 0 = centredOffset view (itemCenter layout item).x)) := by
  refine exists_congr fun item => and_congr_right fun _ => ?_
  constructor
  · exact fun offset => .inr (.inr ⟨none_visible, offset⟩)
  · intro reached
    rcases reached with visible | ⟨⟨other, visible⟩, -⟩ | ⟨-, offset⟩
    · exact absurd visible (none_visible item)
    · exact absurd visible (none_visible other)
    · exact offset

end Items

/-! ## The attributes in view -/

section Layout

variable {items : Nat} {layout : CPKCarouselFlowLayout} {view : CarouselCollectionView}
  {elements : CGRect → Option (List CarouselAttributes)}

/-- Horizontally, an item keeps its `x`. -/
theorem transform_center_x (horizontal : layout.scrollDirection = .horizontal)
    {attributes transformed : CarouselAttributes}
    (done : layout.transformLayoutAttributes view attributes = some transformed) :
    transformed.center.x = attributes.center.x := by
  unfold transformLayoutAttributes at done
  obtain ⟨ratio, -, rest⟩ := Option.bind_eq_some_iff.mp done
  obtain ⟨zIndex, -, equal⟩ := Option.bind_eq_some_iff.mp rest
  cases equal
  simp only [horizontal, if_true]

theorem transform_isSome_iff (attributes : CarouselAttributes) :
    (layout.transformLayoutAttributes view attributes).isSome = true ↔
      Transforms layout view attributes.center := Iff.rfl

/-- The pick among attributes, that is the origin only where there are none. -/
theorem closest_spec (coordinate : CGPoint ℚ → ℚ) (origin : ℚ)
    (attributes : List CarouselAttributes) :
    (attributes = [] ∧ closest coordinate origin attributes = .zero) ∨
      ∃ first ∈ attributes, closest coordinate origin attributes = first.center ∧
        ∀ other ∈ attributes,
          |coordinate first.center - origin| ≤ |coordinate other.center - origin| := by
  unfold closest
  dsimp only
  split
  · rename_i first found
    obtain ⟨member, least⟩ := head?_mergeSort_le found
    exact .inr ⟨first, member, rfl, least⟩
  · rename_i none_found
    have empty := List.head?_eq_none_iff.mp none_found
    have length := (List.mergeSort_perm attributes fun x y =>
      |coordinate x.center - origin| ≤ |coordinate y.center - origin|).length_eq
    rw [empty] at length
    exact .inl ⟨List.length_eq_zero_iff.mp length.symm, rfl⟩

theorem closest_singleton (coordinate : CGPoint ℚ → ℚ) (origin : ℚ)
    (attributes : CarouselAttributes) :
    closest coordinate origin [attributes] = attributes.center := by
  rw [closest, List.mergeSort_singleton]
  rfl

variable (superTarget : CGPoint ℚ → CGPoint ℚ) (proposed : CGPoint ℚ)

theorem targetContentOffset_horizontal {attributes : List CarouselAttributes}
    (horizontal : layout.scrollDirection = .horizontal) (noPaging : view.isPagingEnabled = false)
    (visible : elements view.bounds = some attributes) :
    layout.targetContentOffset view elements superTarget proposed =
      (attributes.mapM (layout.transformLayoutAttributes view)).map fun transformed =>
        ⟨centredOffset view
          (closest CGPoint.x (proposed.x + view.bounds.width / 2) transformed).x, proposed.y⟩ := by
  unfold targetContentOffset layoutAttributesForElements
  rw [noPaging, visible, if_neg Bool.false_ne_true]
  dsimp only
  rw [horizontal]
  generalize attributes.mapM (layout.transformLayoutAttributes view) = result
  cases result with
  | none => rfl
  | some transformed => rfl

/-- The items in view, by their attributes. -/
theorem mem_centers_iff {attributes : List CarouselAttributes}
    (lays : LaysOutItems items layout elements) (visible : elements view.bounds = some attributes)
    (center : CGPoint ℚ) :
    center ∈ attributes.map CarouselAttributes.center ↔
      ∃ item, InView items layout view item ∧ center = itemCenter layout item := by
  obtain ⟨given, found, inView⟩ := lays view.bounds
  cases visible.symm.trans found
  rw [inView]
  exact exists_congr fun item => and_assoc.symm

/-- The attributes in view are then transformed, and are at the `x` of the items in view. -/
theorem exists_transformed (horizontal : layout.scrollDirection = .horizontal)
    {attributes : List CarouselAttributes} (lays : LaysOutItems items layout elements)
    (visible : elements view.bounds = some attributes)
    (transforms : ∀ item, InView items layout view item →
      Transforms layout view (itemCenter layout item)) :
    ∃ transformed, attributes.mapM (layout.transformLayoutAttributes view) = some transformed ∧
      ∀ x : ℚ, (∃ attributes ∈ transformed, attributes.center.x = x) ↔
        ∃ item, InView items layout view item ∧ (itemCenter layout item).x = x := by
  have centers := mem_centers_iff lays visible
  cases mapped : attributes.mapM (layout.transformLayoutAttributes view) with
  | none =>
    obtain ⟨trapping, member, traps⟩ := (mapM_eq_none_iff attributes).mp mapped
    obtain ⟨item, inView, center⟩ := (centers _).mp (List.mem_map_of_mem member)
    have drawn := transforms item inView
    rw [← center, ← transform_isSome_iff, traps] at drawn
    cases drawn
  | some transformed =>
    have same : (transformed.map fun attributes => attributes.center.x) =
        attributes.map fun attributes => attributes.center.x :=
      map_of_mapM (fun _ _ => transform_center_x horizontal) mapped
    refine ⟨transformed, rfl, fun x => ?_⟩
    rw [← List.mem_map, same, List.mem_map]
    constructor
    · intro ⟨given, member, equal⟩
      obtain ⟨item, inView, center⟩ := (centers _).mp (List.mem_map_of_mem member)
      exact ⟨item, inView, center ▸ equal⟩
    · intro ⟨item, inView, equal⟩
      obtain ⟨given, member, center⟩ := List.mem_map.mp ((centers _).mpr ⟨item, inView, rfl⟩)
      exact ⟨given, member, center ▸ equal⟩

/-- Where every item in view can be transformed, the offset is that of a nearest item in view, or
of the origin where none is in view. -/
theorem targetContentOffset_of_transforms (horizontal : layout.scrollDirection = .horizontal)
    (noPaging : view.isPagingEnabled = false) (lays : LaysOutItems items layout elements)
    (transforms : ∀ item, InView items layout view item →
      Transforms layout view (itemCenter layout item)) :
    (∃ item, NearestInView items layout view proposed item ∧
      layout.targetContentOffset view elements superTarget proposed =
        some ⟨centredOffset view (itemCenter layout item).x, proposed.y⟩) ∨
    ((∀ item, ¬InView items layout view item) ∧
      layout.targetContentOffset view elements superTarget proposed =
        some ⟨centredOffset view 0, proposed.y⟩) := by
  obtain ⟨attributes, visible, -⟩ := lays view.bounds
  obtain ⟨transformed, mapped, xs⟩ := exists_transformed horizontal lays visible transforms
  rw [targetContentOffset_horizontal superTarget proposed horizontal noPaging visible, mapped,
    Option.map_some]
  cases closest_spec CGPoint.x (proposed.x + view.bounds.width / 2) transformed with
  | inl none_left =>
    obtain ⟨empty, origin⟩ := none_left
    refine .inr ⟨fun item inView => ?_, ?_⟩
    · obtain ⟨given, member, -⟩ := (xs _).mpr ⟨item, inView, rfl⟩
      rw [empty] at member
      cases member
    · rw [origin]
      rfl
  | inr found =>
    obtain ⟨first, member, picked, least⟩ := found
    obtain ⟨item, inView, center⟩ := (xs _).mp ⟨first, member, rfl⟩
    refine .inl ⟨item, ⟨inView, fun other otherInView => ?_⟩, ?_⟩
    · obtain ⟨given, otherMember, otherCenter⟩ := (xs _).mpr ⟨other, otherInView, rfl⟩
      rw [distanceToProposed, distanceToProposed, center, ← otherCenter]
      exact least given otherMember
    · rw [picked, center]

theorem targetContentOffset_of_trap (horizontal : layout.scrollDirection = .horizontal)
    (noPaging : view.isPagingEnabled = false) (lays : LaysOutItems items layout elements)
    {item : Nat} (inView : InView items layout view item)
    (traps : ¬Transforms layout view (itemCenter layout item)) :
    layout.targetContentOffset view elements superTarget proposed = none := by
  obtain ⟨attributes, visible, -⟩ := lays view.bounds
  obtain ⟨given, member, center⟩ :=
    List.mem_map.mp ((mem_centers_iff lays visible _).mpr ⟨item, inView, rfl⟩)
  rw [← center, ← transform_isSome_iff, Option.not_isSome_iff_eq_none] at traps
  rw [targetContentOffset_horizontal superTarget proposed horizontal noPaging visible,
    (mapM_eq_none_iff attributes).mpr ⟨given, member, traps⟩, Option.map_none]

end Layout

theorem some_offset_inj (y : ℚ) (offset other : ℤ) :
    some (⟨offset, y⟩ : CGPoint ℚ) = some ⟨other, y⟩ ↔ offset = other := by
  rw [Option.some_inj, CGPoint.mk.injEq, Int.cast_inj, and_iff_left rfl]

/-- For every layout of a row of items, all bounds and every proposed offset, where UIKit itself
targets the proposed offset. -/
theorem snapsToNearest_iff (items : Nat) (layout : CPKCarouselFlowLayout)
    (view : CarouselCollectionView) (elements : CGRect → Option (List CarouselAttributes))
    (superTarget : CGPoint ℚ → CGPoint ℚ) (proposed : CGPoint ℚ)
    (horizontal : layout.scrollDirection = .horizontal)
    (lays : LaysOutItems items layout elements) (targets : ∀ offset, superTarget offset = offset) :
    SnapsToNearest items layout view proposed
        (layout.targetContentOffset view elements superTarget proposed) ↔
      SnapCondition items layout view proposed := by
  refine forall_congr' fun some_item => ?_
  cases paging : view.isPagingEnabled with
  | true =>
    rw [if_pos rfl, targetContentOffset, paging, if_pos rfl, targets]
    refine exists_congr fun item => and_congr_right fun _ => ?_
    constructor
    · intro equal
      exact congrArg CGPoint.x (Option.some.inj equal)
    · intro equal
      rw [← equal]
  | false =>
    rw [if_neg Bool.false_ne_true]
    by_cases transforms : ∀ item, InView items layout view item →
        Transforms layout view (itemCenter layout item)
    · rw [and_iff_right transforms]
      cases targetContentOffset_of_transforms superTarget proposed horizontal paging lays
        transforms with
      | inl found =>
        obtain ⟨item, nearest, result⟩ := found
        simp only [result, some_offset_inj]
        exact exists_nearest_offset_iff nearest
      | inr origin =>
        obtain ⟨none_visible, result⟩ := origin
        simp only [result, some_offset_inj]
        exact exists_origin_offset_iff none_visible
    · refine iff_of_false ?_ fun condition => transforms condition.1
      obtain ⟨item, trapping⟩ := not_forall.mp transforms
      obtain ⟨visible, traps⟩ := Classical.not_imp.mp trapping
      rw [targetContentOffset_of_trap superTarget proposed horizontal paging lays visible traps]
      intro ⟨_, _, result⟩
      cases result

/-! ## A flow layout -/

/-- The items of a rectangle in their order, as they are before the transformation. -/
def flowElements (items : Nat) (layout : CPKCarouselFlowLayout) (rect : CGRect) :
    Option (List CarouselAttributes) :=
  some (((List.range items).filter fun item => Intersects (itemFrame layout item) rect).map
    fun item => ⟨itemCenter layout item, 1, 1, 0⟩)

theorem laysOutItems_flowElements (items : Nat) (layout : CPKCarouselFlowLayout) :
    LaysOutItems items layout (flowElements items layout) := by
  intro rect
  refine ⟨_, rfl, fun center => ?_⟩
  simp only [List.mem_map, List.mem_filter, List.mem_range, decide_eq_true_eq, List.map_map]
  constructor
  · intro ⟨item, inside, equal⟩
    exact ⟨item, inside.1, inside.2, equal.symm⟩
  · intro ⟨item, inside, visible, equal⟩
    exact ⟨item, ⟨inside, visible⟩, equal.symm⟩

/-- The first item is in the middle, and the others are not in view. -/
def atFirstItem : CarouselCollectionView := ⟨⟨0, 0, 120, 100⟩, 120, 100, .zero, false⟩

def preparedLayout : CPKCarouselFlowLayout :=
  (CPKCarouselFlowLayout.new 100 100).prepare atFirstItem

theorem snapsToNearest_iff_prepared :
    preparedLayout.scrollDirection = .horizontal ∧
      LaysOutItems 10 preparedLayout (flowElements 10 preparedLayout) ∧
      (SnapsToNearest 10 preparedLayout atFirstItem ⟨130, 0⟩
          (preparedLayout.targetContentOffset atFirstItem (flowElements 10 preparedLayout) id
            ⟨130, 0⟩) ↔
        SnapCondition 10 preparedLayout atFirstItem ⟨130, 0⟩) :=
  ⟨rfl, laysOutItems_flowElements 10 preparedLayout,
    snapsToNearest_iff 10 preparedLayout atFirstItem (flowElements 10 preparedLayout) id ⟨130, 0⟩
      rfl (laysOutItems_flowElements 10 preparedLayout) fun _ => rfl⟩

/-- A fling to the ninth item of ten goes back to the first. -/
theorem fling_goes_back :
    ¬(∀ items layout view elements superTarget proposed,
      layout.scrollDirection = .horizontal → LaysOutItems items layout elements →
      (∀ offset : CGPoint ℚ, superTarget offset = offset) →
      SnapsToNearest items layout view proposed
        (layout.targetContentOffset view elements superTarget proposed)) ∧
    preparedLayout.targetContentOffset atFirstItem (flowElements 10 preparedLayout) id ⟨960, 0⟩ =
      some ⟨0, 0⟩ ∧
    (itemCenter preparedLayout 8).x - atFirstItem.bounds.width / 2 = 960 := by
  have visible : flowElements 10 preparedLayout atFirstItem.bounds =
      some [⟨⟨60, 50⟩, 1, 1, 0⟩] := by decide +kernel
  have transformed : [(⟨⟨60, 50⟩, 1, 1, 0⟩ : CarouselAttributes)].mapM
      (preparedLayout.transformLayoutAttributes atFirstItem) = some [⟨⟨60, 50⟩, 1, 1, 10⟩] := by
    decide +kernel
  have back : preparedLayout.targetContentOffset atFirstItem (flowElements 10 preparedLayout) id
      ⟨960, 0⟩ = some ⟨0, 0⟩ := by
    rw [targetContentOffset_horizontal id _ rfl rfl visible, transformed, Option.map_some,
      closest_singleton]
    decide +kernel
  refine ⟨fun claimed => ?_, back, by decide +kernel⟩
  obtain ⟨item, nearest, result⟩ := claimed 10 preparedLayout atFirstItem
    (flowElements 10 preparedLayout) id ⟨960, 0⟩ rfl
    (laysOutItems_flowElements 10 preparedLayout) (fun _ => rfl) (by decide)
  rw [back] at result
  have first : ∀ item < 10, centredOffset atFirstItem (itemCenter preparedLayout item).x = 0 →
      ¬distanceToProposed preparedLayout atFirstItem ⟨960, 0⟩ item ≤
        distanceToProposed preparedLayout atFirstItem ⟨960, 0⟩ 8 := by decide +kernel
  have offset := (some_offset_inj 0 0 _).mp (by exact_mod_cast result)
  exact first item nearest.1 offset.symm (nearest.2 8 (by decide))

end FinanciaApp.Guarantees
