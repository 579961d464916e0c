import Mathlib.Data.List.Nodup
import Mathlib.Data.List.Perm.Basic
import FinanciaApp.Source.CPKCarouselView

/-!
# The cards of a carousel

A card takes the number of the visible cards for its id, and the others keep theirs when it
disappears. So the card to which the selection points may be missing, or be there twice.
-/

set_option autoImplicit false

namespace FinanciaApp.Guarantees

open Library Source Source.CPKCarouselView

/-! ## What the visible cards show -/

def visibleCards (cards : List CarouselCard) : List CarouselCard :=
  cards.filter fun card => card.visible

def visibleIds (cards : List CarouselCard) : List (Option Int) :=
  (visibleCards cards).map CarouselCard.cardId

/-- Distinct ids, a selection in range, and one active card. -/
structure OneActive (view : CPKCarouselView) : Prop where
  distinct : (visibleIds view.cards).Nodup
  nonneg : 0 ≤ view.config.selected
  below : view.config.selected < view.config.cardCount
  active : (visibleCards view.cards).countP (CarouselCard.isActive view.config) = 1

def ShowsOneActive (view : CPKCarouselView) : Prop :=
  visibleCards view.cards ≠ [] → OneActive view

/-- The id to which the selection points. -/
def activeId (config : CarouselConfig) : Int := config.cardCount - config.selected - 1

/-- The same as `OneActive`, of the ids in any order. -/
structure Consistent (ids : List (Option Int)) (config : CarouselConfig) : Prop where
  distinct : ids.Nodup
  nonneg : 0 ≤ config.selected
  below : config.selected < config.cardCount
  active : some (activeId config) ∈ ids

theorem countP_isActive (cards : List CarouselCard) (config : CarouselConfig) :
    (visibleCards cards).countP (CarouselCard.isActive config) =
      (visibleIds cards).count (some (activeId config)) := by
  rw [visibleIds, List.count, List.countP_map]
  rfl

theorem oneActive_iff (view : CPKCarouselView) :
    OneActive view ↔ Consistent (visibleIds view.cards) view.config := by
  constructor
  · intro ⟨distinct, nonneg, below, active⟩
    rw [countP_isActive] at active
    exact ⟨distinct, nonneg, below, List.count_pos_iff.mp (active ▸ Nat.one_pos)⟩
  · intro ⟨distinct, nonneg, below, active⟩
    refine ⟨distinct, nonneg, below, ?_⟩
    rw [countP_isActive]
    exact List.count_eq_one_of_mem distinct active

theorem showsOneActive_iff (view : CPKCarouselView) :
    ShowsOneActive view ↔
      (visibleIds view.cards ≠ [] → Consistent (visibleIds view.cards) view.config) := by
  rw [ShowsOneActive, oneActive_iff, visibleIds, Ne, Ne, List.map_eq_nil_iff]

theorem Consistent.perm {ids others : List (Option Int)} {config : CarouselConfig}
    (same : ids.Perm others) (h : Consistent ids config) : Consistent others config :=
  ⟨same.nodup h.distinct, h.nonneg, h.below, same.subset h.active⟩

theorem consistent_perm {ids others : List (Option Int)} {config : CarouselConfig}
    (same : ids.Perm others) : Consistent ids config ↔ Consistent others config :=
  ⟨Consistent.perm same, Consistent.perm same.symm⟩

/-! ## What the events do to the ids -/

theorem visibleIds_perm {cards others : List CarouselCard} (same : cards.Perm others) :
    (visibleIds cards).Perm (visibleIds others) :=
  (same.filter _).map _

theorem visibleIds_cons (card : CarouselCard) (cards : List CarouselCard) :
    visibleIds (card :: cards) =
      if card.visible then card.cardId :: visibleIds cards else visibleIds cards := by
  rw [visibleIds, visibleCards, List.filter_cons]
  split <;> rfl

section Cards

variable {cards : List CarouselCard} {index : Nat} {card : CarouselCard}

theorem perm_of_getElem? (found : cards[index]? = some card) :
    cards.Perm (card :: cards.eraseIdx index) := by
  obtain ⟨inside, rfl⟩ := List.getElem?_eq_some_iff.mp found
  exact (List.getElem_cons_eraseIdx_perm inside).symm

theorem set_perm (found : cards[index]? = some card) (changed : CarouselCard) :
    (cards.set index changed).Perm (changed :: cards.eraseIdx index) := by
  obtain ⟨inside, -⟩ := List.getElem?_eq_some_iff.mp found
  have there : (cards.set index changed)[index]? = some changed :=
    List.getElem?_set_self inside
  have moved := perm_of_getElem? there
  rwa [List.eraseIdx_set_eq] at moved

/-- The ids without a card that is not visible. -/
theorem visibleIds_hidden (found : cards[index]? = some card) (hidden : card.visible = false) :
    (visibleIds cards).Perm (visibleIds (cards.eraseIdx index)) := by
  have moved := visibleIds_perm (perm_of_getElem? found)
  rwa [visibleIds_cons, hidden, if_neg Bool.false_ne_true] at moved

theorem visibleIds_shown (found : cards[index]? = some card) (shown : card.visible = true) :
    (visibleIds cards).Perm (card.cardId :: visibleIds (cards.eraseIdx index)) := by
  have moved := visibleIds_perm (perm_of_getElem? found)
  rwa [visibleIds_cons, if_pos shown] at moved

theorem visibleIds_appear (found : cards[index]? = some card) (hidden : card.visible = false)
    (id : Int) :
    (visibleIds (cards.set index ⟨some id, true⟩)).Perm (some id :: visibleIds cards) := by
  have moved := visibleIds_perm (set_perm found ⟨some id, true⟩)
  rw [visibleIds_cons, if_pos rfl] at moved
  exact moved.trans ((visibleIds_hidden found hidden).symm.cons _)

theorem visibleIds_disappear (found : cards[index]? = some card) :
    (visibleIds (cards.set index { card with visible := false })).Perm
      (visibleIds (cards.eraseIdx index)) := by
  have moved := visibleIds_perm (set_perm found { card with visible := false })
  rwa [visibleIds_cons, if_neg Bool.false_ne_true] at moved

end Cards

/-! ## The events that leave one card active -/

/-- On an appearance, no visible card has the counter for its id, and the selection points to
the new card or to the next id of a visible one. On a disappearance, the id before the active one
is that of another card. On a drag that moves the selection, the id next to the active one on
that side is that of a card. -/
def LeavesOneActive (view : CPKCarouselView) : Event → Prop
  | .cardAppeared _ =>
    some view.config.cardCount ∉ visibleIds view.cards ∧
      (view.config.selected = 0 ∨ some (activeId view.config + 1) ∈ visibleIds view.cards)
  | .cardDisappeared index =>
    visibleIds (view.cards.eraseIdx index) ≠ [] →
      some (activeId view.config - 1) ∈ visibleIds (view.cards.eraseIdx index)
  | .dragEnded translation width =>
    visibleIds view.cards ≠ [] →
      (translation < -(width / 6) → view.config.selected + 1 < view.config.cardCount →
        some (activeId view.config - 1) ∈ visibleIds view.cards) ∧
      (¬translation < -(width / 6) → translation > width / 6 → 0 < view.config.selected →
        some (activeId view.config + 1) ∈ visibleIds view.cards)
  | .appeared _ | .dragUpdated _ => True

/-- The counter is the number of the visible cards, whose ids were such counters. -/
structure Counted (ids : List (Option Int)) (config : CarouselConfig) : Prop where
  counted : config.cardCount = ids.length
  numbers : ∀ id ∈ ids, ∃ number : Nat, id = some (number : Int)
  shows : ids ≠ [] → Consistent ids config

theorem Counted.perm {ids others : List (Option Int)} {config : CarouselConfig}
    (same : ids.Perm others) (h : Counted ids config) : Counted others config where
  counted := h.counted.trans (congrArg Nat.cast same.length_eq)
  numbers := fun id member => h.numbers id (same.symm.subset member)
  shows := fun some_visible => (h.shows fun none_visible => some_visible
    (List.nil_perm.mp (none_visible ▸ same))).perm same

section Ids

variable {ids : List (Option Int)} {config : CarouselConfig}

theorem Counted.active_nonneg (h : Counted ids config) {id : Int} (member : some id ∈ ids) :
    0 ≤ id := by
  obtain ⟨number, equal⟩ := h.numbers _ member
  have := Option.some.inj equal
  omega

/-- The id after the active one is the new card's where the first card is selected. -/
theorem mem_appeared_iff :
    some (activeId config + 1) ∈ some config.cardCount :: ids ↔
      config.selected = 0 ∨ some (activeId config + 1) ∈ ids := by
  rw [List.mem_cons, Option.some_inj]
  apply or_congr_left
  simp only [activeId]
  omega

theorem consistent_appear (h : Counted ids config) :
    Consistent (some config.cardCount :: ids) { config with cardCount := config.cardCount + 1 } ↔
      some config.cardCount ∉ ids ∧
        (config.selected = 0 ∨ some (activeId config + 1) ∈ ids) := by
  have next : activeId { config with cardCount := config.cardCount + 1 } = activeId config + 1 := by
    simp only [activeId]
    omega
  constructor
  · intro ⟨distinct, _, _, active⟩
    exact ⟨(List.nodup_cons.mp distinct).1, mem_appeared_iff.mp (next ▸ active)⟩
  · intro ⟨fresh, points⟩
    have distinct : ids.Nodup := by
      by_cases empty : ids = []
      · exact empty ▸ List.nodup_nil
      · exact (h.shows empty).distinct
    have range : 0 ≤ config.selected ∧ config.selected < config.cardCount + 1 := by
      cases points with
      | inl first =>
        have := h.counted
        omega
      | inr member =>
        have shows := h.shows (List.ne_nil_of_mem member)
        have := shows.nonneg
        have := shows.below
        omega
    refine ⟨List.nodup_cons.mpr ⟨fresh, distinct⟩, range.1, range.2, ?_⟩
    exact next ▸ mem_appeared_iff.mpr points

theorem counted_appear (h : Counted ids config)
    (shows : Consistent (some config.cardCount :: ids)
      { config with cardCount := config.cardCount + 1 }) :
    Counted (some config.cardCount :: ids)
      { config with cardCount := config.cardCount + 1 } where
  counted := by
    rw [h.counted, List.length_cons]
    push_cast
    rfl
  numbers := by
    intro id member
    cases List.mem_cons.mp member with
    | inl equal => exact ⟨ids.length, equal.trans (congrArg some h.counted)⟩
    | inr earlier => exact h.numbers id earlier
  shows := fun _ => shows

theorem consistent_disappear {id : Option Int} (h : Counted (id :: ids) config) :
    Consistent ids { config with cardCount := config.cardCount - 1 } ↔
      some (activeId config - 1) ∈ ids := by
  have next : activeId { config with cardCount := config.cardCount - 1 } = activeId config - 1 := by
    simp only [activeId]
    omega
  constructor
  · intro ⟨_, _, _, active⟩
    rwa [next] at active
  · intro member
    have shows := h.shows (List.cons_ne_nil _ _)
    have nonneg := h.active_nonneg (List.mem_cons_of_mem _ member)
    refine ⟨(List.nodup_cons.mp shows.distinct).2, shows.nonneg, ?_, next ▸ member⟩
    simp only [activeId] at nonneg
    change config.selected < config.cardCount - 1
    omega

theorem counted_disappear {id : Option Int} (h : Counted (id :: ids) config)
    (shows : ids ≠ [] → Consistent ids { config with cardCount := config.cardCount - 1 }) :
    Counted ids { config with cardCount := config.cardCount - 1 } where
  counted := by
    rw [h.counted, List.length_cons]
    push_cast
    omega
  numbers := fun other member => h.numbers other (List.mem_cons_of_mem _ member)
  shows := shows

theorem consistent_selected (h : Consistent ids config) (selected : Int) :
    Consistent ids { config with selected := selected } ↔
      0 ≤ selected ∧ selected < config.cardCount ∧
        some (config.cardCount - selected - 1) ∈ ids :=
  ⟨fun ⟨_, nonneg, below, active⟩ => ⟨nonneg, below, active⟩,
    fun ⟨nonneg, below, active⟩ => ⟨h.distinct, nonneg, below, active⟩⟩

theorem consistent_forward (h : Consistent ids config) :
    Consistent ids { config with selected := min (config.selected + 1) (config.cardCount - 1) } ↔
      (config.selected + 1 < config.cardCount → some (activeId config - 1) ∈ ids) := by
  have nonneg := h.nonneg
  have below := h.below
  rw [consistent_selected h]
  by_cases more : config.selected + 1 < config.cardCount
  · have moved : min (config.selected + 1) (config.cardCount - 1) = config.selected + 1 := by
      omega
    have next : config.cardCount - (config.selected + 1) - 1 = activeId config - 1 := by
      simp only [activeId]
      omega
    rw [moved, next]
    exact ⟨fun settled _ => settled.2.2, fun member => ⟨by omega, more, member more⟩⟩
  · have stays : min (config.selected + 1) (config.cardCount - 1) = config.selected := by omega
    rw [stays]
    exact iff_of_true ⟨nonneg, below, h.active⟩ fun inside => absurd inside more

theorem consistent_back (h : Consistent ids config) :
    Consistent ids { config with selected := max 0 (config.selected - 1) } ↔
      (0 < config.selected → some (activeId config + 1) ∈ ids) := by
  have nonneg := h.nonneg
  have below := h.below
  rw [consistent_selected h]
  by_cases more : 0 < config.selected
  · have moved : max 0 (config.selected - 1) = config.selected - 1 := by omega
    have next : config.cardCount - (config.selected - 1) - 1 = activeId config + 1 := by
      simp only [activeId]
      omega
    rw [moved, next]
    exact ⟨fun settled _ => settled.2.2, fun member => ⟨by omega, by omega, member more⟩⟩
  · have stays : max 0 (config.selected - 1) = config.selected := by omega
    rw [stays]
    exact iff_of_true ⟨nonneg, below, h.active⟩ fun inside => absurd inside more

theorem consistent_drag (h : Consistent ids config) (translation width : Rat) :
    Consistent ids { config with selected := selectedAfter config translation width } ↔
      (translation < -(width / 6) → config.selected + 1 < config.cardCount →
        some (activeId config - 1) ∈ ids) ∧
      (¬translation < -(width / 6) → translation > width / 6 → 0 < config.selected →
        some (activeId config + 1) ∈ ids) := by
  unfold selectedAfter
  split
  · rename_i forward
    rw [consistent_forward h]
    exact ⟨fun settled => ⟨fun _ => settled, fun stays => absurd forward stays⟩,
      fun settled => settled.1 forward⟩
  · rename_i forward
    split
    · rename_i back
      rw [consistent_back h]
      exact ⟨fun settled => ⟨fun moved => absurd moved forward, fun _ _ => settled⟩,
        fun settled => settled.2 forward back⟩
    · rename_i back
      exact iff_of_true h
        ⟨fun moved => absurd moved forward, fun _ moved => absurd moved back⟩

end Ids

/-! ## Runs -/

def CardsCounted (view : CPKCarouselView) : Prop := Counted (visibleIds view.cards) view.config

theorem step_cardAppeared {view next : CPKCarouselView} {index : Nat}
    (stepped : step view (.cardAppeared index) = some next) :
    ∃ card, view.cards[index]? = some card ∧ card.visible = false ∧
      next = view.cardOnAppear index := by
  dsimp only [step] at stepped
  split at stepped
  · rename_i card found
    split at stepped
    · cases stepped
    · rename_i hidden
      exact ⟨card, found, Bool.eq_false_iff.mpr hidden, (Option.some.inj stepped).symm⟩
  · cases stepped

theorem step_cardDisappeared {view next : CPKCarouselView} {index : Nat}
    (stepped : step view (.cardDisappeared index) = some next) :
    ∃ card, view.cards[index]? = some card ∧ card.visible = true ∧
      next = view.cardOnDisappear index card := by
  dsimp only [step] at stepped
  split at stepped
  · rename_i card found
    split at stepped
    · rename_i shown
      exact ⟨card, found, shown, (Option.some.inj stepped).symm⟩
    · cases stepped
  · cases stepped

section Steps

variable {view next : CPKCarouselView} {index : Nat}

theorem cardAppeared_shows (counted : CardsCounted view)
    (stepped : step view (.cardAppeared index) = some next) :
    (ShowsOneActive next ↔ LeavesOneActive view (.cardAppeared index)) ∧
      (ShowsOneActive next → CardsCounted next) := by
  obtain ⟨card, found, hidden, rfl⟩ := step_cardAppeared stepped
  have same : (visibleIds (view.cardOnAppear index).cards).Perm
      (some view.config.cardCount :: visibleIds view.cards) :=
    visibleIds_appear found hidden view.config.cardCount
  have nonempty : visibleIds (view.cardOnAppear index).cards ≠ [] := fun empty =>
    List.cons_ne_nil _ _ (List.nil_perm.mp (empty ▸ same))
  rw [showsOneActive_iff]
  constructor
  · calc (visibleIds (view.cardOnAppear index).cards ≠ [] → Consistent
            (visibleIds (view.cardOnAppear index).cards) (view.cardOnAppear index).config)
        ↔ Consistent (some view.config.cardCount :: visibleIds view.cards)
            (view.cardOnAppear index).config :=
          (forall_prop_of_true nonempty).trans (consistent_perm same)
      _ ↔ LeavesOneActive view (.cardAppeared index) := consistent_appear counted
  · intro shows
    exact (counted_appear counted ((shows nonempty).perm same)).perm same.symm

theorem cardDisappeared_shows (counted : CardsCounted view)
    (stepped : step view (.cardDisappeared index) = some next) :
    (ShowsOneActive next ↔ LeavesOneActive view (.cardDisappeared index)) ∧
      (ShowsOneActive next → CardsCounted next) := by
  obtain ⟨card, found, shown, rfl⟩ := step_cardDisappeared stepped
  have same : (visibleIds (view.cardOnDisappear index card).cards).Perm
      (visibleIds (view.cards.eraseIdx index)) := visibleIds_disappear found
  have before : Counted (card.cardId :: visibleIds (view.cards.eraseIdx index)) view.config :=
    Counted.perm (visibleIds_shown found shown) counted
  have some_left : visibleIds (view.cardOnDisappear index card).cards ≠ [] ↔
      visibleIds (view.cards.eraseIdx index) ≠ [] := by
    rw [Ne, Ne, ← List.length_eq_zero_iff, same.length_eq, List.length_eq_zero_iff]
  rw [showsOneActive_iff]
  constructor
  · exact forall_prop_congr
      (fun _ => (consistent_perm same).trans
        (consistent_disappear before)) some_left
  · intro shows
    have left := counted_disappear before fun others =>
      (shows (some_left.mpr others)).perm same
    exact left.perm same.symm

theorem dragEnded_shows (counted : CardsCounted view) (translation width : Rat) :
    (ShowsOneActive (view.onEnded translation width) ↔
        LeavesOneActive view (.dragEnded translation width)) ∧
      (ShowsOneActive (view.onEnded translation width) →
        CardsCounted (view.onEnded translation width)) := by
  rw [showsOneActive_iff]
  constructor
  · exact forall_congr' fun visible =>
      consistent_drag (counted.shows visible) translation width
  · intro shows
    exact ⟨counted.counted, counted.numbers, shows⟩

/-- One event from a state in which the cards are counted. -/
theorem step_carousel {event : Event} (counted : CardsCounted view)
    (stepped : step view event = some next) :
    (ShowsOneActive next ↔ LeavesOneActive view event) ∧
      (ShowsOneActive next → CardsCounted next) := by
  cases event with
  | appeared width =>
    cases stepped
    exact ⟨iff_of_true ((showsOneActive_iff _).mpr counted.shows) trivial, fun _ => counted⟩
  | dragUpdated translation =>
    cases stepped
    exact ⟨iff_of_true ((showsOneActive_iff _).mpr counted.shows) trivial, fun _ => counted⟩
  | dragEnded translation width =>
    cases stepped
    exact dragEnded_shows counted translation width
  | cardAppeared index => exact cardAppeared_shows counted stepped
  | cardDisappeared index => exact cardDisappeared_shows counted stepped

end Steps

theorem cardsCounted_new (cards : Nat) (cardWidth : Rat) (selected : Int) (spacing : Rat) :
    CardsCounted (new cards cardWidth selected spacing) := by
  have none_visible : visibleIds (new cards cardWidth selected spacing).cards = [] := by
    rw [visibleIds, visibleCards, new, List.filter_replicate]
    rfl
  rw [CardsCounted, none_visible]
  exact ⟨rfl, fun id member => absurd member List.not_mem_nil, fun some_visible =>
    absurd rfl some_visible⟩

/-- Every state of a run shows one active card exactly when every event leaves one. -/
theorem carousel_showsOneActive_iff (cards : Nat) (cardWidth : Rat) (selected : Int)
    (spacing : Rat) (events : List Event) :
    AlongRun step (fun _ _ next => ShowsOneActive next) (new cards cardWidth selected spacing)
        events ↔
      AlongRun step (fun view event _ => LeavesOneActive view event)
        (new cards cardWidth selected spacing) events :=
  alongRun_iff_of_invariant CardsCounted
    (fun _ _ _ counted stepped => (step_carousel counted stepped).1)
    (fun _ _ _ counted stepped leaves =>
      (step_carousel counted stepped).2 ((step_carousel counted stepped).1.mpr leaves))
    (cardsCounted_new cards cardWidth selected spacing)

/-- Three cards appear, and the first one leaves and comes back. -/
def cardComesBack : List Event :=
  [.cardAppeared 0, .cardAppeared 1, .cardAppeared 2, .cardDisappeared 0, .cardAppeared 0]

theorem two_cards_share_an_id :
    ¬(∀ (cards : Nat) cardWidth selected spacing, 0 ≤ selected → selected < (cards : Int) →
      ∀ events, AlongRun step (fun _ _ next => ShowsOneActive next)
        (new cards cardWidth selected spacing) events) ∧
    (run step (new 3 100 0 20) cardComesBack).map (fun view => visibleIds view.cards) =
      some [some 2, some 1, some 2] := by
  refine ⟨fun claimed => ?_, rfl⟩
  have shown := claimed 3 100 0 20 (by decide) (by decide) cardComesBack
  have last := ((((shown _ rfl).2 _ rfl).2 _ rfl).2 _ rfl).2 _ rfl
  have distinct := (last.1 (by decide)).distinct
  exact absurd distinct (by decide)

end FinanciaApp.Guarantees
