import Mathlib.Data.Rat.Defs
import Mathlib.Algebra.Order.Ring.Rat
import FinanciaApp.Library.Runs

/-!
# The carousel

`Core/Cupertino/CarouselView/CPKCarouselView.swift`. SwiftUI shows and hides the cards, in turns
for each card, and reports the width of the geometry and the translation of a drag. The numbers
of points are rational.
-/

set_option autoImplicit false

namespace FinanciaApp.Source

open Library

structure CarouselConfig where
  cardWidth : Rat
  cardCount : Int
  selected : Int
  deriving DecidableEq, Repr

/-- A card, and whether it has appeared and not disappeared since. -/
structure CarouselCard where
  cardId : Option Int
  visible : Bool
  deriving DecidableEq, Repr

namespace CarouselCard

def isActive (config : CarouselConfig) (card : CarouselCard) : Bool :=
  card.cardId == some (config.cardCount - config.selected - 1)

end CarouselCard

structure CPKCarouselView where
  cards : List CarouselCard
  config : CarouselConfig
  offset : Rat
  gestureOffset : Rat
  spacing : Rat
  deriving DecidableEq, Repr

namespace CPKCarouselView

/-- A carousel of so many cards, none of which has appeared. -/
def new (cards : Nat) (cardWidth : Rat) (selected : Int) (spacing : Rat) : CPKCarouselView where
  cards := List.replicate cards ⟨none, false⟩
  config := ⟨cardWidth, 0, selected⟩
  offset := 0
  gestureOffset := 0
  spacing := spacing

/-- `offset(for:geometry:)`, which does not read its index. -/
def offsetFor (view : CPKCarouselView) (width : Rat) : Rat :=
  (width - view.config.cardWidth) / 2 -
    view.config.selected * (view.config.cardWidth + view.spacing)

inductive Event where
  | appeared (width : Rat)
  | cardAppeared (card : Nat)
  | cardDisappeared (card : Nat)
  | dragUpdated (translation : Rat)
  | dragEnded (translation width : Rat)
  deriving DecidableEq, Repr

/-- `onAppear` of a card. -/
def cardOnAppear (view : CPKCarouselView) (index : Nat) : CPKCarouselView :=
  { view with
    cards := view.cards.set index ⟨some view.config.cardCount, true⟩
    config := { view.config with cardCount := view.config.cardCount + 1 } }

/-- `onDisappear` of a card, which keeps its id. -/
def cardOnDisappear (view : CPKCarouselView) (index : Nat) (card : CarouselCard) :
    CPKCarouselView :=
  { view with
    cards := view.cards.set index { card with visible := false }
    config := { view.config with cardCount := view.config.cardCount - 1 } }

/-- The selection after a drag. -/
def selectedAfter (config : CarouselConfig) (translation width : Rat) : Int :=
  if translation < -(width / 6) then min (config.selected + 1) (config.cardCount - 1)
  else if translation > width / 6 then max 0 (config.selected - 1)
  else config.selected

/-- `onEnded` of the drag. -/
def onEnded (view : CPKCarouselView) (translation width : Rat) : CPKCarouselView :=
  let view := { view with offset := view.offset + view.gestureOffset, gestureOffset := 0 }
  let view := { view with
    config := { view.config with selected := selectedAfter view.config translation width } }
  { view with offset := view.offsetFor width }

def step (view : CPKCarouselView) : Event → Option CPKCarouselView
  | .appeared width => some { view with offset := view.offsetFor width }
  | .cardAppeared index =>
    match view.cards[index]? with
    | some card => if card.visible then none else some (view.cardOnAppear index)
    | none => none
  | .cardDisappeared index =>
    match view.cards[index]? with
    | some card => if card.visible then some (view.cardOnDisappear index card) else none
    | none => none
  | .dragUpdated translation => some { view with gestureOffset := translation }
  | .dragEnded translation width => some (view.onEnded translation width)

end CPKCarouselView

end FinanciaApp.Source
