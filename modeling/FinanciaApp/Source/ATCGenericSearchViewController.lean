import Mathlib

/-!
# The shuffled search results

`Core/ViewControllers/ATCGenericSearchViewController.swift:122-161`, for arrays. The results of
`arc4random_uniform` are given, one for each call in turn. `none` is a trap.
-/

set_option autoImplicit false

namespace FinanciaApp.Source

universe u

namespace ATCGenericSearchViewController

/-- `numericCast` of a count to the `UInt32` of `arc4random_uniform`. -/
def numericCast (count : Nat) : Option Nat := if count < 2 ^ 32 then some count else none

/-- A number below the bound, and the results of the calls that follow. -/
def arc4random_uniform (upperBound : Nat) : List Nat → Option (Nat × List Nat)
  | draw :: draws => if draw < upperBound then some (draw, draws) else none
  | [] => none

/-- `stride(from: c, to: 1, by: -1)`. -/
def countdown (c : Nat) : List Nat := (List.range (c - 1)).map fun round => c - round

section Elements

variable {α : Type u}

def swapAt (elements : List α) (i j : Nat) : Option (List α) := do
  let first ← elements[i]?
  let second ← elements[j]?
  return (elements.set i second).set j first

/-- The body of the loop, for an index and the count of the elements from there on. -/
def shuffleRound (state : List α × List Nat) (round : Nat × Nat) :
    Option (List α × List Nat) :=
  let (firstUnshuffled, unshuffledCount) := round
  (numericCast unshuffledCount).bind fun upperBound =>
    (arc4random_uniform upperBound state.2).bind fun (d, draws) =>
      (swapAt state.1 firstUnshuffled (firstUnshuffled + d)).map fun elements => (elements, draws)

def shuffle (elements : List α) (draws : List Nat) : Option (List α) :=
  let c := elements.length
  if c > 1 then
    (((List.range c).zip (countdown c)).foldlM shuffleRound (elements, draws)).map Prod.fst
  else some elements

def shuffled (elements : List α) (draws : List Nat) : Option (List α) := shuffle elements draws

/-- The items that the local data source delivers to its delegate, whatever the text. -/
def search (items : List α) (_ : Option String) (draws : List Nat) : Option (List α) :=
  shuffled items draws

end Elements

end ATCGenericSearchViewController

end FinanciaApp.Source
