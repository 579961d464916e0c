import Mathlib.Data.List.Forall2

/-!
# Chains without gaps

A list of things with a start and a stop is chained when each starts where the one before
it stops.
-/

set_option autoImplicit false

namespace FinanciaApp.Library

universe u v w x

variable {A : Type u} {P : Type v} {B : Type w} {Q : Type x}

/-- The list leads from one place to another. -/
inductive Chained (start stop : A → P) : P → P → List A → Prop where
  | nil (place : P) : Chained start stop place place []
  | cons (a : A) {last : P} {rest : List A} (linked : Chained start stop (stop a) last rest) :
    Chained start stop (start a) last (a :: rest)

namespace Chained

variable {start stop : A → P} {first middle last : P} {as later : List A}

theorem append (chained : Chained start stop first middle as)
    (next : Chained start stop middle last later) :
    Chained start stop first last (as ++ later) := by
  induction chained with
  | nil => exact next
  | cons a linked ih => exact Chained.cons a (ih next)

/-- After a thing that stops where the list starts, the last one stops where it ends. -/
theorem stop_getLastD (chained : Chained start stop first last as) (before : A)
    (here : stop before = first) : stop (as.getLastD before) = last := by
  induction chained generalizing before with
  | nil => exact here
  | cons a linked ih =>
    rw [List.getLastD_cons]
    exact ih a rfl

/-- Related things at corresponding places are chained too. -/
theorem transfer {start' stop' : B → Q} {bs : List B} (place : P → Q)
    (chained : Chained start stop first last as)
    (related : List.Forall₂ (fun a b => start' b = place (start a) ∧ stop' b = place (stop a))
      as bs) :
    Chained start' stop' (place first) (place last) bs := by
  induction chained generalizing bs with
  | nil p =>
    cases related
    exact Chained.nil (place p)
  | cons a linked ih =>
    cases related with
    | cons ends rest =>
      rw [← ends.1]
      apply Chained.cons
      rw [ends.2]
      exact ih rest

theorem map {start' stop' : B → Q} (place : P → Q) (f : A → B)
    (starts : ∀ a, start' (f a) = place (start a)) (stops : ∀ a, stop' (f a) = place (stop a))
    (chained : Chained start stop first last as) :
    Chained start' stop' (place first) (place last) (as.map f) := by
  apply chained.transfer place
  rw [List.forall₂_map_right_iff, List.forall₂_same]
  intro a _
  exact ⟨starts a, stops a⟩

end Chained

end FinanciaApp.Library
