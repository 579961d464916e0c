import FinanciaApp.Library.InFlight

/-!
# The toast

`Core/Cupertino/ToastView/CPKToastView.swift:44-74`, with the owner of the binding, SwiftUI, which
evaluates the body as often as it likes, and the main queue. The presentations are numbered; the
code reads no number.
-/

set_option autoImplicit false

namespace FinanciaApp.Source

open Library

/-- `scheduled` has the dismissals that were not executed yet, each by the presentation during
which it was scheduled. -/
structure CPKToastView where
  isPresented : Bool
  presentation : Nat
  scheduled : List Nat
  deriving DecidableEq, Repr

namespace CPKToastView

def new (isPresented : Bool) : CPKToastView := ⟨isPresented, 0, []⟩

inductive Event where
  | present
  | dismiss
  | body
  | dismissAfterDelay (index : Nat)
  deriving DecidableEq, Repr

/-- The binding is set to `true`. -/
def present (toast : CPKToastView) : CPKToastView :=
  if toast.isPresented then toast
  else { toast with isPresented := true, presentation := toast.presentation + 1 }

/-- The binding is set to `false`. -/
def dismiss (toast : CPKToastView) : CPKToastView := { toast with isPresented := false }

/-- An evaluation of `body`, with the closure of `asyncAfter` known by its presentation. -/
def body (toast : CPKToastView) : CPKToastView :=
  if toast.isPresented then { toast with scheduled := toast.scheduled ++ [toast.presentation] }
  else toast

def step (toast : CPKToastView) : Event → Option CPKToastView
  | .present => some toast.present
  | .dismiss => some toast.dismiss
  | .body => some toast.body
  | .dismissAfterDelay index =>
    (deliver toast.scheduled index).map fun (_, rest) =>
      dismiss { toast with scheduled := rest }

end CPKToastView

end FinanciaApp.Source
