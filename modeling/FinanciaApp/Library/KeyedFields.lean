import Mathlib.Logic.Basic

/-!
# Fields under keys

A record that is written as a list of keyed values and read by `List.lookup`. A field that
may be missing contributes its entry or nothing; either way a lookup is a case distinction
on the key, so what is read from a list of fields can be computed key by key.
-/

set_option autoImplicit false

namespace FinanciaApp.Library

universe u v w

variable {κ : Type u} {ν : Type v} [BEq κ] [LawfulBEq κ] [DecidableEq κ]

theorem lookup_field (value : ν) (written key : κ) (fields : List (κ × ν)) :
    List.lookup key ((written, value) :: fields) =
      if key = written then some value else fields.lookup key := by
  rw [List.lookup_cons]
  by_cases same : key = written
  · rw [if_pos same, beq_iff_eq.mpr same]
  · rw [if_neg same, beq_false_of_ne same]

theorem lookup_optionalField {α : Type w} (value : Option α) (code : α → ν) (written key : κ) :
    ((value.map fun object => (written, code object)).toList).lookup key =
      if key = written then value.map code else none := by
  cases value with
  | none => simp
  | some object => exact lookup_field (code object) written key []

end FinanciaApp.Library
