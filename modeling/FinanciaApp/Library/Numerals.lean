import Mathlib.Data.Nat.Init

/-!
# Numerals of a field

A numeral of a field carries a proof that it is at least two. The proofs of those that several
modules use have a name, so that a half or a third is one term in all of them.
-/

set_option autoImplicit false

namespace FinanciaApp.Library

instance atLeastTwo_two : Nat.AtLeastTwo 2 :=
  ⟨Nat.le_refl 2⟩

instance atLeastTwo_three : Nat.AtLeastTwo 3 :=
  ⟨by decide⟩

instance atLeastTwo_fifteen : Nat.AtLeastTwo 15 :=
  ⟨by decide⟩

instance atLeastTwo_thirty : Nat.AtLeastTwo 30 :=
  ⟨by decide⟩

instance atLeastTwo_hundred : Nat.AtLeastTwo 100 :=
  ⟨by decide⟩

instance atLeastTwo_twoHundredForty : Nat.AtLeastTwo 240 :=
  ⟨by decide⟩

end FinanciaApp.Library
