import Mathlib.Data.List.Perm.Basic

/-!
# Requests in flight

The requests that were sent and not answered yet, in the order in which they
were sent. Replies come back in any order: a reply names the position of the
request it answers, and `deliver` hands out that request and the ones that stay
in flight. Everything a proof needs is that the answered request and the rest
are together the old list, up to order (`deliver_perm`).
-/

set_option autoImplicit false

namespace FinanciaApp.Library

universe u

variable {ρ : Type u}

/-- The request at position `i` and the requests that stay in flight after its reply. -/
def deliver (inFlight : List ρ) (i : Nat) : Option (ρ × List ρ) :=
  match inFlight[i]? with
  | some request => some (request, inFlight.eraseIdx i)
  | none => none

section Delivery

variable {inFlight rest : List ρ} {i : Nat} {request : ρ}

theorem deliver_perm (h : deliver inFlight i = some (request, rest)) :
    (request :: rest).Perm inFlight := by
  unfold deliver at h
  split at h
  · rename_i found
    cases h
    obtain ⟨bound, rfl⟩ := List.getElem?_eq_some_iff.mp found
    exact List.getElem_cons_eraseIdx_perm bound
  · cases h

theorem deliver_mem (h : deliver inFlight i = some (request, rest)) : request ∈ inFlight :=
  (deliver_perm h).mem_iff.mp List.mem_cons_self

theorem deliver_rest_sublist (h : deliver inFlight i = some (request, rest)) :
    rest.Sublist inFlight := by
  unfold deliver at h
  split at h
  · cases h
    exact List.eraseIdx_sublist _ _
  · cases h

theorem deliver_rest_subset (h : deliver inFlight i = some (request, rest)) :
    ∀ r ∈ rest, r ∈ inFlight :=
  fun _ hr => (deliver_perm h).mem_iff.mp (List.mem_cons_of_mem _ hr)

theorem deliver_countP (p : ρ → Bool) (h : deliver inFlight i = some (request, rest)) :
    inFlight.countP p = rest.countP p + (p request).toNat := by
  rw [← (deliver_perm h).countP_eq p, List.countP_cons]
  cases p request <;> rfl

theorem countP_concat (p : ρ → Bool) (sent : List ρ) (r : ρ) :
    (sent ++ [r]).countP p = sent.countP p + (p r).toNat := by
  rw [List.countP_append, List.countP_singleton]
  cases p r <;> rfl

theorem deliver_length (h : deliver inFlight i = some (request, rest)) :
    inFlight.length = rest.length + 1 := by
  rw [← (deliver_perm h).length_eq, List.length_cons]

/-- The reply to the only request in flight leaves none. -/
theorem deliver_rest_eq_nil (alone : inFlight.length ≤ 1)
    (h : deliver inFlight i = some (request, rest)) : rest = [] := by
  have length := deliver_length h
  exact List.eq_nil_of_length_eq_zero (by omega)

/-- The reply to the only request in flight among those of three kinds leaves none. -/
theorem deliver_alone {α β : Type*} {first : List α} {second : List β}
    (alone : inFlight.length + first.length + second.length ≤ 1)
    (h : deliver inFlight i = some (request, rest)) : rest = [] ∧ first = [] ∧ second = [] := by
  have length := deliver_length h
  exact ⟨deliver_rest_eq_nil (by omega) h, List.eq_nil_of_length_eq_zero (by omega),
    List.eq_nil_of_length_eq_zero (by omega)⟩

end Delivery

end FinanciaApp.Library
