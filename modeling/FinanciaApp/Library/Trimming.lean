import Mathlib.Data.List.DropRight

/-!
# Trimming

`trimmed p xs` drops the elements that satisfy `p` at both ends of `xs`. It leaves a list
alone exactly when neither its first nor its last element satisfies `p`.
-/

set_option autoImplicit false

namespace FinanciaApp.Library

universe u

variable {α : Type u} (p : α → Bool)

def trimmed (xs : List α) : List α := (xs.dropWhile p).rdropWhile p

/-- Neither end satisfies `p`. -/
structure CleanEnds (xs : List α) : Prop where
  first : ∀ x ∈ xs.head?, p x = false
  last : ∀ x ∈ xs.getLast?, p x = false

variable {p}

theorem dropWhile_eq_self_iff_head (xs : List α) :
    xs.dropWhile p = xs ↔ ∀ x ∈ xs.head?, p x = false := by
  cases xs with
  | nil => simp
  | cons x xs => simp

theorem rdropWhile_eq_self_iff_last (xs : List α) :
    xs.rdropWhile p = xs ↔ ∀ x ∈ xs.getLast?, p x = false := by
  rw [List.rdropWhile_eq_self_iff]
  constructor
  · intro notDropped x last
    have nonempty : xs ≠ [] := by
      rintro rfl
      cases last
    rw [List.getLast?_eq_some_getLast nonempty, Option.mem_some_iff] at last
    simpa [last] using notDropped nonempty
  · intro last nonempty
    simp [last _ (List.getLast?_eq_some_getLast nonempty)]

theorem trimmed_eq_self_iff (xs : List α) : trimmed p xs = xs ↔ CleanEnds p xs := by
  constructor
  · intro same
    have shorter : (trimmed p xs).length ≤ (xs.dropWhile p).length :=
      (List.rdropWhile_prefix p (xs.dropWhile p)).length_le
    have kept : xs.dropWhile p = xs :=
      (List.dropWhile_suffix p).eq_of_length_le (by rwa [same] at shorter)
    rw [trimmed, kept] at same
    exact ⟨(dropWhile_eq_self_iff_head xs).mp kept, (rdropWhile_eq_self_iff_last xs).mp same⟩
  · intro clean
    rw [trimmed, (dropWhile_eq_self_iff_head xs).mpr clean.first]
    exact (rdropWhile_eq_self_iff_last xs).mpr clean.last

/-- Trimming takes away only what satisfies `p`. -/
theorem filter_trimmed (xs : List α) :
    (trimmed p xs).filter (fun x => !p x) = xs.filter fun x => !p x := by
  have atFront (ys : List α) : (ys.dropWhile p).filter (fun y => !p y) =
      ys.filter fun y => !p y := by
    induction ys with
    | nil => rfl
    | cons y ys ih =>
      by_cases dropped : p y
      · rw [List.dropWhile_cons_of_pos dropped, ih, List.filter_cons_of_neg (by simp [dropped])]
      · rw [List.dropWhile_cons_of_neg dropped]
  rw [trimmed, List.rdropWhile, List.filter_reverse, atFront, ← List.filter_reverse,
    List.reverse_reverse, atFront]

/-- Nothing is left exactly if everything satisfies `p`. -/
theorem trimmed_eq_nil_iff (xs : List α) :
    trimmed p xs = [] ↔ xs.filter (fun x => !p x) = [] := by
  constructor
  · intro gone
    rw [← filter_trimmed, gone, List.filter_nil]
  · intro none
    have all : xs.dropWhile p = [] := by
      rw [List.dropWhile_eq_nil_iff]
      simpa using none
    rw [trimmed, all]
    rfl

theorem trimmed_sublist (xs : List α) : (trimmed p xs).Sublist xs :=
  (List.rdropWhile_prefix p _).sublist.trans (List.dropWhile_suffix p).sublist

/-- What does not satisfy `p` is not trimmed away. -/
theorem mem_trimmed_iff {x : α} (xs : List α) (kept : p x = false) :
    x ∈ trimmed p xs ↔ x ∈ xs := by
  have same : x ∈ (trimmed p xs).filter (fun x => !p x) ↔ x ∈ xs.filter fun x => !p x := by
    rw [filter_trimmed]
  simpa [kept] using same

end FinanciaApp.Library
