import Mathlib.Data.List.Basic
import Mathlib.Data.List.Forall2

/-!
# A list mapped by a function that may fail

* `mapM_eq_none_iff`, `isSome_mapM_iff`: the whole fails with one element.
* `map_of_mapM`, `mapM_eq_some_map_iff`: what the function keeps of an element, the whole keeps.
* `mapM_map_inverse`: a list that was encoded element by element is decoded.
* `exists_mapM_ok`, `mapM_ok_iff_forall₂`, `exists_of_mem_mapM_ok`: the same for a function
  that fails with an error.
* `foldlM_invariant`: what a step keeps, a fold that does not fail keeps.
-/

set_option autoImplicit false

namespace FinanciaApp.Library

universe u v w

variable {α : Type u} {β : Type v} {γ : Type w} {f : α → Option β}

theorem mapM_eq_none_iff (xs : List α) : xs.mapM f = none ↔ ∃ x ∈ xs, f x = none := by
  induction xs with
  | nil => exact iff_of_false nofun fun ⟨x, member, _⟩ => List.not_mem_nil member
  | cons x xs ih =>
    rw [List.mapM_cons, List.exists_mem_cons_iff, ← ih]
    cases f x with
    | none => exact iff_of_true rfl (.inl rfl)
    | some y =>
      cases xs.mapM f with
      | none => exact iff_of_true rfl (.inr rfl)
      | some ys => exact iff_of_false nofun (by simp)

theorem isSome_mapM_iff (xs : List α) :
    (xs.mapM f).isSome = true ↔ ∀ x ∈ xs, (f x).isSome = true := by
  rw [Option.isSome_iff_ne_none, Ne, mapM_eq_none_iff]
  simp only [not_exists, not_and, Option.isSome_iff_ne_none, Ne]

theorem map_of_mapM {g : α → γ} {h : β → γ} (kept : ∀ x y, f x = some y → h y = g x)
    {xs : List α} {ys : List β} (mapped : xs.mapM f = some ys) : ys.map h = xs.map g := by
  induction xs generalizing ys with
  | nil =>
    cases mapped
    rfl
  | cons x xs ih =>
    rw [List.mapM_cons] at mapped
    obtain ⟨y, first, rest⟩ := Option.bind_eq_some_iff.mp mapped
    obtain ⟨zs, later, equal⟩ := Option.bind_eq_some_iff.mp rest
    cases equal
    rw [List.map_cons, List.map_cons, kept x y first, ih later]

/-- For a function that is a total one where it does not fail. -/
theorem mapM_eq_some_map_iff {g : α → β} (total : ∀ x y, f x = some y → y = g x) (xs : List α)
    (ys : List β) :
    xs.mapM f = some ys ↔ (∀ x ∈ xs, (f x).isSome = true) ∧ ys = xs.map g := by
  rw [← isSome_mapM_iff]
  have equal {zs : List β} (mapped : xs.mapM f = some zs) : zs = xs.map g := by
    rw [← map_of_mapM total mapped, List.map_id']
  constructor
  · intro mapped
    exact ⟨Option.isSome_of_mem mapped, equal mapped⟩
  · intro ⟨defined, same⟩
    obtain ⟨zs, mapped⟩ := Option.isSome_iff_exists.mp defined
    rw [mapped, equal mapped, same]

theorem mapM_map_inverse {encode : β → α} (decoded : ∀ y, f (encode y) = some y) (ys : List β) :
    (ys.map encode).mapM f = some ys := by
  induction ys with
  | nil => rfl
  | cons y ys ih =>
    rw [List.map_cons, List.mapM_cons, decoded, ih]
    rfl

section Errors

variable {ε : Type w} {g : α → Except ε β}

theorem mapM_ok_cons {x : α} {xs : List α} {zs : List β} :
    (x :: xs).mapM g = .ok zs ↔ ∃ y ys, g x = .ok y ∧ xs.mapM g = .ok ys ∧ zs = y :: ys := by
  rw [List.mapM_cons]
  cases g x with
  | error e => exact iff_of_false nofun (by simp)
  | ok y =>
    cases xs.mapM g with
    | error e => exact iff_of_false nofun (by simp)
    | ok ys =>
      constructor
      · intro h
        exact ⟨y, ys, rfl, rfl, (Except.ok.inj h).symm⟩
      · rintro ⟨_, _, ⟨⟩, ⟨⟩, rfl⟩
        rfl

theorem exists_mapM_ok {xs : List α} (each : ∀ x ∈ xs, ∃ y, g x = .ok y) :
    ∃ ys, xs.mapM g = .ok ys := by
  induction xs with
  | nil => exact ⟨[], rfl⟩
  | cons x xs ih =>
    obtain ⟨y, first⟩ := each x List.mem_cons_self
    obtain ⟨ys, rest⟩ := ih fun z there => each z (List.mem_cons_of_mem x there)
    exact ⟨y :: ys, mapM_ok_cons.mpr ⟨y, ys, first, rest, rfl⟩⟩

theorem mapM_ok_iff_forall₂ {xs : List α} {ys : List β} :
    xs.mapM g = .ok ys ↔ List.Forall₂ (fun x y => g x = .ok y) xs ys := by
  induction xs generalizing ys with
  | nil =>
    rw [List.forall₂_nil_left_iff]
    exact ⟨fun h => (Except.ok.inj h).symm, fun h => h ▸ rfl⟩
  | cons x xs ih =>
    rw [mapM_ok_cons, List.forall₂_cons_left_iff]
    constructor
    · rintro ⟨y, rest, first, later, rfl⟩
      exact ⟨y, rest, first, ih.mp later, rfl⟩
    · rintro ⟨y, rest, first, later, rfl⟩
      exact ⟨y, rest, first, ih.mpr later, rfl⟩

theorem exists_of_mem_mapM_ok {xs : List α} {ys : List β}
    (mapped : List.Forall₂ (fun x y => g x = .ok y) xs ys) {y : β} (there : y ∈ ys) :
    ∃ x ∈ xs, g x = .ok y := by
  induction mapped with
  | nil => cases there
  | cons first _ ih =>
    rcases List.mem_cons.mp there with rfl | later
    · exact ⟨_, List.mem_cons_self, first⟩
    · obtain ⟨x, inRest, isY⟩ := ih later
      exact ⟨x, List.mem_cons_of_mem _ inRest, isY⟩

/-- What one step keeps, a fold that does not fail keeps. -/
theorem foldlM_invariant {σ : Type v} {step : σ → α → Except ε σ} (inv : σ → Prop)
    {xs : List α} (kept : ∀ s x t, x ∈ xs → inv s → step s x = .ok t → inv t) {s t : σ}
    (start : inv s) (h : xs.foldlM step s = .ok t) : inv t := by
  induction xs generalizing s with
  | nil =>
    cases h
    exact start
  | cons x xs ih =>
    rw [List.foldlM_cons] at h
    cases first : step s x with
    | error e =>
      rw [first] at h
      cases h
    | ok m =>
      rw [first] at h
      exact ih (fun s y t there => kept s y t (List.mem_cons_of_mem x there))
        (kept s x m List.mem_cons_self start first) h

end Errors

end FinanciaApp.Library
