import Mathlib.Data.List.GetD
import Mathlib.Data.List.Nodup
import Mathlib.Data.List.Perm.Basic
import Mathlib.Probability.Distributions.Uniform

/-!
# Elements drawn in turn

A list is rearranged by draws: the element at the drawn place changes places with the first one,
and the draws after it rearrange the rest. Of distinct elements, every permutation comes from
exactly one sequence of draws. Draws that are uniform and independent take every valid sequence
with the same probability, so they give every permutation with the same probability.
-/

set_option autoImplicit false

namespace FinanciaApp.Library

universe u w

variable {α : Type u}

/-- A draw for each of `count` elements but the last, among those that are left. -/
structure ValidDraws (count : Nat) (draws : List Nat) : Prop where
  length : draws.length = count - 1
  below : ∀ round draw, draws[round]? = some draw → draw < count - round

theorem validDraws_nil_iff (count : Nat) : ValidDraws count [] ↔ count ≤ 1 := by
  constructor
  · intro valid
    have := valid.length
    rw [List.length_nil] at this
    omega
  · intro few
    refine ⟨?_, fun round draw drawn => ?_⟩
    · rw [List.length_nil]
      omega
    · rw [List.getElem?_nil] at drawn
      cases drawn

theorem validDraws_cons_iff (count draw : Nat) (draws : List Nat) :
    ValidDraws (count + 1) (draw :: draws) ↔
      0 < count ∧ draw ≤ count ∧ ValidDraws count draws := by
  constructor
  · intro ⟨length, below⟩
    rw [List.length_cons] at length
    have first := below 0 draw rfl
    refine ⟨by omega, by omega, by omega, fun round later drawn => ?_⟩
    have next := below (round + 1) later drawn
    omega
  · intro ⟨several, first, length, below⟩
    refine ⟨?_, fun round later drawn => ?_⟩
    · rw [List.length_cons]
      omega
    · cases round with
      | zero =>
        have equal : draw = later := Option.some.inj drawn
        omega
      | succ round =>
        have next := below round later drawn
        omega

/-! ## One draw -/

/-- The first element and the others, after the first one changed places with a drawn one. -/
def swapFirst (first : α) (others : List α) : Nat → α × List α
  | 0 => (first, others)
  | draw + 1 => (others.getD draw first, others.set draw first)

theorem swapFirst_fst (first : α) (others : List α) {draw : Nat} (inside : draw ≤ others.length) :
    (first :: others)[draw]? = some (swapFirst first others draw).1 := by
  cases draw with
  | zero => rfl
  | succ draw =>
    rw [swapFirst, List.getElem?_cons_succ, List.getElem?_eq_getElem inside,
      List.getD_eq_getElem _ _ inside]

theorem swapFirst_length (first : α) (others : List α) (draw : Nat) :
    (swapFirst first others draw).2.length = others.length := by
  cases draw with
  | zero => rfl
  | succ draw => exact List.length_set

theorem swapFirst_perm (first : α) (others : List α) {draw : Nat}
    (inside : draw ≤ others.length) :
    ((swapFirst first others draw).1 :: (swapFirst first others draw).2).Perm
      (first :: others) := by
  cases draw with
  | zero => rfl
  | succ draw =>
    have there : draw + 1 < (first :: others).length := Nat.succ_lt_succ inside
    have here : 0 < (first :: others).length := Nat.succ_pos _
    rw [swapFirst, List.getD_eq_getElem _ _ inside]
    exact List.set_set_perm here there

/-- Of distinct elements, the first one after a draw tells what was drawn. -/
theorem swapFirst_injective {first : α} {others : List α} (distinct : (first :: others).Nodup)
    {draw other : Nat} (inside : draw ≤ others.length) (otherInside : other ≤ others.length)
    (same : (swapFirst first others draw).1 = (swapFirst first others other).1) :
    draw = other := by
  have drawn := swapFirst_fst first others inside
  rw [same, ← swapFirst_fst first others otherInside] at drawn
  exact (List.getElem?_inj (Nat.lt_succ_of_le inside) distinct).mp drawn

/-! ## All draws -/

/-- The draws in turn, as far as there are elements. -/
def drawInTurn : List α → List Nat → List α
  | first :: others, draw :: draws =>
    (swapFirst first others draw).1 :: drawInTurn (swapFirst first others draw).2 draws
  | elements, _ => elements

theorem drawInTurn_nil (elements : List α) : drawInTurn elements [] = elements := by
  cases elements <;> rfl

theorem drawInTurn_perm (elements : List α) (draws : List Nat)
    (valid : ValidDraws elements.length draws) : (drawInTurn elements draws).Perm elements := by
  induction draws generalizing elements with
  | nil => rw [drawInTurn_nil]
  | cons draw draws ih =>
    cases elements with
    | nil => exact List.Perm.refl _
    | cons first others =>
      obtain ⟨-, inside, rest⟩ := (validDraws_cons_iff _ _ _).mp valid
      have length := swapFirst_length first others draw
      have permuted := ih (swapFirst first others draw).2 (length ▸ rest)
      exact (permuted.cons _).trans (swapFirst_perm first others inside)

theorem drawInTurn_injective {elements : List α} (distinct : elements.Nodup)
    {draws others : List Nat} (valid : ValidDraws elements.length draws)
    (otherValid : ValidDraws elements.length others)
    (same : drawInTurn elements draws = drawInTurn elements others) : draws = others := by
  induction draws generalizing elements others with
  | nil =>
    have none_left := otherValid.length.trans valid.length.symm
    exact (List.length_eq_zero_iff.mp none_left).symm
  | cons draw draws ih =>
    cases others with
    | nil => exact absurd (valid.length.trans otherValid.length.symm) (Nat.succ_ne_zero _)
    | cons other others =>
      cases elements with
      | nil => cases valid.length
      | cons first rest =>
        obtain ⟨-, inside, later⟩ := (validDraws_cons_iff _ _ _).mp valid
        obtain ⟨-, otherInside, otherLater⟩ := (validDraws_cons_iff _ _ _).mp otherValid
        obtain ⟨head, tail⟩ := List.cons.inj same
        have equal := swapFirst_injective distinct inside otherInside head
        subst equal
        have left : (swapFirst first rest draw).2.Nodup :=
          (List.nodup_cons.mp ((swapFirst_perm first rest inside).nodup_iff.mpr distinct)).2
        have length := swapFirst_length first rest draw
        rw [ih left (length ▸ later) (length ▸ otherLater) tail]

/-- Every permutation is drawn. -/
theorem exists_drawInTurn {elements permuted : List α} (same : permuted.Perm elements) :
    ∃ draws, ValidDraws elements.length draws ∧ drawInTurn elements draws = permuted := by
  induction permuted generalizing elements with
  | nil =>
    rw [List.nil_perm.mp same]
    exact ⟨[], (validDraws_nil_iff 0).mpr (Nat.zero_le 1), rfl⟩
  | cons wanted permuted ih =>
    cases elements with
    | nil => exact absurd same.length_eq (Nat.succ_ne_zero _)
    | cons first others =>
      obtain ⟨draw, drawn⟩ := List.mem_iff_getElem?.mp (same.subset List.mem_cons_self)
      have inside : draw ≤ others.length :=
        Nat.lt_succ_iff.mp (List.getElem?_eq_some_iff.mp drawn).1
      have head : (swapFirst first others draw).1 = wanted :=
        Option.some.inj ((swapFirst_fst first others inside).symm.trans drawn)
      have rest : permuted.Perm (swapFirst first others draw).2 := by
        have moved := same.trans (swapFirst_perm first others inside).symm
        rw [head] at moved
        exact (List.perm_cons wanted).mp moved
      by_cases alone : others.length = 0
      · have length := same.length_eq
        have none_left : others = [] := List.length_eq_zero_iff.mp alone
        subst none_left
        refine ⟨[], (validDraws_nil_iff 1).mpr (Nat.le_refl 1), ?_⟩
        rw [drawInTurn_nil, List.perm_singleton.mp same]
      · obtain ⟨draws, valid, result⟩ := ih rest
        rw [swapFirst_length] at valid
        refine ⟨draw :: draws, (validDraws_cons_iff _ _ _).mpr
          ⟨Nat.pos_of_ne_zero alone, inside, valid⟩, ?_⟩
        rw [drawInTurn, head, result]

theorem existsUnique_drawInTurn {elements permuted : List α} (distinct : elements.Nodup)
    (same : permuted.Perm elements) :
    ∃! draws, ValidDraws elements.length draws ∧ drawInTurn elements draws = permuted := by
  obtain ⟨draws, valid, result⟩ := exists_drawInTurn same
  exact ⟨draws, ⟨valid, result⟩, fun others ⟨otherValid, otherResult⟩ =>
    drawInTurn_injective distinct otherValid valid (otherResult.trans result.symm)⟩

/-! ## Uniform draws -/

/-- The draws for `count` elements, each one uniform among the elements that are left and
independent of the others. -/
noncomputable def uniformDraws : Nat → PMF (List Nat)
  | 0 => PMF.pure []
  | 1 => PMF.pure []
  | count + 2 => (PMF.uniformOfFintype (Fin (count + 2))).bind fun draw =>
      (uniformDraws (count + 1)).map (draw.val :: ·)

/-- The probability of a value is that of the only outcome that has it. -/
theorem map_apply_of_only {β : Type w} {p : PMF α} {f : α → β} {outcome : α} {value : β}
    (has : f outcome = value) (only : ∀ other, p other ≠ 0 → f other = value → other = outcome) :
    p.map f value = p outcome := by
  rw [PMF.map_apply, tsum_eq_single outcome]
  · rw [if_pos has.symm]
  · intro other differs
    split
    · rename_i same
      by_contra possible
      exact differs (only other possible same.symm)
    · rfl

theorem uniformDraws_cons (count draw : Nat) (draws : List Nat) (inside : draw < count + 2) :
    uniformDraws (count + 2) (draw :: draws) =
      ((count + 2 : Nat) : ENNReal)⁻¹ * uniformDraws (count + 1) draws := by
  rw [uniformDraws, PMF.bind_apply, tsum_eq_single ⟨draw, inside⟩]
  · have rest : (uniformDraws (count + 1)).map (draw :: ·) (draw :: draws) =
        uniformDraws (count + 1) draws :=
      map_apply_of_only rfl fun _ _ same => (List.cons.inj same).2
    rw [PMF.uniformOfFintype_apply, Fintype.card_fin, rest]
  · intro other differs
    have never : draw :: draws ∉ ((uniformDraws (count + 1)).map (other.val :: ·)).support := by
      rw [PMF.mem_support_map_iff]
      intro ⟨later, _, same⟩
      exact differs (Fin.ext (List.cons.inj same).1)
    rw [(PMF.apply_eq_zero_iff _ _).mpr never, mul_zero]

/-- Only valid draws are taken. -/
theorem validDraws_of_uniformDraws {count : Nat} {draws : List Nat}
    (possible : draws ∈ (uniformDraws count).support) : ValidDraws count draws := by
  fun_induction uniformDraws count generalizing draws with
  | case1 =>
    rw [PMF.mem_support_pure_iff] at possible
    exact possible ▸ (validDraws_nil_iff 0).mpr (Nat.zero_le 1)
  | case2 =>
    rw [PMF.mem_support_pure_iff] at possible
    exact possible ▸ (validDraws_nil_iff 1).mpr (Nat.le_refl 1)
  | case3 count ih =>
    obtain ⟨draw, -, rest⟩ := (PMF.mem_support_bind_iff _ _ _).mp possible
    obtain ⟨later, taken, rfl⟩ := (PMF.mem_support_map_iff _ _ _).mp rest
    exact (validDraws_cons_iff _ _ _).mpr ⟨Nat.succ_pos _, Nat.le_of_lt_succ draw.isLt, ih taken⟩

/-- All valid draws for the same elements have the same probability. -/
theorem uniformDraws_apply {count : Nat} {draws : List Nat} (valid : ValidDraws count draws) :
    uniformDraws count draws = ((Nat.factorial count : Nat) : ENNReal)⁻¹ := by
  fun_induction uniformDraws count generalizing draws with
  | case1 =>
    rw [List.length_eq_zero_iff.mp valid.length]
    simp
  | case2 =>
    rw [List.length_eq_zero_iff.mp valid.length]
    simp
  | case3 count ih =>
    cases draws with
    | nil => cases valid.length
    | cons draw draws =>
      obtain ⟨-, inside, later⟩ := (validDraws_cons_iff _ _ _).mp valid
      have first := uniformDraws_cons count draw draws (Nat.lt_succ_of_le inside)
      rw [uniformDraws] at first
      rw [first, ih later, Nat.factorial_succ (count + 1), Nat.cast_mul, ENNReal.mul_inv]
      · exact .inl (Nat.cast_ne_zero.mpr (Nat.succ_ne_zero _))
      · exact .inl (ENNReal.natCast_ne_top _)

end FinanciaApp.Library
