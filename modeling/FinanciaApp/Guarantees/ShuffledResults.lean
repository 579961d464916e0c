import FinanciaApp.Library.DrawnInTurn
import FinanciaApp.Source.ATCGenericSearchViewController

/-!
# The shuffle of the search results

The loop draws the elements in turn, each into its final place. The call of `arc4random_uniform`
takes the count as a `UInt32`, and `numericCast` checks that it is one; it is for every array of
objects that fits into memory. Up to that check the draws and the permutations correspond to each
other, so uniform draws shuffle without a bias.
-/

set_option autoImplicit false

namespace FinanciaApp.Guarantees

open Library Source Source.ATCGenericSearchViewController

universe u

/-! ## The rounds of the loop -/

/-- The rounds for `count` unshuffled elements from an index on. -/
def shuffleRounds (start count : Nat) : List (Nat × Nat) :=
  (List.range (count - 1)).map fun round => (start + round, count - round)

theorem zip_countdown (count : Nat) :
    (List.range count).zip (countdown count) = shuffleRounds 0 count := by
  cases count with
  | zero => rfl
  | succ count =>
    have all : (List.range count).zip ((List.range count).map fun round => count + 1 - round) =
        (List.range count).map fun round => (0 + round, count + 1 - round) := by
      simp only [Nat.zero_add]
      exact List.map_prod_left_eq_zip.symm
    rw [countdown, shuffleRounds, Nat.add_sub_cancel, ← all, List.range_succ]
    have cut : (List.range count ++ [count]).zip
          (((List.range count).map fun round => count + 1 - round) ++ []) =
        (List.range count).zip ((List.range count).map fun round => count + 1 - round) ++
          [count].zip [] := List.zip_append (List.length_map _).symm
    rwa [List.append_nil, List.zip_nil_right, List.append_nil] at cut

theorem shuffleRounds_succ (start : Nat) {count : Nat} (several : 0 < count) :
    shuffleRounds start (count + 1) = (start, count + 1) :: shuffleRounds (start + 1) count := by
  obtain ⟨count, rfl⟩ := Nat.exists_eq_succ_of_ne_zero (Nat.ne_of_gt several)
  rw [shuffleRounds, Nat.add_sub_cancel, List.range_succ_eq_map, List.map_cons, List.map_map]
  congr 1
  apply List.map_congr_left
  intro round _
  exact Prod.ext (by simp only [Function.comp]; omega) (by simp only [Function.comp]; omega)

section Elements

variable {α : Type u}

theorem swapAt_append (before : List α) (first : α) (others : List α) {draw : Nat}
    (inside : draw ≤ others.length) :
    swapAt (before ++ first :: others) before.length (before.length + draw) =
      some (before ++ (swapFirst first others draw).1 :: (swapFirst first others draw).2) := by
  have drawn : (before ++ first :: others)[before.length + draw]? =
      some (swapFirst first others draw).1 := by
    rw [List.getElem?_append_right (Nat.le_add_right _ _), Nat.add_sub_cancel_left]
    exact swapFirst_fst first others inside
  have head : (before ++ first :: others)[before.length]? = some first := by
    rw [List.getElem?_append_right (Nat.le_refl _), Nat.sub_self, List.getElem?_cons_zero]
  unfold swapAt
  rw [head, drawn]
  refine congrArg some ?_
  cases draw with
  | zero => simp [swapFirst]
  | succ draw => simp [swapFirst]

/-- The round for the first unshuffled element. -/
theorem shuffleRound_append (before : List α) (first : α) (others : List α) {draw : Nat}
    (draws : List Nat) (inside : draw ≤ others.length) (small : others.length + 1 < 2 ^ 32) :
    shuffleRound (before ++ first :: others, draw :: draws) (before.length, others.length + 1) =
      some (before ++ (swapFirst first others draw).1 :: (swapFirst first others draw).2,
        draws) := by
  unfold shuffleRound
  simp only [numericCast, if_pos small, arc4random_uniform, if_pos (Nat.lt_succ_of_le inside),
    Option.bind_some, swapAt_append before first others inside]
  rfl

/-- What is before the rounds stays, and the rest is drawn in turn. -/
theorem foldlM_shuffleRound (before rest : List α) (draws : List Nat)
    (small : rest.length < 2 ^ 32) (valid : ValidDraws rest.length draws) :
    (shuffleRounds before.length rest.length).foldlM shuffleRound (before ++ rest, draws) =
      some (before ++ drawInTurn rest draws, []) := by
  induction draws generalizing before rest with
  | nil =>
    have few := (validDraws_nil_iff _).mp valid
    have no_round : shuffleRounds before.length rest.length = [] := by
      rw [shuffleRounds, Nat.sub_eq_zero_of_le few]
      rfl
    rw [no_round, drawInTurn_nil]
    rfl
  | cons draw draws ih =>
    cases rest with
    | nil => cases valid.length
    | cons first others =>
      obtain ⟨several, inside, later⟩ := (validDraws_cons_iff _ _ _).mp valid
      have length := swapFirst_length first others draw
      have rounds := ih (before ++ [(swapFirst first others draw).1])
        (swapFirst first others draw).2
        (length ▸ Nat.lt_of_succ_lt small) (length ▸ later)
      rw [List.length_append, List.length_singleton, length, List.append_assoc,
        List.append_assoc] at rounds
      rw [List.length_cons, shuffleRounds_succ _ several, List.foldlM_cons,
        shuffleRound_append before first others draws inside small]
      exact rounds

theorem shuffle_eq (elements : List α) {draws : List Nat} (small : elements.length < 2 ^ 32)
    (valid : ValidDraws elements.length draws) :
    shuffle elements draws = some (drawInTurn elements draws) := by
  dsimp only [shuffle]
  split
  · have rounds := foldlM_shuffleRound [] elements draws small valid
    rw [List.length_nil, List.nil_append, ← zip_countdown] at rounds
    rw [rounds]
    rfl
  · rename_i few
    have no_draw : draws = [] := List.length_eq_zero_iff.mp (by
      have := valid.length
      omega)
    rw [no_draw, drawInTurn_nil]

theorem shuffle_eq_none (elements : List α) (draws : List Nat)
    (large : 2 ^ 32 ≤ elements.length) : shuffle elements draws = none := by
  obtain ⟨count, length⟩ : ∃ count, elements.length = count + 1 :=
    ⟨elements.length - 1, by omega⟩
  have several : 0 < count := by omega
  have trapped : shuffleRound (elements, draws) (0, count + 1) = none := by
    simp only [shuffleRound, numericCast, if_neg (Nat.not_lt.mpr (length ▸ large)),
      Option.bind_none]
  dsimp only [shuffle]
  rw [if_pos (by omega), zip_countdown, length, shuffleRounds_succ 0 several, List.foldlM_cons,
    trapped]
  rfl

/-- With a number for every call, the shuffle comes to its end if and only if `numericCast` lets
the count through. -/
theorem shuffle_isSome_iff (elements : List α) {draws : List Nat}
    (valid : ValidDraws elements.length draws) :
    (shuffle elements draws).isSome = true ↔ elements.length < 2 ^ 32 := by
  constructor
  · intro shuffled
    by_contra large
    rw [shuffle_eq_none elements draws (Nat.le_of_not_lt large)] at shuffled
    cases shuffled
  · intro small
    rw [shuffle_eq elements small valid]
    rfl

/-- Of distinct elements, every permutation has one sequence of draws. -/
theorem existsUnique_shuffle {elements permuted : List α} (distinct : elements.Nodup)
    (small : elements.length < 2 ^ 32) (same : permuted.Perm elements) :
    ∃! draws, ValidDraws elements.length draws ∧ shuffle elements draws = some permuted := by
  obtain ⟨draws, ⟨valid, result⟩, only⟩ := existsUnique_drawInTurn distinct same
  refine ⟨draws, ⟨valid, ?_⟩, ?_⟩
  · rw [shuffle_eq elements small valid, result]
  · intro others ⟨otherValid, otherResult⟩
    rw [shuffle_eq elements small otherValid] at otherResult
    exact only others ⟨otherValid, Option.some.inj otherResult⟩

/-- With uniform draws, the shuffle of distinct elements gives every permutation with the same
probability. -/
theorem shuffle_uniform {elements permuted : List α} (distinct : elements.Nodup)
    (small : elements.length < 2 ^ 32) (same : permuted.Perm elements) :
    (uniformDraws elements.length).map (shuffle elements) (some permuted) =
      ((Nat.factorial elements.length : Nat) : ENNReal)⁻¹ := by
  obtain ⟨draws, ⟨valid, result⟩, only⟩ := existsUnique_shuffle distinct small same
  rw [← uniformDraws_apply valid]
  refine map_apply_of_only result fun other possible otherResult => ?_
  exact only other ⟨validDraws_of_uniformDraws possible, otherResult⟩

theorem shuffle_perm (elements : List α) {draws : List Nat} (small : elements.length < 2 ^ 32)
    (valid : ValidDraws elements.length draws) :
    ∃ permuted, shuffle elements draws = some permuted ∧ permuted.Perm elements :=
  ⟨_, shuffle_eq elements small valid, drawInTurn_perm elements draws valid⟩

/-- A search finds all items, whatever the text. -/
theorem search_perm (items : List α) (text : Option String) {draws : List Nat}
    (small : items.length < 2 ^ 32) (valid : ValidDraws items.length draws) :
    ∃ results, search items text draws = some results ∧ results.Perm items :=
  shuffle_perm items small valid

end Elements

/-- The draws and the permutations correspond to each other, so uniform draws give every
permutation with the same probability. -/
theorem shuffle_bijective {α : Type u} {elements : List α} (distinct : elements.Nodup)
    (small : elements.length < 2 ^ 32) :
    (∀ draws, ValidDraws elements.length draws →
      ∃ permuted, shuffle elements draws = some permuted ∧ permuted.Perm elements) ∧
    (∀ draws others, ValidDraws elements.length draws → ValidDraws elements.length others →
      shuffle elements draws = shuffle elements others → draws = others) ∧
    (∀ permuted, permuted.Perm elements →
      ∃! draws, ValidDraws elements.length draws ∧ shuffle elements draws = some permuted) ∧
    (∀ permuted, permuted.Perm elements →
      (uniformDraws elements.length).map (shuffle elements) (some permuted) =
        ((Nat.factorial elements.length : Nat) : ENNReal)⁻¹) := by
  refine ⟨?_, ?_, ?_, ?_⟩
  · intro draws valid
    exact shuffle_perm elements small valid
  · intro draws others valid otherValid same
    rw [shuffle_eq elements small valid, shuffle_eq elements small otherValid] at same
    exact drawInTurn_injective distinct valid otherValid (Option.some.inj same)
  · intro permuted same
    exact existsUnique_shuffle distinct small same
  · intro permuted same
    exact shuffle_uniform distinct small same

theorem shuffle_bijective_pair :
    [1, 2].Nodup ∧ [1, 2].length < 2 ^ 32 ∧
      ∃! draws, ValidDraws [1, 2].length draws ∧ shuffle [1, 2] draws = some [2, 1] :=
  ⟨by decide, by decide,
    (shuffle_bijective (by decide) (by decide)).2.2.1 [2, 1] (by decide)⟩

end FinanciaApp.Guarantees
