import FinanciaApp.Source.StringExtensions

/-!
# The edit distance behind tag matching

The outer loop replaces a row by the next one, the inner loop fills the next row from left
to right. After `i` rounds the row holds the distances of the first `i` Characters of the
one string to every prefix of the other. On equal Characters the loop copies the diagonal
and takes no minimum, which is the distance because equal last elements cost nothing.
-/

set_option autoImplicit false

namespace FinanciaApp.Guarantees

open Library Source

universe u

variable {Character : Type u} [DecidableEq Character]

/-- The distances of `xs` to every prefix of `ys`, the shortest first. -/
def prefixDistances (xs ys : List Character) : List Nat :=
  (List.range (ys.length + 1)).map fun j => editDistance xs (ys.take j)

@[simp] theorem length_prefixDistances (xs ys : List Character) :
    (prefixDistances xs ys).length = ys.length + 1 := by
  simp [prefixDistances]

@[simp] theorem prefixDistances_nil_right (xs : List Character) :
    prefixDistances xs [] = [xs.length] := by
  simp [prefixDistances]

/-- The row that the loops start from. -/
theorem prefixDistances_nil_left (ys : List Character) :
    prefixDistances [] ys = List.range (ys.length + 1) := by
  refine List.ext_getElem (by simp) ?_
  intro j bound _
  rw [length_prefixDistances] at bound
  simp only [prefixDistances, editDistance_nil_left, List.getElem_map, List.getElem_range,
    List.length_take]
  omega

theorem prefixDistances_concat (xs ys : List Character) (y : Character) :
    prefixDistances xs (ys ++ [y]) = prefixDistances xs ys ++ [editDistance xs (ys ++ [y])] := by
  unfold prefixDistances
  rw [List.length_append, List.length_singleton, List.range_succ, List.map_append,
    List.map_singleton, List.take_of_length_le (by simp)]
  congr 1
  apply List.map_congr_left
  intro j bound
  rw [List.take_append_of_le_length (by simpa using Nat.lt_succ_iff.mp (List.mem_range.mp bound))]

theorem getElem?_prefixDistances (xs before after : List Character) :
    (prefixDistances xs (before ++ after))[before.length]? = some (editDistance xs before) := by
  have bound : before.length < (before ++ after).length + 1 := by
    rw [List.length_append]
    omega
  rw [prefixDistances, List.getElem?_map, List.getElem?_range bound, Option.map_some,
    List.take_left]

/-- One cell: the row is right up to `before`, and then up to `before ++ [sLett]`. -/
theorem levenshteinCell_spec (xs before after : List Character) (tLett sLett : Character) :
    levenshteinCell tLett (prefixDistances xs (before ++ sLett :: after))
        (prefixDistances (xs ++ [tLett]) before ++ List.replicate (after.length + 1) 0)
        (sLett, before.length) =
      some (prefixDistances (xs ++ [tLett]) (before ++ [sLett]) ++
        List.replicate after.length 0) := by
  have diagonal : (prefixDistances xs (before ++ sLett :: after))[before.length]? =
      some (editDistance xs before) := getElem?_prefixDistances xs before (sLett :: after)
  have above : (prefixDistances xs (before ++ sLett :: after))[before.length + 1]? =
      some (editDistance xs (before ++ [sLett])) := by
    have next := getElem?_prefixDistances xs (before ++ [sLett]) after
    simpa using next
  have left : (prefixDistances (xs ++ [tLett]) before ++
      List.replicate (after.length + 1) 0)[before.length]? =
      some (editDistance (xs ++ [tLett]) before) := by
    have here := getElem?_prefixDistances (xs ++ [tLett]) before []
    rw [List.append_nil] at here
    rw [List.getElem?_append_left (by simp), here]
  have stored : ∀ value : Nat,
      (prefixDistances (xs ++ [tLett]) before ++ List.replicate (after.length + 1) 0).set
          (before.length + 1) value =
        prefixDistances (xs ++ [tLett]) before ++ [value] ++ List.replicate after.length 0 := by
    intro value
    rw [List.set_append_right _ _ (by simp), length_prefixDistances, Nat.sub_self,
      List.replicate_succ, List.set_cons_zero, List.append_assoc, List.singleton_append]
  have bound : before.length + 1 < (prefixDistances (xs ++ [tLett]) before ++
      List.replicate (after.length + 1) 0).length := by
    simp
  rw [prefixDistances_concat]
  by_cases same : tLett = sLett
  · subst same
    simp only [levenshteinCell, if_pos, diagonal, Option.bind_eq_bind, Option.bind_some, bound,
      stored, editDistance_concat_self]
  · have minimum : min (min (editDistance xs before) (editDistance xs (before ++ [sLett])))
        (editDistance (xs ++ [tLett]) before) + 1 =
        editDistance (xs ++ [tLett]) (before ++ [sLett]) := by
      rw [editDistance_concat, if_neg same]
      omega
    simp only [levenshteinCell, if_neg same, diagonal, above, left, Option.bind_eq_bind,
      Option.bind_some, if_pos bound, stored, minimum]

/-- The inner loop, after it has seen `before`. -/
theorem levenshteinRow_loop (xs before after : List Character) (tLett : Character) :
    before.zipIdx.foldlM (levenshteinCell tLett (prefixDistances xs (before ++ after)))
        ((xs.length + 1) :: List.replicate (before ++ after).length 0) =
      some (prefixDistances (xs ++ [tLett]) before ++ List.replicate after.length 0) := by
  induction before using List.reverseRecOn generalizing after with
  | nil => simp
  | append_singleton before sLett ih =>
    rw [List.zipIdx_append, List.foldlM_append, List.append_assoc, List.singleton_append,
      ih (sLett :: after)]
    simp [levenshteinCell_spec]

/-- One round of the outer loop: the distances of one more Character. -/
theorem levenshteinRow_spec (xs secondString : List Character) (tLett : Character) :
    levenshteinRow secondString (prefixDistances xs secondString) (tLett, xs.length) =
      some (prefixDistances (xs ++ [tLett]) secondString) := by
  have loop := levenshteinRow_loop xs secondString [] tLett
  simpa [levenshteinRow] using loop

theorem levenshteinLast_spec (firstString secondString : List Character) :
    levenshteinLast firstString secondString =
      some (prefixDistances firstString secondString) := by
  unfold levenshteinLast
  induction firstString using List.reverseRecOn with
  | nil => simp [prefixDistances_nil_left]
  | append_singleton firstString tLett ih =>
    rw [List.zipIdx_append, List.foldlM_append, ih]
    simp [levenshteinRow_spec]

theorem getLast?_prefixDistances (xs ys : List Character) :
    (prefixDistances xs ys).getLast? = some (editDistance xs ys) := by
  have last := getElem?_prefixDistances xs ys []
  rw [List.append_nil] at last
  rw [List.getLast?_eq_getElem?, length_prefixDistances, Nat.add_sub_cancel, last]

/-- The loops of `levenshteinDistanceScore` never leave their arrays, and the last cell of
the last row is the edit distance. -/
theorem last_cell_is_edit_distance (firstString secondString : List Character) :
    (levenshteinLast firstString secondString).map List.getLast? =
      some (some (editDistance firstString secondString)) := by
  rw [levenshteinLast_spec, Option.map_some, getLast?_prefixDistances]

example : levenshteinLast "kitten".toList "sitting".toList = some [6, 6, 5, 4, 3, 3, 2, 3] := by
  decide

end FinanciaApp.Guarantees
