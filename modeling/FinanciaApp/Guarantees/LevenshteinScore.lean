import Mathlib.Algebra.Order.Field.Basic
import Mathlib.Algebra.Order.Ring.Rat
import Mathlib.Tactic.FieldSimp
import Mathlib.Tactic.Linarith
import FinanciaApp.Guarantees.LevenshteinDistance

/-!
# The score of two strings

The distance is at most the length of the longer string, symmetric, and 0 for equal strings
only; so the score is what its users take it for, as long as there is a length to divide
by. Two strings that are both empty after the normalisation have none.
-/

set_option autoImplicit false

namespace FinanciaApp.Guarantees

open Library Source

universe u

variable {Character : Type u} [DecidableEq Character]

/-- One minus the distance in relation to the longer string. -/
def similarity (firstString secondString : List Character) : Rat :=
  1 - (editDistance firstString secondString : Rat) /
    (max firstString.length secondString.length : Nat)

section Similarity

variable {firstString secondString : List Character}

theorem similarity_comm (firstString secondString : List Character) :
    similarity firstString secondString = similarity secondString firstString := by
  rw [similarity, similarity, editDistance_comm, max_comm]

theorem similarity_le_one : similarity firstString secondString ≤ 1 := by
  have nonneg : (0 : Rat) ≤ (editDistance firstString secondString : Rat) /
      (max firstString.length secondString.length : Nat) := by
    positivity
  unfold similarity
  linarith

theorem similarity_nonneg : 0 ≤ similarity firstString secondString := by
  have distance : (editDistance firstString secondString : Rat) /
      (max firstString.length secondString.length : Nat) ≤ 1 := by
    apply div_le_one_of_le₀
    · exact_mod_cast editDistance_le_max firstString secondString
    · positivity
  unfold similarity
  linarith

theorem similarity_eq_one_iff (nonempty : max firstString.length secondString.length ≠ 0) :
    similarity firstString secondString = 1 ↔ firstString = secondString := by
  have length : ((max firstString.length secondString.length : Nat) : Rat) ≠ 0 := by
    exact_mod_cast nonempty
  rw [similarity, sub_eq_self, div_eq_zero_iff, or_iff_left length, Nat.cast_eq_zero,
    editDistance_eq_zero_iff]

end Similarity

section Score

variable (lowercased trimmingCharacters : List Character → List Character)
  (string other : List Character) (ignoreCase trimWhiteSpacesAndNewLines : Bool)

/-- The loops never trap, and the score is the similarity of the normalised strings. -/
theorem levenshteinDistanceScore_eq :
    levenshteinDistanceScore lowercased trimmingCharacters string other ignoreCase
        trimWhiteSpacesAndNewLines =
      let firstString :=
        normalised lowercased trimmingCharacters ignoreCase trimWhiteSpacesAndNewLines string
      let secondString :=
        normalised lowercased trimmingCharacters ignoreCase trimWhiteSpacesAndNewLines other
      some (if max firstString.length secondString.length = 0 then .divisionByZero
        else .number (similarity firstString secondString)) := by
  simp only [levenshteinDistanceScore, levenshteinLast_spec, Option.map_some,
    getLast?_prefixDistances, similarity]

/-- The score is a number in the unit interval, the same from both sides, and 1 for strings
that are equal after the normalisation and no others. -/
def IsSimilarity : Prop :=
  ∃ value, levenshteinDistanceScore lowercased trimmingCharacters string other ignoreCase
      trimWhiteSpacesAndNewLines = some (.number value) ∧
    0 ≤ value ∧ value ≤ 1 ∧
    levenshteinDistanceScore lowercased trimmingCharacters other string ignoreCase
      trimWhiteSpacesAndNewLines = some (.number value) ∧
    (value = 1 ↔
      normalised lowercased trimmingCharacters ignoreCase trimWhiteSpacesAndNewLines string =
        normalised lowercased trimmingCharacters ignoreCase trimWhiteSpacesAndNewLines other)

/-- For all strings and flags, whatever lowercasing and trimming make of them: the score is
a similarity unless both strings are empty after the normalisation. -/
theorem score_is_similarity_iff :
    IsSimilarity lowercased trimmingCharacters string other ignoreCase
        trimWhiteSpacesAndNewLines ↔
      ¬ (normalised lowercased trimmingCharacters ignoreCase trimWhiteSpacesAndNewLines
            string = [] ∧
          normalised lowercased trimmingCharacters ignoreCase trimWhiteSpacesAndNewLines
            other = []) := by
  unfold IsSimilarity
  simp only [levenshteinDistanceScore_eq]
  generalize normalised lowercased trimmingCharacters ignoreCase trimWhiteSpacesAndNewLines
    string = firstString
  generalize normalised lowercased trimmingCharacters ignoreCase trimWhiteSpacesAndNewLines
    other = secondString
  have empty : max firstString.length secondString.length = 0 ↔
      firstString = [] ∧ secondString = [] := by
    rw [Nat.max_eq_zero_iff, List.length_eq_zero_iff, List.length_eq_zero_iff]
  rw [← empty]
  constructor
  · rintro ⟨value, score, -⟩ none
    rw [if_pos none] at score
    cases score
  · intro nonempty
    refine ⟨similarity firstString secondString, by rw [if_neg nonempty], similarity_nonneg,
      similarity_le_one, ?_, similarity_eq_one_iff nonempty⟩
    rw [max_comm] at nonempty
    rw [if_neg nonempty, similarity_comm]

end Score

/-- Two strings of blanks: the score divides zero by zero. -/
theorem blank_strings_have_no_score :
    ¬ ∀ string other : List Char,
      IsSimilarity (List.map Char.toLower) (trimmed isWhitespaceOrNewline) string other
        false true := by
  intro claim
  obtain ⟨value, score, -⟩ := claim [' '] ['\n']
  have undefined : levenshteinDistanceScore (List.map Char.toLower)
      (trimmed isWhitespaceOrNewline) [' '] ['\n'] false true = some .divisionByZero := by
    decide
  rw [undefined] at score
  cases score

end FinanciaApp.Guarantees
