import FinanciaApp.Library.UnitOffsets
import FinanciaApp.Guarantees.TaggedText

/-!
# The colors of the Characters of a message

The attributes belong to UTF-16 code units, and the loop asks for them at the index of a
Character. So behind a Character of several units, as an emoji or a line break of two, it tests
the color of a unit before the Character.
-/

set_option autoImplicit false

namespace FinanciaApp.Guarantees

open Library Source Source.NSAttributedString

/-- An attributed string with the number of UTF-16 code units of each Character. -/
structure UTF16AttributedString (Character : Type) extends NSAttributedString Character where
  utf16Counts : List Nat
  length_utf16Counts : utf16Counts.length = string.length
  utf16Counts_pos : ∀ count ∈ utf16Counts, 0 < count
  sum_utf16Counts : utf16Counts.sum = isBlue.length

variable {Character : Type}

/-- The same text in other colors. -/
def UTF16AttributedString.recolored (text : UTF16AttributedString Character) (isBlue : List Bool)
    (units : text.utf16Counts.sum = isBlue.length) : UTF16AttributedString Character where
  string := text.string
  isBlue := isBlue
  hasUnits := by
    rw [← units, ← text.length_utf16Counts]
    exact List.length_le_sum_of_one_le _ text.utf16Counts_pos
  utf16Counts := text.utf16Counts
  length_utf16Counts := text.length_utf16Counts
  utf16Counts_pos := text.utf16Counts_pos
  sum_utf16Counts := units

/-- The color that the loop tests for the Character at an index. -/
def testedColor (attributed : NSAttributedString Character) (index : Nat) : Option Bool :=
  attributed.isBlue[index]?

/-- The color at the UTF-16 offset of the Character at an index. -/
def ownColor (text : UTF16AttributedString Character) (index : Nat) : Option Bool :=
  text.isBlue[unitOffset text.utf16Counts index]?

/-- The Characters of a message with their own colors. -/
def ownColored (text : UTF16AttributedString Character) : List (Character × Bool) :=
  text.string.zipIdx.map fun (str, index) => (str, (ownColor text index).getD false)

/-- Every Character is tested for its own color, the blue ones are collected into runs, and the
text is written from these. -/
structure TestsOwnColors [DecidableEq Character] (text : UTF16AttributedString Character) :
    Prop where
  tested : ∀ index < text.string.length, testedColor text.toNSAttributedString index =
    ownColor text index
  collected : runs text.toNSAttributedString = runsFrom none [] (ownColored text)
  written : ∀ alphabet allTagUsers,
    fetchAttributedText alphabet text.toNSAttributedString allTagUsers =
      fetchFrom alphabet allTagUsers [] [] (ownColored text)

/-- A Character behind one of several units is blue exactly if the unit at its index is. -/
def SameColorBehindWide (text : UTF16AttributedString Character) : Prop :=
  ∀ index < text.string.length, (∃ count ∈ text.utf16Counts.take index, 1 < count) →
    text.isBlue[index]? = text.isBlue[unitOffset text.utf16Counts index]?

/-- Every Character that is not the last has one unit. -/
def OnlyLastWide (text : UTF16AttributedString Character) : Prop :=
  ∀ count ∈ text.utf16Counts.dropLast, count = 1

section Colors

variable (text : UTF16AttributedString Character)

theorem tested_iff :
    (∀ index < text.string.length,
        testedColor text.toNSAttributedString index = ownColor text index) ↔
      SameColorBehindWide text := by
  constructor
  · intro tested index inside _
    exact tested index inside
  · intro same index inside
    by_cases wide : ∃ count ∈ text.utf16Counts.take index, 1 < count
    · exact same index inside wide
    · have narrow : ∀ count ∈ text.utf16Counts.take index, count = 1 := by
        intro count member
        have positive := text.utf16Counts_pos count (List.mem_of_mem_take member)
        have small : ¬1 < count := fun several => wide ⟨count, member, several⟩
        omega
      have offset := (unitOffset_eq_iff text.utf16Counts_pos
        (text.length_utf16Counts ▸ inside.le)).mpr narrow
      rw [testedColor, ownColor, offset]

/-- The loop goes over the Characters with their own colors. -/
theorem colored_eq (tested : ∀ index < text.string.length,
    testedColor text.toNSAttributedString index = ownColor text index) :
    colored text.toNSAttributedString = ownColored text := by
  apply List.ext_getElem?
  intro index
  rw [colored, ownColored, List.getElem?_map, List.getElem?_zipIdx]
  by_cases inside : index < text.string.length
  · obtain ⟨str, character⟩ : ∃ str, text.string[index]? = some str :=
      ⟨_, List.getElem?_eq_getElem inside⟩
    obtain ⟨isBlue, unit⟩ : ∃ isBlue, text.isBlue[index]? = some isBlue :=
      ⟨_, List.getElem?_eq_getElem (inside.trans_le text.hasUnits)⟩
    have pair : (text.string.zip text.isBlue)[index]? = some (str, isBlue) :=
      List.getElem?_zip_eq_some.mpr ⟨character, unit⟩
    have color := tested index inside
    rw [testedColor, unit] at color
    rw [pair, character, Option.map_some, Option.map_some, Nat.zero_add]
    dsimp only
    rw [← color, Option.getD_some]
  · have outside := Nat.not_lt.mp inside
    rw [List.getElem?_eq_none outside, List.getElem?_eq_none]
    · rfl
    · rw [List.length_zip]
      exact (Nat.min_le_left _ _).trans outside

theorem onlyLastWide_iff :
    OnlyLastWide text ↔
      unitOffset text.utf16Counts (text.utf16Counts.length - 1) = text.utf16Counts.length - 1 := by
  rw [unitOffset_eq_iff text.utf16Counts_pos (Nat.sub_le _ _), OnlyLastWide, List.dropLast_eq_take]

theorem sameColorBehindWide_of_onlyLastWide (narrow : OnlyLastWide text) :
    SameColorBehindWide text := by
  intro index inside ⟨count, member, several⟩
  have before : text.utf16Counts.take index ⊆ text.utf16Counts.dropLast := by
    rw [List.dropLast_eq_take]
    apply List.take_subset_take_left
    rw [text.length_utf16Counts]
    omega
  exact absurd (narrow count (before member)) (Nat.ne_of_gt several)

/-- Only the first unit of the Character at an index is blue. -/
def oneBlue (index : Nat) : List Bool :=
  (List.range text.utf16Counts.sum).map fun unit => unit == unitOffset text.utf16Counts index

theorem sum_eq_length_oneBlue (index : Nat) :
    text.utf16Counts.sum = (oneBlue text index).length := by
  rw [oneBlue, List.length_map, List.length_range]

variable [DecidableEq Character]

theorem testsOwnColors_iff_same : TestsOwnColors text ↔ SameColorBehindWide text := by
  rw [← tested_iff]
  constructor
  · exact TestsOwnColors.tested
  · intro tested
    have same := colored_eq text tested
    refine ⟨tested, by rw [runs, same], fun alphabet allTagUsers => ?_⟩
    rw [fetchAttributedText_eq, same]

/-- The last Character alone tells the texts apart. -/
theorem onlyLastWide_of_testsOwnColors (right : ∀ isBlue units,
    TestsOwnColors (text.recolored isBlue units)) : OnlyLastWide text := by
  rw [onlyLastWide_iff]
  by_cases empty : text.utf16Counts.length = 0
  · rw [empty]
    rfl
  · have inside : text.utf16Counts.length - 1 < text.utf16Counts.length := by omega
    generalize text.utf16Counts.length - 1 = last at inside
    have tested := (right (oneBlue text last) (sum_eq_length_oneBlue text last)).tested last
      (text.length_utf16Counts ▸ inside)
    have own : ownColor (text.recolored (oneBlue text last) (sum_eq_length_oneBlue text last))
        last = some true := by
      change (oneBlue text last)[unitOffset text.utf16Counts last]? = some true
      rw [oneBlue, List.getElem?_map,
        List.getElem?_range (unitOffset_lt_sum text.utf16Counts_pos inside), Option.map_some,
        beq_self_eq_true]
    rw [own] at tested
    obtain ⟨unit, found, blue⟩ := Option.map_eq_some_iff.mp
      ((List.getElem?_map ..).symm.trans tested)
    obtain ⟨bound, rfl⟩ := List.getElem?_eq_some_iff.mp found
    rw [List.getElem_range, beq_iff_eq] at blue
    exact blue.symm

end Colors

/-- The colors are right exactly where no unit in another color is tested instead, and whatever
the colors exactly for the texts in which only the last Character has several units. -/
theorem testsOwnColors_iff [DecidableEq Character] (text : UTF16AttributedString Character) :
    (TestsOwnColors text ↔ SameColorBehindWide text) ∧
    ((∀ isBlue units, TestsOwnColors (text.recolored isBlue units)) ↔ OnlyLastWide text) := by
  refine ⟨testsOwnColors_iff_same text, onlyLastWide_of_testsOwnColors text, ?_⟩
  intro narrow isBlue units
  exact (testsOwnColors_iff_same _).mpr (sameColorBehindWide_of_onlyLastWide _ narrow)

/-- An emoji of two units, before a blue `a` and a `b`. -/
def behindEmoji : UTF16AttributedString Char where
  string := "😀ab".toList
  isBlue := [false, false, true, false]
  hasUnits := by decide
  utf16Counts := [2, 1, 1]
  length_utf16Counts := by decide
  utf16Counts_pos := by decide
  sum_utf16Counts := by decide

/-- Not the blue Character but the one behind it is collected. -/
theorem character_behind_mention_collected :
    ¬(∀ text : UTF16AttributedString Char, TestsOwnColors text) ∧
    runs behindEmoji.toNSAttributedString = [(some 'a', ['b'])] ∧
    (ownColored behindEmoji).filter (fun character => character.2) = [('a', true)] := by
  have collected : runs behindEmoji.toNSAttributedString = [(some 'a', ['b'])] := by decide +kernel
  refine ⟨fun claimed => ?_, collected, by decide +kernel⟩
  have same := (claimed behindEmoji).collected
  rw [collected] at same
  exact absurd same (by decide +kernel)

end FinanciaApp.Guarantees
