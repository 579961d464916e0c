import Mathlib.Tactic.Linarith
import Mathlib.Tactic.Ring
import FinanciaApp.Source.ATCContactUsViewController

/-!
# The frames of the social media buttons

As many buttons are placed as fit without any space between them, and the width that is left is
divided as if there were one button more. So the spacing is negative, and the first button starts
outside, where less than about one button is left.
-/

set_option autoImplicit false

namespace FinanciaApp.Guarantees

open Source Source.ATCContactUsViewController

/-- The frames, which are as high as each other, do not overlap and are inside the width. -/
structure ButtonsFit (width : Rat) (frames : List CGRect) : Prop where
  disjoint : frames.Pairwise fun first second =>
    first.x + first.width ≤ second.x ∨ second.x + second.width ≤ first.x
  inside : ∀ frame ∈ frames, 0 ≤ frame.x ∧ frame.x + frame.width ≤ width

/-- The layout returns, and what it places fits. -/
def PlacesButtons (width : Rat) (buttons : Nat) : Prop :=
  ∃ frames, layoutSocialMediaButtons width buttons = some frames ∧ ButtonsFit width frames

/-- No button at all, fewer buttons than fit with space for a part of one more, or more buttons than
fit where the rest of the width makes up for the buttons. -/
def SpaceLeft (totalWidth : Int) (buttons : Nat) : Prop :=
  -40 < totalWidth ∧
  (buttons = 0 ∨ totalWidth < 40 ∨
    (40 * (buttons : Int) ≤ totalWidth ∧ 39 * (buttons : Int) + 40 < totalWidth) ∨
    (totalWidth < 40 * (buttons : Int) ∧ 40 < totalWidth / 40 + totalWidth % 40))

/-- Truncation takes what is above minus one to zero. -/
theorem tdiv_nonneg_iff {dividend divisor : Int} (positive : 0 < divisor) :
    0 ≤ dividend.tdiv divisor ↔ -divisor < dividend := by
  constructor
  · intro nonneg
    by_contra far
    have one : 1 ≤ (-dividend).tdiv divisor := Int.le_tdiv_of_mul_le positive (by omega)
    rw [Int.neg_tdiv] at one
    omega
  · intro near
    by_cases nonneg : 0 ≤ dividend
    · exact Int.tdiv_nonneg nonneg positive.le
    · have zero : (-dividend).tdiv divisor = 0 := Int.tdiv_eq_zero_of_lt (by omega) (by omega)
      rw [Int.neg_tdiv] at zero
      omega

theorem rendered_nonneg_iff (totalWidth : Int) (buttons : Nat) :
    0 ≤ noOfRenderedBtns totalWidth buttons ↔ -40 < totalWidth := by
  rw [noOfRenderedBtns, le_min_iff, and_iff_left (Int.natCast_nonneg buttons)]
  exact tdiv_nonneg_iff (by decide)

/-- The number of buttons that are placed, for a width that is not negative. -/
theorem rendered_eq {totalWidth : Int} (nonneg : 0 ≤ totalWidth) (buttons : Nat) :
    noOfRenderedBtns totalWidth buttons = min (totalWidth / 40) buttons := by
  rw [noOfRenderedBtns, preferredBtnWidth, Int.tdiv_eq_ediv_of_nonneg nonneg]

section Frames

variable {width : Rat} {totalWidth rendered : Int}

/-- The spaces and the buttons are not wider than the whole. -/
theorem spacing_le (positive : 0 < rendered) (fits : 40 * rendered ≤ totalWidth)
    (nonneg : 0 ≤ spacing totalWidth rendered) :
    rendered * spacing totalWidth rendered + 40 * rendered ≤ totalWidth := by
  unfold spacing preferredBtnWidth at nonneg ⊢
  by_cases left : 0 ≤ totalWidth - (rendered + 1) * 40
  · have bound := @Int.mul_tdiv_self_le _ rendered left
    linarith
  · have near := (tdiv_nonneg_iff positive).mp nonneg
    have zero : (-(totalWidth - (rendered + 1) * 40)).tdiv rendered = 0 :=
      Int.tdiv_eq_zero_of_lt (by omega) (by omega)
    rw [Int.neg_tdiv, neg_eq_zero] at zero
    rw [zero, mul_zero, zero_add]
    exact fits

/-- Where the first button is inside, every button follows the one before it up to the end. -/
theorem buttonsFit_of_nonneg (positive : 0 < rendered) (fits : 40 * rendered ≤ truncate width)
    (nonneg : 0 ≤ spacing (truncate width) rendered) :
    ButtonsFit width
      ((List.range rendered.toNat).map (frame (spacing (truncate width) rendered))) := by
  have bound := spacing_le positive fits nonneg
  generalize spacing (truncate width) rendered = space at nonneg bound
  constructor
  · rw [List.pairwise_map]
    refine List.pairwise_lt_range.imp fun {first second} before => .inl ?_
    have steps : ((first : Int) + 1) * space ≤ ((second : Int) + 1) * space :=
      mul_le_mul_of_nonneg_right (by omega) nonneg
    have apart : ((first : Int) + 1) * space + first * 40 + 40 ≤
        ((second : Int) + 1) * space + second * 40 := by omega
    simp only [frame, preferredBtnWidth]
    exact_mod_cast apart
  · intro placed member
    obtain ⟨index, inside, rfl⟩ := List.mem_map.mp member
    have below := List.mem_range.mp inside
    have first : 0 ≤ ((index : Int) + 1) * space := mul_nonneg (by omega) nonneg
    have steps : ((index : Int) + 1) * space ≤ rendered * space :=
      mul_le_mul_of_nonneg_right (by omega) nonneg
    have right : ((index : Int) + 1) * space + index * 40 + 40 ≤ truncate width := by omega
    simp only [frame, preferredBtnWidth]
    constructor
    · exact_mod_cast (by omega : 0 ≤ ((index : Int) + 1) * space + index * 40)
    · exact_mod_cast (le_truncate_iff (by omega) width).mp right

theorem buttonsFit_iff (positive : 0 < rendered) (fits : 40 * rendered ≤ truncate width) :
    ButtonsFit width
      ((List.range rendered.toNat).map (frame (spacing (truncate width) rendered))) ↔
      39 * rendered + 40 < truncate width := by
  have near : 0 ≤ spacing (truncate width) rendered ↔ 39 * rendered + 40 < truncate width := by
    rw [spacing, tdiv_nonneg_iff positive, preferredBtnWidth]
    omega
  rw [← near]
  constructor
  · intro placed
    have first := (placed.inside (frame (spacing (truncate width) rendered) 0)
      (List.mem_map_of_mem (List.mem_range.mpr (by omega)))).1
    simpa [frame] using first
  · exact buttonsFit_of_nonneg positive fits

end Frames

theorem rendered_eq_zero {totalWidth : Int} {buttons : Nat} (nonneg : -40 < totalWidth)
    (none_fits : buttons = 0 ∨ totalWidth < 40) : noOfRenderedBtns totalWidth buttons = 0 := by
  apply le_antisymm
  · cases none_fits with
    | inl no_button =>
      rw [noOfRenderedBtns, no_button]
      exact min_le_right _ _
    | inr narrow =>
      have zero : 0 ≤ (-totalWidth).tdiv preferredBtnWidth :=
        (tdiv_nonneg_iff (by decide)).mpr (neg_lt_neg narrow)
      rw [Int.neg_tdiv, neg_nonneg] at zero
      exact (min_le_left _ _).trans zero
  · exact (rendered_nonneg_iff totalWidth buttons).mpr nonneg

/-- The buttons are disjoint and inside exactly where there is space left. -/
theorem placesButtons_iff (width : Rat) (buttons : Nat) :
    PlacesButtons width buttons ↔ SpaceLeft (truncate width) buttons := by
  rw [PlacesButtons, layoutSocialMediaButtons, SpaceLeft]
  by_cases returns : -40 < truncate width
  · have nonneg := (rendered_nonneg_iff (truncate width) buttons).mpr returns
    rw [if_neg (not_lt.mpr nonneg), and_iff_right returns]
    simp only [Option.some.injEq, exists_eq_left']
    by_cases none_fits : buttons = 0 ∨ truncate width < 40
    · rw [rendered_eq_zero returns none_fits]
      refine iff_of_true ⟨List.Pairwise.nil, nofun⟩ ?_
      exact none_fits.imp_right Or.inl
    · have rendered := rendered_eq (by omega : 0 ≤ truncate width) buttons
      rw [buttonsFit_iff (by omega) (by omega)]
      omega
  · have traps : noOfRenderedBtns (truncate width) buttons < 0 :=
      not_le.mp (mt (rendered_nonneg_iff (truncate width) buttons).mp returns)
    rw [if_pos traps]
    exact iff_of_false (fun ⟨_, placed, _⟩ => by cases placed) fun space => returns space.1

/-- A button as wide as the view starts a whole width before it. -/
theorem full_width_button_outside :
    ¬(∀ width buttons, 0 ≤ width → PlacesButtons width buttons) ∧
    layoutSocialMediaButtons 40 1 = some [⟨-40, 0, 40, 40⟩] := by
  have outside : layoutSocialMediaButtons 40 1 = some [⟨-40, 0, 40, 40⟩] := by decide +kernel
  refine ⟨fun claimed => ?_, outside⟩
  obtain ⟨frames, placed, fit⟩ := claimed 40 1 (by decide)
  cases outside.symm.trans placed
  exact absurd (fit.inside _ List.mem_cons_self).1 (by decide +kernel)

end FinanciaApp.Guarantees
