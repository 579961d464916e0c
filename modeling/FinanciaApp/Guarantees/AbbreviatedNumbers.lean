import FinanciaApp.Source.DoubleExtensions

/-!
# Abbreviated numbers

Below a thousand a number is shown as it is, below a million it is rounded down to hundreds,
and from there on to hundreds of thousands. The units change at multiples of both steps, so
the denoted number grows with the argument, as far as the whole part fits in an `Int`.
-/

set_option autoImplicit false

namespace FinanciaApp.Guarantees

open Source Library

/-- The number before the unit. -/
def interpolatedValue : Double.Interpolated → ℚ
  | .int value => value
  | .double value => value

def unitValue (unit : String) : ℚ :=
  if unit = "K" then 1000 else if unit = "M" then 1000000 else 1

theorem unitValue_thousand : unitValue "K" = 1000 := by decide +kernel

theorem unitValue_million : unitValue "M" = 1000000 := by decide +kernel

/-- The number that a text denotes. -/
def denotedNumber (text : Double.AbbreviatedText) : ℚ :=
  interpolatedValue text.number * unitValue text.unit

/-- The number denoted by the text of `x`, if `x` has one. -/
def abbreviatedValue (x : ℚ) : Option ℚ :=
  (Double.abbreviated x).map denotedNumber

/-- The text of `x` denotes a number little below `x`, and no smaller number more. -/
def AbbreviatesDownward (x : ℚ) : Prop :=
  ∃ v, abbreviatedValue x = some v ∧ v ≤ x ∧
    (x < 1000 → x - v = 0) ∧
    (1000 ≤ x → x < 1000000 → x - v < 100) ∧
    (1000000 ≤ x → x - v < 100000) ∧
    ∀ y ≤ x, ∃ w, abbreviatedValue y = some w ∧ w ≤ v

/-! ## The three ranges -/

section Ranges

variable {x : ℚ}

/-- Both forms of a text denote the same number. -/
theorem denotedNumber_eq (n : ℚ) (int : ℤ) (unit : String) :
    denotedNumber (if n = int then ⟨.int int, unit⟩ else ⟨.double n, unit⟩) =
      n * unitValue unit := by
  split_ifs with whole
  · rw [whole]
    rfl
  · rfl

/-- The text of a number of tenths of a unit. -/
def tenthsText (tenths : ℤ) (unit : String) : Option Double.AbbreviatedText :=
  (Double.toInt ((tenths : ℚ) / 10)).map fun (int : ℤ) =>
    if (tenths : ℚ) / 10 = int then ⟨.int int, unit⟩ else ⟨.double ((tenths : ℚ) / 10), unit⟩

theorem abbreviated_eq :
    Double.abbreviated x =
      if x < 1000 then some ⟨.double x, ""⟩
      else if x < 1000000 then tenthsText ⌊x / 100⌋ "K"
      else tenthsText ⌊x / 100000⌋ "M" := by
  have branches (tenths : ℤ) (unit : String) :
      (Double.toInt ((tenths : ℚ) / 10)).bind (fun (int : ℤ) =>
        if (tenths : ℚ) / 10 = int then some ⟨.int int, unit⟩
        else some (⟨.double ((tenths : ℚ) / 10), unit⟩ : Double.AbbreviatedText)) =
      tenthsText tenths unit := by
    rw [tenthsText]
    cases Double.toInt ((tenths : ℚ) / 10) with
    | none => rfl
    | some int => rw [Option.bind_some, Option.map_some, apply_ite some]
  rw [Double.abbreviated, ← branches, ← branches]
  rfl

/-- A whole number of tenths has a text as far as its units fit in an `Int`. -/
theorem toInt_tenths {tenths : ℤ} (nonneg : 0 ≤ tenths) :
    (Double.toInt ((tenths : ℚ) / 10)).isSome ↔ tenths < 10 * 2 ^ 63 := by
  have tenths_nonneg : 0 ≤ (tenths : ℚ) / 10 := by positivity
  have below : ⌊(tenths : ℚ) / 10⌋ < 2 ^ 63 ↔ tenths < 10 * 2 ^ 63 := by
    rw [Int.floor_lt, div_lt_iff₀ (by norm_num), mul_comm]
    exact_mod_cast Iff.rfl
  have above : -2 ^ 63 ≤ ⌊(tenths : ℚ) / 10⌋ :=
    le_trans (by norm_num) (Int.floor_nonneg.mpr tenths_nonneg)
  rw [Double.toInt, if_pos tenths_nonneg, ← below]
  split_ifs with fits
  · exact iff_of_true rfl fits.2
  · exact iff_of_false nofun fun less => fits ⟨above, less⟩

theorem tenthsText_value {tenths : ℤ} (nonneg : 0 ≤ tenths) (unit : String) :
    (tenthsText tenths unit).map denotedNumber =
      if tenths < 10 * 2 ^ 63 then some ((tenths : ℚ) / 10 * unitValue unit) else none := by
  rw [tenthsText, Option.map_map]
  split_ifs with fits
  · obtain ⟨int, whole⟩ := Option.isSome_iff_exists.mp ((toInt_tenths nonneg).mpr fits)
    rw [whole, Option.map_some, Function.comp_apply, denotedNumber_eq]
  · have traps := (toInt_tenths nonneg).not.mpr fits
    rw [Option.not_isSome_iff_eq_none.mp traps, Option.map_none]

theorem abbreviatedValue_below_thousand (small : x < 1000) : abbreviatedValue x = some x := by
  rw [abbreviatedValue, abbreviated_eq, if_pos small, Option.map_some]
  exact congrArg some (mul_one x)

theorem abbreviatedValue_thousands (large : 1000 ≤ x) (small : x < 1000000) :
    abbreviatedValue x = some (roundDown 100 x) := by
  have nonneg : 0 ≤ ⌊x / 100⌋ := Int.floor_nonneg.mpr (by positivity)
  have fits : ⌊x / 100⌋ < 10 * 2 ^ 63 := by
    rw [Int.floor_lt, div_lt_iff₀ (by norm_num)]
    push_cast
    linarith
  rw [abbreviatedValue, abbreviated_eq, if_neg large.not_gt, if_pos small,
    tenthsText_value nonneg, if_pos fits, unitValue_thousand, roundDown]
  congr 1
  ring

theorem abbreviatedValue_millions (large : 1000000 ≤ x) :
    abbreviatedValue x =
      if x < 2 ^ 63 * 1000000 then some (roundDown 100000 x) else none := by
  have nonneg : 0 ≤ ⌊x / 100000⌋ := Int.floor_nonneg.mpr (by positivity)
  have fits : ⌊x / 100000⌋ < 10 * 2 ^ 63 ↔ x < 2 ^ 63 * 1000000 := by
    rw [Int.floor_lt, div_lt_iff₀ (by norm_num)]
    push_cast
    constructor <;> intro less <;> linarith
  have no_thousand : ¬x < 1000 := by linarith
  rw [abbreviatedValue, abbreviated_eq, if_neg no_thousand, if_neg large.not_gt,
    tenthsText_value nonneg, unitValue_million, roundDown]
  simp only [fits]
  congr 2
  ring

/-- The number denoted where there is a text: the argument, or rounded down. -/
theorem abbreviatedValue_eq (fits : x < 2 ^ 63 * 1000000) :
    abbreviatedValue x =
      some (if x < 1000 then x else if x < 1000000 then roundDown 100 x
        else roundDown 100000 x) := by
  split_ifs with units thousands
  · exact abbreviatedValue_below_thousand units
  · exact abbreviatedValue_thousands (not_lt.mp units) thousands
  · rw [abbreviatedValue_millions (not_lt.mp thousands), if_pos fits]

/-- The denoted number grows with the argument, also where the unit changes. -/
theorem abbreviatedValue_mono {y v w : ℚ} (le : y ≤ x) (fits : x < 2 ^ 63 * 1000000)
    (of_x : abbreviatedValue x = some v) (of_y : abbreviatedValue y = some w) : w ≤ v := by
  rw [abbreviatedValue_eq fits, Option.some_inj] at of_x
  rw [abbreviatedValue_eq (le.trans_lt fits), Option.some_inj] at of_y
  rw [← of_x, ← of_y]
  have hundreds : (0 : ℚ) < 100 := by norm_num
  have hundred_thousands : (0 : ℚ) < 100000 := by norm_num
  by_cases units : x < 1000
  · have y_units : y < 1000 := le.trans_lt units
    rw [if_pos units, if_pos y_units]
    exact le
  · by_cases thousands : x < 1000000
    · have reached : (1000 : ℚ) ≤ roundDown 100 x := by
        have multiple : (100 : ℚ) * (10 : ℤ) ≤ x := by push_cast; linarith
        have kept := le_roundDown hundreds multiple
        norm_num at kept
        exact kept
      rw [if_neg units, if_pos thousands]
      split_ifs with y_units y_thousands
      · linarith
      · exact roundDown_mono hundreds le
      · exact absurd (le.trans_lt thousands) y_thousands
    · have reached : (1000000 : ℚ) ≤ roundDown 100000 x := by
        have multiple : (100000 : ℚ) * (10 : ℤ) ≤ x := by push_cast; linarith
        have kept := le_roundDown hundred_thousands multiple
        norm_num at kept
        exact kept
      rw [if_neg units, if_neg thousands]
      split_ifs with y_units y_thousands
      · linarith
      · linarith [roundDown_le hundreds y]
      · exact roundDown_mono hundred_thousands le

theorem abbreviatedValue_near (fits : x < 2 ^ 63 * 1000000) :
    ∃ v, abbreviatedValue x = some v ∧ v ≤ x ∧ (x < 1000 → x - v = 0) ∧
      (1000 ≤ x → x < 1000000 → x - v < 100) ∧ (1000000 ≤ x → x - v < 100000) := by
  refine ⟨_, abbreviatedValue_eq fits, ?_⟩
  split_ifs with units thousands
  · refine ⟨le_rfl, fun _ => sub_self x, fun large => ?_, fun large => ?_⟩ <;> linarith
  · have near : x < roundDown 100 x + 100 := lt_roundDown_add (by norm_num) x
    refine ⟨roundDown_le (by norm_num) x, fun small => absurd small units, fun _ _ => ?_,
      fun large => ?_⟩ <;> linarith
  · have near : x < roundDown 100000 x + 100000 := lt_roundDown_add (by norm_num) x
    refine ⟨roundDown_le (by norm_num) x, fun small => absurd small units,
      fun _ small => absurd small thousands, fun _ => ?_⟩
    linarith

end Ranges

/-- Exactly the numbers below `2 ^ 63` millions are abbreviated. -/
theorem abbreviatesDownward_iff (x : ℚ) :
    AbbreviatesDownward x ↔ x < 2 ^ 63 * 1000000 := by
  constructor
  · rintro ⟨v, has_text, -⟩
    by_contra large
    have millions : 1000000 ≤ x := by linarith
    have no_text := abbreviatedValue_millions millions
    rw [if_neg large] at no_text
    rw [no_text] at has_text
    cases has_text
  · intro fits
    obtain ⟨v, of_x, below, units, thousands, millions⟩ := abbreviatedValue_near fits
    refine ⟨v, of_x, below, units, thousands, millions, fun y le => ?_⟩
    have of_y := abbreviatedValue_eq (le.trans_lt fits)
    exact ⟨_, of_y, abbreviatedValue_mono le fits of_x of_y⟩

/-- The whole part of `2 ^ 63` millions does not fit in an `Int`. -/
theorem abbreviated_traps :
    ¬(∀ x, AbbreviatesDownward x) ∧ Double.abbreviated (2 ^ 63 * 1000000) = none := by
  have traps : Double.abbreviated (2 ^ 63 * 1000000) = none := by decide +kernel
  refine ⟨fun claimed => ?_, traps⟩
  obtain ⟨v, has_text, -⟩ := claimed (2 ^ 63 * 1000000)
  rw [abbreviatedValue, traps] at has_text
  cases has_text

end FinanciaApp.Guarantees
