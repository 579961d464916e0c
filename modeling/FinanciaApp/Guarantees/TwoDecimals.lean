import FinanciaApp.Source.DoubleExtensions

/-!
# Two decimals, rounded twice

`twoDecimalsString` rounds to thousandths and then to hundredths. Both roundings are to the
nearest, but a number just short of a half-hundredth is first rounded to the half-hundredth
and then to the hundredth on the far side, whenever that one is even.
-/

set_option autoImplicit false

namespace FinanciaApp.Guarantees

open Source Library

/-- The text of `x` denotes a whole number of hundredths, at most half a one from `x`. -/
def ShowsNearestHundredth (x : ℚ) : Prop :=
  ∃ value, signedDecimalValue (Double.twoDecimalsString x).toList = some value ∧
    (∃ hundredths : ℤ, value = hundredths / 100) ∧ |value - x| ≤ 1 / 200

/-- In thousandths, less than a half from the middle between the hundredths `h` and `h + 1`,
on the side of the odd one. -/
def InBand (h : ℕ) (thousandths : ℚ) : Prop :=
  (h % 2 = 1 ∧ 10 * h + 9 / 2 ≤ thousandths ∧ thousandths < 10 * h + 5) ∨
    (h % 2 = 0 ∧ 10 * h + 5 < thousandths ∧ thousandths < 10 * h + 11 / 2)

/-! ## The two roundings -/

/-- The hundredths written for a number of thousandths. -/
def writtenHundredths (thousandths : ℚ) : ℤ :=
  roundEven (100 * ((roundAway thousandths : ℚ) / 1000))

theorem writtenHundredths_neg (q : ℚ) : writtenHundredths (-q) = -writtenHundredths q := by
  rw [writtenHundredths, writtenHundredths, roundAway_neg, ← roundEven_neg]
  congr 1
  push_cast
  ring

section Nonnegative

variable {q : ℚ} {h r : ℕ}

/-- A number in a band is first rounded to the half-hundredth. -/
theorem roundAway_of_inBand (nonneg : 0 ≤ q) (band : InBand h q) :
    roundAway q = 10 * h + 5 := by
  rw [roundAway_eq_iff nonneg]
  push_cast
  rcases band with ⟨-, lower, upper⟩ | ⟨-, lower, upper⟩
  · constructor <;> linarith
  · constructor <;> linarith

theorem exists_last_digit (nonneg : 0 ≤ q) : ∃ h r : ℕ, roundAway q = 10 * h + r ∧ r < 10 := by
  obtain ⟨n, first⟩ := Int.eq_ofNat_of_zero_le (roundAway_nonneg nonneg)
  exact ⟨n / 10, n % 10, by omega, Nat.mod_lt n (by norm_num)⟩

/-- The hundredths by the last digit of the thousandths. -/
theorem writtenHundredths_eq (first : roundAway q = 10 * h + r) (digit : r < 10) :
    writtenHundredths q = if r < 5 then h else if r = 5 ∧ h % 2 = 0 then h else h + 1 := by
  have tenths : 100 * ((roundAway q : ℚ) / 1000) = h + r / 10 := by
    rw [first]
    push_cast
    ring
  have digit_le : (r : ℚ) ≤ 9 := by exact_mod_cast Nat.le_of_lt_succ digit
  rw [writtenHundredths, tenths]
  split_ifs with low half
  · have low_le : (r : ℚ) ≤ 4 := by exact_mod_cast Nat.le_of_lt_succ low
    have low_nonneg : (0 : ℚ) ≤ r := Nat.cast_nonneg r
    refine roundEven_eq_of_near ?_
    rw [Int.cast_natCast, abs_lt]
    constructor <;> linarith
  · have middle : (h : ℚ) + (r : ℚ) / 10 = ((h : ℤ) : ℚ) + 1 / 2 := by
      rw [half.1]
      push_cast
      ring
    rw [middle, roundEven_half, if_pos (by omega)]
  · rcases Nat.lt_or_ge 5 r with high | not_high
    · have high_le : (6 : ℚ) ≤ r := by exact_mod_cast high
      refine roundEven_eq_of_near ?_
      push_cast
      rw [abs_lt]
      constructor <;> linarith
    · obtain rfl : r = 5 := by omega
      have middle : (h : ℚ) + ((5 : ℕ) : ℚ) / 10 = ((h : ℤ) : ℚ) + 1 / 2 := by
        push_cast
        ring
      rw [middle, roundEven_half, if_neg (by omega), Nat.cast_add_one]

/-- Away from the half-hundredths the second rounding does no harm. -/
theorem writtenHundredths_near (nonneg : 0 ≤ q) (first : roundAway q = 10 * h + r)
    (digit : r < 10) (not_half : r ≠ 5) : |10 * (writtenHundredths q : ℚ) - q| ≤ 5 := by
  obtain ⟨lower, upper⟩ := (roundAway_eq_iff nonneg).mp first
  push_cast at lower upper
  have digit_nonneg : (0 : ℚ) ≤ r := Nat.cast_nonneg r
  have digit_le : (r : ℚ) ≤ 9 := by exact_mod_cast Nat.le_of_lt_succ digit
  rw [writtenHundredths_eq first digit, abs_le]
  rcases Nat.lt_or_gt_of_ne not_half with low | high
  · have low_le : (r : ℚ) ≤ 4 := by exact_mod_cast Nat.le_of_lt_succ low
    rw [if_pos low]
    push_cast
    constructor <;> linarith
  · have high_le : (6 : ℚ) ≤ r := by exact_mod_cast high
    rw [if_neg (by omega), if_neg (by omega)]
    push_cast
    constructor <;> linarith

/-- Half-hundredths go to the even side, whichever side of them the number was on. -/
theorem writtenHundredths_half_iff (nonneg : 0 ≤ q) (first : roundAway q = 10 * h + 5) :
    |10 * (writtenHundredths q : ℚ) - q| ≤ 5 ↔ ¬InBand h q := by
  obtain ⟨lower, upper⟩ := (roundAway_eq_iff nonneg).mp first
  push_cast at lower upper
  rw [writtenHundredths_eq (r := 5) first (by omega), if_neg (by omega), abs_le]
  rcases Nat.mod_two_eq_zero_or_one h with even | odd
  · have band_iff : InBand h q ↔ 10 * h + 5 < q := by
      rw [InBand]
      constructor
      · rintro (⟨odd, -, -⟩ | ⟨-, beyond, -⟩)
        · omega
        · exact beyond
      · exact fun beyond => Or.inr ⟨even, beyond, by linarith⟩
    rw [if_pos ⟨rfl, even⟩, band_iff, not_lt]
    push_cast
    constructor
    · rintro ⟨far, -⟩
      linarith
    · intro before
      constructor <;> linarith
  · have band_iff : InBand h q ↔ q < 10 * h + 5 := by
      rw [InBand]
      constructor
      · rintro (⟨-, -, short⟩ | ⟨even, -, -⟩)
        · exact short
        · omega
      · exact fun short => Or.inl ⟨odd, by linarith, short⟩
    rw [if_neg (by omega), band_iff, not_lt]
    push_cast
    constructor
    · rintro ⟨-, far⟩
      linarith
    · intro reached
      constructor <;> linarith

/-- Exactly outside the bands the hundredths are at most five thousandths away. -/
theorem writtenHundredths_near_iff (nonneg : 0 ≤ q) :
    |10 * (writtenHundredths q : ℚ) - q| ≤ 5 ↔ ¬∃ h, InBand h q := by
  obtain ⟨h, r, first, digit⟩ := exists_last_digit nonneg
  have band_iff (k : ℕ) (band : InBand k q) : k = h ∧ r = 5 := by
    have middle := roundAway_of_inBand nonneg band
    omega
  by_cases half : r = 5
  · have only_here : (∃ k, InBand k q) ↔ InBand h q := by
      constructor
      · rintro ⟨k, band⟩
        exact (band_iff k band).1 ▸ band
      · exact fun band => ⟨h, band⟩
    rw [only_here]
    apply writtenHundredths_half_iff nonneg
    rw [first, half]
    rfl
  · refine iff_of_true (writtenHundredths_near nonneg first digit half) ?_
    rintro ⟨k, band⟩
    exact half (band_iff k band).2

end Nonnegative

/-! ## The text -/

/-- The written numeral denotes the hundredths, with the sign of the number. -/
theorem signedDecimalValue_formatTwoDecimals (value : ℚ) :
    signedDecimalValue (Double.formatTwoDecimals value).toList =
      some ((roundEven (100 * value) : ℚ) / 100) := by
  rw [Double.formatTwoDecimals, String.toList_ofList]
  split_ifs with negative
  · have below : 0 ≤ roundEven (-(100 * value)) := roundEven_nonneg (by linarith)
    rw [roundEven_neg] at below
    have magnitude : ((roundEven (100 * value)).natAbs : ℚ) = -(roundEven (100 * value) : ℚ) := by
      rw [Nat.cast_natAbs, abs_of_nonpos (by omega), Int.cast_neg]
    rw [signedDecimalValue, decimalValue_fixedPoint, magnitude, Option.map_some]
    congr 1
    ring
  · have above : 0 ≤ roundEven (100 * value) := roundEven_nonneg (by linarith)
    have magnitude : ((roundEven (100 * value)).natAbs : ℚ) = roundEven (100 * value) := by
      rw [Nat.cast_natAbs, abs_of_nonneg above]
    rw [signedDecimalValue_eq (isDecimal_fixedPoint _ _), decimalValue_fixedPoint, magnitude]
    norm_num

theorem denoted_twoDecimalsString (x : ℚ) :
    signedDecimalValue (Double.twoDecimalsString x).toList =
      some ((writtenHundredths (1000 * x) : ℚ) / 100) :=
  signedDecimalValue_formatTwoDecimals _

/-- The distance from a number and from its opposite. -/
theorem writtenHundredths_near_abs (q : ℚ) :
    |10 * (writtenHundredths q : ℚ) - q| = abs (10 * (writtenHundredths |q| : ℚ) - |q|) := by
  rcases abs_choice q with same | opposite
  · rw [same]
  · rw [opposite, writtenHundredths_neg, ← abs_neg]
    congr 1
    push_cast
    ring

/-- Exactly when the text is that of a nearest hundredth. -/
theorem showsNearestHundredth_iff (x : ℚ) :
    ShowsNearestHundredth x ↔ ¬∃ h, InBand h |1000 * x| := by
  have scaled : |(writtenHundredths (1000 * x) : ℚ) / 100 - x| ≤ 1 / 200 ↔
      |10 * (writtenHundredths (1000 * x) : ℚ) - 1000 * x| ≤ 5 := by
    rw [abs_le, abs_le]
    constructor
    · rintro ⟨lower, upper⟩
      exact ⟨by linarith, by linarith⟩
    · rintro ⟨lower, upper⟩
      exact ⟨by linarith, by linarith⟩
  rw [← writtenHundredths_near_iff (abs_nonneg _), ← writtenHundredths_near_abs, ← scaled]
  constructor
  · rintro ⟨value, denoted, -, near⟩
    rw [denoted_twoDecimalsString, Option.some_inj] at denoted
    rwa [denoted]
  · intro near
    exact ⟨_, denoted_twoDecimalsString x, ⟨_, rfl⟩, near⟩

/-- 0.3749 becomes 0.375, and that is written 0.38. -/
theorem twoDecimalsString_rounds_twice :
    ¬(∀ x, ShowsNearestHundredth x) ∧ Double.twoDecimalsString (3749 / 10000) = "0.38" := by
  have text : Double.twoDecimalsString (3749 / 10000) = "0.38" := by decide +kernel
  refine ⟨fun claimed => ?_, text⟩
  obtain ⟨value, denoted, -, near⟩ := claimed (3749 / 10000)
  have above : signedDecimalValue "0.38".toList = some (38 / 100) := by decide +kernel
  rw [text, above, Option.some_inj] at denoted
  rw [← denoted] at near
  norm_num at near

end FinanciaApp.Guarantees
