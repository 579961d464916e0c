import Mathlib.Data.Rat.Floor
import FinanciaApp.Library.Rounding
import FinanciaApp.Library.DecimalNumeral

/-!
# Numbers as texts

The extension of `Double` in `Core/UIExtensions/Double.swift`, over the rational numbers, so
that a zero has no sign. `none` is the trap of `Int(_:)`. The text of `abbreviated` is given by
its two parts, the interpolated number and the unit.
-/

set_option autoImplicit false

namespace FinanciaApp.Source.Double

open Library

/-- `Int(value)`, that drops the fraction and traps on what a 64-bit `Int` does not hold. -/
def toInt (value : ℚ) : Option ℤ :=
  let whole := if 0 ≤ value then ⌊value⌋ else ⌈value⌉
  if -2 ^ 63 ≤ whole ∧ whole < 2 ^ 63 then some whole else none

def digitsValue (digits : List Char) : Option ℤ :=
  if digits ≠ [] ∧ digits.all Char.isDigit then some (Nat.ofDigitChars 10 digits 0 : ℤ) else none

/-- The exponent of a numeral, with its sign. -/
def exponent : List Char → Option ℤ
  | '-' :: digits => (digitsValue digits).map fun value => -value
  | '+' :: digits => digitsValue digits
  | digits => digitsValue digits

/-- A decimal numeral with an optional exponent. -/
def unsigned (text : List Char) : Option ℚ :=
  match text.dropWhile (fun c => c ≠ 'e' && c ≠ 'E') with
  | [] => decimalValue text
  | _ :: power => do
    let significand ← decimalValue (text.takeWhile fun c => c ≠ 'e' && c ≠ 'E')
    let power ← exponent power
    some (significand * 10 ^ power)

/-- `Double(text)`, apart from hexadecimal numerals, infinities and NaN. -/
def ofText (text : String) : Option ℚ :=
  match text.toList with
  | '-' :: text => (unsigned text).map fun value => -value
  | '+' :: text => unsigned text
  | text => unsigned text

/-- The number interpolated into a text. -/
inductive Interpolated where
  | int (value : ℤ)
  | double (value : ℚ)
deriving DecidableEq, Repr

structure AbbreviatedText where
  number : Interpolated
  unit : String
deriving DecidableEq, Repr

def abbreviated (self : ℚ) : Option AbbreviatedText :=
  if self < 1000 then
    some ⟨.double self, ""⟩
  else if self < 1000000 then do
    let n := (⌊self / 100⌋ : ℚ) / 10
    let int ← toInt n
    if n = int then some ⟨.int int, "K"⟩ else some ⟨.double n, "K"⟩
  else do
    let n := (⌊self / 100000⌋ : ℚ) / 10
    let int ← toInt n
    if n = int then some ⟨.int int, "M"⟩ else some ⟨.double n, "M"⟩

def rounded (self : ℚ) : ℚ :=
  roundAway self

def twoDecimals (self : ℚ) : ℚ :=
  rounded (1000 * self) / 1000

/-- `String(format: "%.2f", value)`: the nearest hundredth, the even one of two. -/
def formatTwoDecimals (value : ℚ) : String :=
  let digits := fixedPoint 2 (roundEven (100 * value)).natAbs
  String.ofList (if value < 0 then '-' :: digits else digits)

def twoDecimalsString (self : ℚ) : String :=
  formatTwoDecimals (twoDecimals self)

/-! ## Texts that are decimal numerals -/

theorem ofText_empty : ofText "" = none := by
  decide +kernel

theorem ofText_decimal {text : String} (decimal : IsDecimal text.toList) :
    ofText text = decimalValue text.toList := by
  have no_exponent : text.toList.dropWhile (fun c => c ≠ 'e' && c ≠ 'E') = [] := by
    rw [List.dropWhile_eq_nil_iff]
    intro c member
    rcases decimal.isDigit_or_point member with digit | rfl
    · have not_e : c ≠ 'e' ∧ c ≠ 'E' := by
        constructor
        · rintro rfl
          exact absurd digit (by decide)
        · rintro rfl
          exact absurd digit (by decide)
      simp [not_e]
    · rfl
  rw [ofText.eq_def]
  split
  · rename_i shown
    exact absurd (decimal.isDigit_or_point (shown ▸ List.mem_cons_self)) (by decide)
  · rename_i shown
    exact absurd (decimal.isDigit_or_point (shown ▸ List.mem_cons_self)) (by decide)
  · rw [unsigned, no_exponent]

end FinanciaApp.Source.Double
