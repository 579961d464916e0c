import FinanciaApp.Source.AssetDetailsViewController
import FinanciaApp.Source.DoubleExtensions

/-!
# The trading screen

`FinanceApp/FinanceApp/Trading/AssetTradingViewController.swift` with the `numericKeys` of
`FinanceStaticDataProvider.swift:32-45`. What Swift does with a `Double` is the parameter
`DoubleArithmetic`: the value of a numeral is rounded to one, products are rounded, and an
overflow gives an infinity. Of the screen the text field, the estimated credit and the trade
button change.
-/

set_option autoImplicit false

namespace FinanciaApp.Source

universe u

structure ATCKeyboardKey where
  value : String
  displayValue : String
  deriving DecidableEq, Repr

def backArrowUnicode : String := "\u2190"

def numericKeys : List ATCKeyboardKey :=
  [⟨"1", "1"⟩, ⟨"2", "2"⟩, ⟨"3", "3"⟩, ⟨"4", "4"⟩, ⟨"5", "5"⟩, ⟨"6", "6"⟩, ⟨"7", "7"⟩,
    ⟨"8", "8"⟩, ⟨"9", "9"⟩, ⟨".", "."⟩, ⟨"0", "0"⟩, ⟨backArrowUnicode, backArrowUnicode⟩]

/-- The operations on `Double` that the screen uses. -/
structure DoubleArithmetic (D : Type u) where
  /-- The `Double` nearest to a number. -/
  rounded : ℚ → D
  /-- The product `*`. -/
  times : D → D → D
  /-- `== 0.0`. -/
  isZero : D → Bool
  /-- `String(_:)`. -/
  description : D → String

/-- `Double(text) ?? 0`. -/
def DoubleArithmetic.ofNumeral {D : Type u} (doubles : DoubleArithmetic D) (text : String) : D :=
  doubles.rounded ((Double.ofText text).getD 0)

structure AssetTradingViewController where
  asset : ATCFinanceAsset String
  numberText : Option String
  estCreditText : String
  tradeButtonAlpha : ℚ

namespace AssetTradingViewController

/-- `asset.price.replacingOccurrences(of: "$", with: "")`. -/
def assetPrice (s : AssetTradingViewController) : String :=
  String.ofList (s.asset.price.toList.filter (· ≠ '$'))

section Handlers

variable {D : Type u} (doubles : DoubleArithmetic D)

def currentCredit (s : AssetTradingViewController) : D :=
  doubles.times (doubles.ofNumeral (s.numberText.getD "0")) (doubles.ofNumeral s.assetPrice)

def currentCreditString (s : AssetTradingViewController) : String :=
  "$" ++ doubles.description (s.currentCredit doubles)

def updateLabels (s : AssetTradingViewController) : AssetTradingViewController :=
  { s with
    estCreditText := (s.currentCreditString doubles).toUpper
    tradeButtonAlpha := if doubles.isZero (s.currentCredit doubles) then 0 else 1 }

/-- `viewDidLoad`, on an empty text field. -/
def viewDidLoad (asset : ATCFinanceAsset String) : AssetTradingViewController :=
  updateLabels doubles
    { asset := asset, numberText := some "", estCreditText := "", tradeButtonAlpha := 0 }

/-- `keyboardViewController(_:didTap:)`. -/
def didTap (s : AssetTradingViewController) (key : ATCKeyboardKey) : AssetTradingViewController :=
  let text := s.numberText.getD ""
  let tapped :=
    if key.value = backArrowUnicode then
      { s with numberText := some (String.ofList text.toList.dropLast) }
    else if key.value ≠ "0" ∨ 0 < text.length then
      { s with numberText := some (text ++ key.value) }
    else
      s
  updateLabels doubles tapped

end Handlers

end AssetTradingViewController

end FinanciaApp.Source
