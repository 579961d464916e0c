import FinanciaApp.Library.Runs
import FinanciaApp.Source.AssetTradingViewController

/-!
# The keypad of the trading screen

Digits extend a numeral, the arrow shortens it, and a zero never starts one. The point is the
one key without a condition: typed first or a second time it leaves no numeral. The shares and
the price are numbers, and the credit is their product as `Double`s.
-/

set_option autoImplicit false

namespace FinanciaApp.Guarantees

open Source Library

universe u

/-- The text of the share field. -/
def shareText (s : AssetTradingViewController) : List Char :=
  (s.numberText.getD "").toList

/-- The number of shares that the text denotes, 0 for the empty text. -/
def shares (s : AssetTradingViewController) : ℚ :=
  (decimalValue (shareText s)).getD 0

section Credits

variable {D : Type u} (doubles : DoubleArithmetic D) (price : ℚ) (s : AssetTradingViewController)

/-- The product of the shares and the price. -/
def creditOf : D :=
  doubles.times (doubles.rounded (shares s)) (doubles.rounded price)

/-- The share field is empty or holds a numeral; the credit is the shares times the price, and
so says the label; the button is shown if it is not zero. -/
structure Priced : Prop where
  numeral : shareText s = [] ∨ IsDecimal (shareText s)
  credit : s.currentCredit doubles = creditOf doubles price s
  label : s.estCreditText = ("$" ++ doubles.description (creditOf doubles price s)).toUpper
  button : s.tradeButtonAlpha = if doubles.isZero (creditOf doubles price s) then 0 else 1

end Credits

/-- A point is tapped only behind a digit and without a point before it. -/
def PointAllowed (s : AssetTradingViewController) (key : ATCKeyboardKey) : Prop :=
  key.value = "." → shareText s ≠ [] ∧ '.' ∉ shareText s

/-- A tap on a key of the keypad. -/
def tap {D : Type u} (doubles : DoubleArithmetic D) (s : AssetTradingViewController)
    (key : ATCKeyboardKey) : Option AssetTradingViewController :=
  if key ∈ numericKeys then some (s.didTap doubles key) else none

/-- The price is `$` and a numeral of this value. -/
def HasPrice (price : ℚ) (s : AssetTradingViewController) : Prop :=
  ∃ numeral, s.asset.price.toList = '$' :: numeral ∧ decimalValue numeral = some price

/-- A typed text, with labels that are up to date. -/
structure Typing {D : Type u} (doubles : DoubleArithmetic D) (price : ℚ)
    (s : AssetTradingViewController) : Prop where
  typed : IsTyped (shareText s)
  hasPrice : HasPrice price s
  updated : s.updateLabels doubles = s

/-! ## The credit -/

section Credit

variable {D : Type u} {doubles : DoubleArithmetic D} {price : ℚ} {s : AssetTradingViewController}

theorem ofText_assetPrice (hasPrice : HasPrice price s) :
    Double.ofText s.assetPrice = some price := by
  obtain ⟨numeral, text, value⟩ := hasPrice
  have decimal : IsDecimal numeral := decimalValue_isSome_iff.mp (by rw [value]; rfl)
  have kept : numeral.filter (· ≠ '$') = numeral := by
    rw [List.filter_eq_self]
    intro c member
    rcases decimal.isDigit_or_point member with digit | rfl
    · have not_dollar : c ≠ '$' := by
        rintro rfl
        exact absurd digit (by decide)
      simpa using not_dollar
    · rfl
  have read : s.assetPrice = String.ofList numeral := by
    rw [AssetTradingViewController.assetPrice, text, List.filter_cons_of_neg (by decide), kept]
  have toList : s.assetPrice.toList = numeral := by rw [read, String.toList_ofList]
  rw [Double.ofText_decimal (by rwa [toList]), toList, value]

/-- An empty field counts as no shares. -/
theorem ofNumeral_shares (numeral : shareText s = [] ∨ IsDecimal (shareText s)) :
    doubles.ofNumeral (s.numberText.getD "0") = doubles.rounded (shares s) := by
  rw [DoubleArithmetic.ofNumeral, shares]
  congr 1
  cases known : s.numberText with
  | none =>
    have no_text : shareText s = [] := by rw [shareText, known]; rfl
    rw [no_text]
    decide +kernel
  | some text =>
    have same : shareText s = text.toList := by rw [shareText, known]; rfl
    rw [same] at numeral ⊢
    rw [Option.getD_some]
    rcases numeral with empty | decimal
    · obtain rfl : text = "" := String.toList_eq_nil_iff.mp empty
      rw [Double.ofText_empty]
      decide +kernel
    · rw [Double.ofText_decimal decimal]

theorem currentCredit_eq (hasPrice : HasPrice price s)
    (numeral : shareText s = [] ∨ IsDecimal (shareText s)) :
    s.currentCredit doubles = creditOf doubles price s := by
  rw [AssetTradingViewController.currentCredit, ofNumeral_shares numeral,
    DoubleArithmetic.ofNumeral, ofText_assetPrice hasPrice, Option.getD_some, creditOf]

/-- With labels that are up to date only the text matters. -/
theorem priced_iff (hasPrice : HasPrice price s) (updated : s.updateLabels doubles = s) :
    Priced doubles price s ↔ shareText s = [] ∨ IsDecimal (shareText s) := by
  constructor
  · exact fun priced => priced.numeral
  · intro numeral
    have credit : s.currentCredit doubles = creditOf doubles price s :=
      currentCredit_eq hasPrice numeral
    refine ⟨numeral, credit, ?_, ?_⟩
    · rw [← credit, ← congrArg AssetTradingViewController.estCreditText updated]
      rfl
    · rw [← credit, ← congrArg AssetTradingViewController.tradeButtonAlpha updated]
      rfl

end Credit

/-! ## One tap -/

section Tap

variable {D : Type u} {doubles : DoubleArithmetic D} {price : ℚ}
variable {s t : AssetTradingViewController} {key : ATCKeyboardKey}

/-- The keys are the arrow, the point and single digits. -/
theorem key_cases (member : key ∈ numericKeys) :
    key.value = backArrowUnicode ∨ key.value = "." ∨
      ∃ c, key.value.toList = [c] ∧ c.isDigit = true := by
  have known : numericKeys.all (fun key => key.value == backArrowUnicode || key.value == "." ||
      (key.value.toList.length == 1 && key.value.toList.all Char.isDigit)) = true := by decide
  have this_key := List.all_eq_true.mp known key member
  simp only [Bool.or_eq_true, Bool.and_eq_true, beq_iff_eq, List.length_eq_one_iff] at this_key
  rcases this_key with (arrow | point) | ⟨⟨c, single⟩, digits⟩
  · exact Or.inl arrow
  · exact Or.inr (Or.inl point)
  · rw [single] at digits
    exact Or.inr (Or.inr ⟨c, single, by simpa using digits⟩)

theorem digit_ne_arrow {c : Char} (single : key.value.toList = [c]) (digit : c.isDigit = true) :
    key.value ≠ backArrowUnicode ∧ key.value ≠ "." := by
  constructor
  · intro arrow
    rw [arrow] at single
    obtain rfl : '\u2190' = c := (List.cons.inj single).1
    exact absurd digit (by decide)
  · intro point
    rw [point] at single
    obtain rfl : '.' = c := (List.cons.inj single).1
    exact absurd digit (by decide)

theorem shareText_didTap :
    shareText (s.didTap doubles key) =
      if key.value = backArrowUnicode then (shareText s).dropLast
      else if key.value ≠ "0" ∨ shareText s ≠ [] then shareText s ++ key.value.toList
      else shareText s := by
  have filled : 0 < (s.numberText.getD "").length ↔ shareText s ≠ [] := by
    rw [shareText, ← String.length_toList, List.length_pos_iff]
  have updated (s : AssetTradingViewController) :
      shareText (s.updateLabels doubles) = shareText s := rfl
  rw [AssetTradingViewController.didTap, updated]
  simp only [filled]
  split_ifs
  · simp [shareText]
  · simp [shareText]
  · rfl

theorem didTap_asset : (s.didTap doubles key).asset = s.asset := by
  rw [AssetTradingViewController.didTap]
  simp only [AssetTradingViewController.updateLabels]
  split_ifs <;> rfl

theorem hasPrice_didTap (hasPrice : HasPrice price s) :
    HasPrice price (s.didTap doubles key) := by
  rw [HasPrice, didTap_asset]
  exact hasPrice

theorem updated_didTap :
    (s.didTap doubles key).updateLabels doubles = s.didTap doubles key := rfl

/-- After a tap that is not a point in a wrong place the text is typed. -/
theorem isTyped_didTap (typed : IsTyped (shareText s)) (member : key ∈ numericKeys)
    (allowed : PointAllowed s key) : IsTyped (shareText (s.didTap doubles key)) := by
  rw [shareText_didTap]
  rcases key_cases member with arrow | point | ⟨c, single, digit⟩
  · rw [if_pos arrow]
    exact typed.dropLast
  · obtain ⟨nonempty, first⟩ := allowed point
    have not_arrow : key.value ≠ backArrowUnicode := by rw [point]; decide
    rw [if_neg not_arrow, if_pos (Or.inr nonempty), point]
    exact typed.append_point nonempty first
  · rw [if_neg (digit_ne_arrow single digit).1, single]
    split_ifs
    · exact typed.append_digit digit
    · exact typed

/-- A point in a wrong place leaves no numeral. -/
theorem pointAllowed_of_numeral (typed : IsTyped (shareText s))
    (numeral : shareText (s.didTap doubles key) = [] ∨
      IsDecimal (shareText (s.didTap doubles key))) : PointAllowed s key := by
  intro point
  have not_arrow : key.value ≠ backArrowUnicode := by rw [point]; decide
  have not_zero : key.value ≠ "0" := by rw [point]; decide
  have text : shareText (s.didTap doubles key) = shareText s ++ ['.'] := by
    rw [shareText_didTap, if_neg not_arrow, if_pos (Or.inl not_zero), point]
    rfl
  rw [text] at numeral
  rcases numeral with empty | decimal
  · exact absurd empty (by simp)
  · exact typed.append_point_iff.mp decimal

theorem priced_tap (typing : Typing doubles price s) (tapped : tap doubles s key = some t) :
    Priced doubles price t ↔ PointAllowed s key := by
  rw [tap] at tapped
  split_ifs at tapped with member
  obtain rfl := Option.some_inj.mp tapped
  rw [priced_iff (hasPrice_didTap typing.hasPrice) updated_didTap]
  constructor
  · exact pointAllowed_of_numeral typing.typed
  · intro allowed
    have typed : IsTyped (shareText (s.didTap doubles key)) :=
      isTyped_didTap typing.typed member allowed
    rw [or_iff_not_imp_left]
    exact typed.isDecimal

theorem typing_tap (typing : Typing doubles price s) (tapped : tap doubles s key = some t)
    (allowed : PointAllowed s key) : Typing doubles price t := by
  rw [tap] at tapped
  split_ifs at tapped with member
  obtain rfl := Option.some_inj.mp tapped
  exact ⟨isTyped_didTap typing.typed member allowed, hasPrice_didTap typing.hasPrice,
    updated_didTap⟩

end Tap

/-- Along exactly the sequences of taps that put every point behind a digit and none twice, the
field holds a numeral and the credit is right. -/
theorem priced_iff_pointAllowed {D : Type u} (doubles : DoubleArithmetic D)
    (asset : ATCFinanceAsset String) (price : ℚ) (numeral : List Char)
    (text : asset.price.toList = '$' :: numeral) (value : decimalValue numeral = some price)
    (keys : List ATCKeyboardKey) :
    AlongRun (tap doubles) (fun _ _ after => Priced doubles price after)
        (AssetTradingViewController.viewDidLoad doubles asset) keys ↔
      AlongRun (tap doubles) (fun before key _ => PointAllowed before key)
        (AssetTradingViewController.viewDidLoad doubles asset) keys := by
  apply alongRun_iff_of_invariant (Typing doubles price)
  · intro before key after typing tapped
    exact priced_tap typing tapped
  · intro before key after typing tapped allowed
    exact typing_tap typing tapped allowed
  · exact ⟨.whole [] fun c member => absurd member List.not_mem_nil, ⟨numeral, text, value⟩, rfl⟩

/-- An asset that costs $12.5. -/
def keypadAsset : ATCFinanceAsset String where
  title := "Apple"
  ticker := "AAPL"
  priceChange := "1%"
  isPositive := true
  price := "$12.5"
  color := "#000000"
  logoURL := ""

/-- Exact numbers, which small multiples of 12.5 are; a whole one is written with one decimal. -/
def exactDoubles : DoubleArithmetic ℚ where
  rounded value := value
  times first second := first * second
  isZero value := value = 0
  description value := if value.den = 1 then toString value.num ++ ".0" else toString value

theorem priced_iff_pointAllowed_keypadAsset :
    AlongRun (tap exactDoubles) (fun _ _ after => Priced exactDoubles (25 / 2) after)
        (AssetTradingViewController.viewDidLoad exactDoubles keypadAsset)
        [⟨"2", "2"⟩, ⟨".", "."⟩] ↔
      AlongRun (tap exactDoubles) (fun before key _ => PointAllowed before key)
        (AssetTradingViewController.viewDidLoad exactDoubles keypadAsset)
        [⟨"2", "2"⟩, ⟨".", "."⟩] :=
  priced_iff_pointAllowed exactDoubles keypadAsset (25 / 2) "12.5".toList (by decide)
    (by decide +kernel) [⟨"2", "2"⟩, ⟨".", "."⟩]

/-- A point in the empty field is kept, and is no numeral. -/
theorem point_kept :
    ¬(∀ (doubles : DoubleArithmetic ℚ) (asset : ATCFinanceAsset String) (price : ℚ)
        (numeral : List Char), asset.price.toList = '$' :: numeral →
      decimalValue numeral = some price → ∀ keys,
        AlongRun (tap doubles) (fun _ _ after => Priced doubles price after)
          (AssetTradingViewController.viewDidLoad doubles asset) keys) ∧
    (((AssetTradingViewController.viewDidLoad exactDoubles keypadAsset).didTap exactDoubles
      ⟨".", "."⟩).numberText = some ".") := by
  refine ⟨fun claimed => ?_, by decide +kernel⟩
  have along := claimed exactDoubles keypadAsset (25 / 2) "12.5".toList (by decide)
    (by decide +kernel) [⟨".", "."⟩]
  obtain ⟨priced, -⟩ := along _ (if_pos (by decide))
  have text : shareText ((AssetTradingViewController.viewDidLoad exactDoubles keypadAsset).didTap
      exactDoubles ⟨".", "."⟩) = ['.'] := by decide +kernel
  have numeral := priced.numeral
  rw [text] at numeral
  rcases numeral with empty | decimal
  · cases empty
  · have denotes := decimalValue_isSome_iff.mpr decimal
    exact absurd denotes (by decide +kernel)

end FinanciaApp.Guarantees
