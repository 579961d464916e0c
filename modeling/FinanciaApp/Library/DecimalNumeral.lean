import Mathlib.Algebra.Field.Rat
import Mathlib.Data.List.Basic
import Mathlib.Data.List.TakeWhile
import Mathlib.Data.Nat.Cast.Field
import Mathlib.Tactic.NormNum
import Mathlib.Tactic.Ring

/-!
# Decimal numerals

Texts of digits with at most one decimal point and at least one digit, and the rational
numbers that they denote.

* `decimalValue_isSome_iff`: exactly the decimal numerals have a value.
* `IsTyped.append_digit`, `IsTyped.append_point_iff`, `IsTyped.dropLast`: typing and deleting.
* `decimalValue_fixedPoint`: a number of tenths, hundredths and so on, written out and read
  back.
-/

set_option autoImplicit false

namespace FinanciaApp.Library

def AllDigits (text : List Char) : Prop :=
  ∀ c ∈ text, c.isDigit = true

inductive IsDecimal : List Char → Prop where
  | whole (whole : List Char) (nonempty : whole ≠ []) (digits : AllDigits whole) : IsDecimal whole
  | point (whole fraction : List Char) (nonempty : whole ++ fraction ≠ [])
      (digits : AllDigits (whole ++ fraction)) : IsDecimal (whole ++ '.' :: fraction)

def decimalValue (text : List Char) : Option ℚ :=
  let whole := text.takeWhile (· ≠ '.')
  let fraction := (text.dropWhile (· ≠ '.')).tail
  if whole ++ fraction ≠ [] ∧ (whole ++ fraction).all Char.isDigit then
    some ((Nat.ofDigitChars 10 (whole ++ fraction) 0 : ℚ) / 10 ^ fraction.length)
  else none

/-- The same with a minus sign in front. -/
def signedDecimalValue : List Char → Option ℚ
  | '-' :: text => (decimalValue text).map fun value => -value
  | text => decimalValue text

/-! ## The value of a numeral -/

section Value

variable {whole fraction text : List Char}

theorem AllDigits.left (digits : AllDigits (whole ++ fraction)) : AllDigits whole :=
  fun c member => digits c (List.mem_append_left _ member)

theorem AllDigits.ne_point (digits : AllDigits whole) {c : Char} (member : c ∈ whole) :
    c ≠ '.' := by
  rintro rfl
  exact absurd (digits _ member) (by decide)

theorem allDigits_iff : AllDigits text ↔ text.all Char.isDigit = true :=
  List.all_eq_true.symm

theorem takeWhile_ne_point (digits : AllDigits whole) :
    (whole ++ '.' :: fraction).takeWhile (· ≠ '.') = whole := by
  rw [List.takeWhile_append_of_pos (fun c member => by simpa using digits.ne_point member)]
  simp

theorem dropWhile_ne_point (digits : AllDigits whole) :
    (whole ++ '.' :: fraction).dropWhile (· ≠ '.') = '.' :: fraction := by
  rw [List.dropWhile_append_of_pos (fun c member => by simpa using digits.ne_point member)]
  simp

theorem decimalValue_whole (nonempty : whole ≠ []) (digits : AllDigits whole) :
    decimalValue whole = some (Nat.ofDigitChars 10 whole 0 : ℚ) := by
  have all_before : whole.takeWhile (· ≠ '.') = whole :=
    List.takeWhile_eq_self_iff.mpr fun c member => by simpa using digits.ne_point member
  have none_after : whole.dropWhile (· ≠ '.') = [] :=
    List.dropWhile_eq_nil_iff.mpr fun c member => by simpa using digits.ne_point member
  simp only [decimalValue, all_before, none_after, List.tail_nil, List.append_nil]
  rw [if_pos ⟨nonempty, allDigits_iff.mp digits⟩, List.length_nil, pow_zero, div_one]

theorem decimalValue_point (nonempty : whole ++ fraction ≠ [])
    (digits : AllDigits (whole ++ fraction)) :
    decimalValue (whole ++ '.' :: fraction) =
      some ((Nat.ofDigitChars 10 (whole ++ fraction) 0 : ℚ) / 10 ^ fraction.length) := by
  simp only [decimalValue, takeWhile_ne_point digits.left, dropWhile_ne_point digits.left,
    List.tail_cons]
  rw [if_pos ⟨nonempty, allDigits_iff.mp digits⟩]

theorem decimalValue_isSome_iff : (decimalValue text).isSome ↔ IsDecimal text := by
  constructor
  · intro denotes
    simp only [decimalValue] at denotes
    split_ifs at denotes with condition
    · obtain ⟨nonempty, digits⟩ := condition
      have parts := List.takeWhile_append_dropWhile (p := (· ≠ '.')) (l := text)
      cases after : text.dropWhile (· ≠ '.') with
      | nil =>
        rw [after, List.append_nil] at parts
        rw [after, List.tail_nil, List.append_nil, parts] at nonempty digits
        exact .whole text nonempty (allDigits_iff.mpr digits)
      | cons first fraction =>
        have is_point : first = '.' := by
          have stopped := List.head?_dropWhile_not (· ≠ '.') text
          rw [after] at stopped
          simpa using stopped
        rw [after, is_point] at parts
        rw [after, List.tail_cons] at nonempty digits
        rw [← parts]
        exact .point _ fraction nonempty (allDigits_iff.mpr digits)
    · cases denotes
  · intro decimal
    cases decimal with
    | whole _ nonempty digits => rw [decimalValue_whole nonempty digits]; rfl
    | point whole fraction nonempty digits => rw [decimalValue_point nonempty digits]; rfl

/-- Digits and points are all there is in a numeral. -/
theorem IsDecimal.isDigit_or_point (decimal : IsDecimal text) {c : Char} (member : c ∈ text) :
    c.isDigit = true ∨ c = '.' := by
  cases decimal with
  | whole _ _ digits => exact Or.inl (digits c member)
  | point whole fraction _ digits =>
    rcases List.mem_append.mp member with left | right
    · exact Or.inl (digits.left c left)
    · rcases List.mem_cons.mp right with is_point | after
      · exact Or.inr is_point
      · exact Or.inl (digits c (List.mem_append_right _ after))

/-- A numeral has at most one point. -/
theorem IsDecimal.count_point_le (decimal : IsDecimal text) : text.count '.' ≤ 1 := by
  have none_in {digits : List Char} (all : AllDigits digits) : digits.count '.' = 0 :=
    List.count_eq_zero.mpr fun member => all.ne_point member rfl
  cases decimal with
  | whole _ _ digits => rw [none_in digits]; exact Nat.zero_le 1
  | point whole fraction _ digits =>
    have after : AllDigits fraction := fun c member => digits c (List.mem_append_right _ member)
    rw [List.count_append, List.count_cons_self, none_in digits.left, none_in after]

theorem signedDecimalValue_eq (decimal : IsDecimal text) :
    signedDecimalValue text = decimalValue text := by
  rw [signedDecimalValue.eq_def]
  split
  · exact absurd (decimal.isDigit_or_point List.mem_cons_self) (by decide)
  · rfl

end Value

/-! ## Typing a numeral from the left -/

/-- Digits, and a point once there is one of them. -/
inductive IsTyped : List Char → Prop where
  | whole (whole : List Char) (digits : AllDigits whole) : IsTyped whole
  | point (whole fraction : List Char) (nonempty : whole ≠ [])
      (digits : AllDigits (whole ++ fraction)) : IsTyped (whole ++ '.' :: fraction)

namespace IsTyped

variable {text : List Char} {c : Char}

theorem isDecimal (typed : IsTyped text) (nonempty : text ≠ []) : IsDecimal text := by
  cases typed with
  | whole _ digits => exact .whole text nonempty digits
  | point whole fraction some_digit digits =>
    exact .point whole fraction (fun empty => some_digit (List.append_eq_nil_iff.mp empty).1) digits

theorem append_digit (typed : IsTyped text) (digit : c.isDigit = true) :
    IsTyped (text ++ [c]) := by
  have last {digits : List Char} (all : AllDigits digits) : AllDigits (digits ++ [c]) := by
    intro d member
    rcases List.mem_append.mp member with before | now
    · exact all d before
    · rwa [List.mem_singleton.mp now]
  cases typed with
  | whole _ digits => exact .whole _ (last digits)
  | point whole fraction some_digit digits =>
    rw [List.append_assoc, List.cons_append]
    refine .point whole (fraction ++ [c]) some_digit ?_
    rw [← List.append_assoc]
    exact last digits

theorem append_point (typed : IsTyped text) (nonempty : text ≠ []) (first : '.' ∉ text) :
    IsTyped (text ++ ['.']) := by
  cases typed with
  | whole _ digits => exact .point text [] nonempty (by rwa [List.append_nil])
  | point whole fraction _ _ => exact absurd (by simp) first

theorem dropLast (typed : IsTyped text) : IsTyped text.dropLast := by
  cases typed with
  | whole _ digits =>
    exact .whole _ fun d member => digits d (List.dropLast_subset _ member)
  | point whole fraction some_digit digits =>
    rcases List.eq_nil_or_concat' fraction with rfl | ⟨fraction, last, rfl⟩
    · rw [List.append_nil] at digits
      rw [List.dropLast_concat]
      exact .whole whole digits
    · rw [← List.cons_append, ← List.append_assoc, List.dropLast_concat]
      rw [← List.append_assoc] at digits
      exact .point whole fraction some_digit digits.left

/-- A point that is the first character or the second point ends the numeral. -/
theorem append_point_iff (typed : IsTyped text) :
    IsDecimal (text ++ ['.']) ↔ text ≠ [] ∧ '.' ∉ text := by
  constructor
  · intro decimal
    constructor
    · rintro rfl
      have denotes := decimalValue_isSome_iff.mpr decimal
      exact absurd denotes (by decide +kernel)
    · intro earlier
      have points := decimal.count_point_le
      rw [List.count_append, List.count_singleton_self] at points
      have before : 0 < text.count '.' := List.count_pos_iff.mpr earlier
      omega
  · rintro ⟨nonempty, first⟩
    exact (typed.append_point nonempty first).isDecimal (by simp)

end IsTyped

/-! ## Writing a number with a fixed count of decimals -/

/-- The last `count` digits of a number. -/
def lastDigits : ℕ → ℕ → List Char
  | 0, _ => []
  | count + 1, n => lastDigits count (n / 10) ++ [(n % 10).digitChar]

/-- `n` units of the last of `count` decimals. -/
def fixedPoint (count n : ℕ) : List Char :=
  Nat.toDigits 10 (n / 10 ^ count) ++ '.' :: lastDigits count n

section FixedPoint

theorem length_lastDigits (count n : ℕ) : (lastDigits count n).length = count := by
  induction count generalizing n with
  | zero => rfl
  | succ count ih => simp [lastDigits, ih]

theorem allDigits_lastDigits (count n : ℕ) : AllDigits (lastDigits count n) := by
  induction count generalizing n with
  | zero => exact fun c member => absurd member List.not_mem_nil
  | succ count ih =>
    intro c member
    rcases List.mem_append.mp member with before | last
    · exact ih (n / 10) c before
    · rw [List.mem_singleton.mp last, Nat.isDigit_digitChar]
      exact decide_eq_true (Nat.mod_lt n (by norm_num))

/-- Reading on through the last digits puts them below what was read before. -/
theorem ofDigitChars_lastDigits (count n start : ℕ) :
    Nat.ofDigitChars 10 (lastDigits count n) start = start * 10 ^ count + n % 10 ^ count := by
  induction count generalizing n with
  | zero => simp [lastDigits, Nat.mod_one]
  | succ count ih =>
    have digit : n % 10 < 10 := Nat.mod_lt n (by norm_num)
    rw [lastDigits, Nat.ofDigitChars_append, ih,
      Nat.ofDigitChars_cons_digitChar_of_lt_ten digit, Nat.ofDigitChars_nil,
      pow_succ, Nat.mul_comm (10 ^ count) 10, Nat.mod_mul]
    ring

theorem decimalValue_fixedPoint (count n : ℕ) :
    decimalValue (fixedPoint count n) = some ((n : ℚ) / 10 ^ count : ℚ) := by
  have digits : AllDigits (Nat.toDigits 10 (n / 10 ^ count) ++ lastDigits count n) := by
    intro c member
    rcases List.mem_append.mp member with whole | fraction
    · exact Nat.isDigit_of_mem_toDigits (by norm_num) (by norm_num) whole
    · exact allDigits_lastDigits count n c fraction
  have nonempty : Nat.toDigits 10 (n / 10 ^ count) ++ lastDigits count n ≠ [] := by
    intro empty
    exact Nat.toDigits_ne_nil (List.append_eq_nil_iff.mp empty).1
  rw [fixedPoint, decimalValue_point nonempty digits, length_lastDigits,
    Nat.ofDigitChars_append, Nat.ofDigitChars_ten_toDigits, ofDigitChars_lastDigits,
    Nat.div_add_mod']

theorem isDecimal_fixedPoint (count n : ℕ) : IsDecimal (fixedPoint count n) := by
  rw [← decimalValue_isSome_iff, decimalValue_fixedPoint]
  rfl

end FixedPoint

end FinanciaApp.Library
