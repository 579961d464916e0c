import FinanciaApp.Source.TimeFormatHelper

/-!
# How long ago

Every unit of `timeAgoString` is rounded from the rounded one before it. That is accurate up
to the hours; the days are the hours over 60, so 24 hours are 0 days, and no age beyond two
days is told within a unit.
-/

set_option autoImplicit false

namespace FinanciaApp.Guarantees

open Source Library

inductive AgeUnit where
  | seconds
  | minutes
  | hours
  | days
  | months
  | years
deriving DecidableEq, Repr

namespace AgeUnit

def label : AgeUnit → String
  | .seconds => " seconds ago"
  | .minutes => " minutes ago"
  | .hours => " hours ago"
  | .days => " days ago"
  | .months => " months ago"
  | .years => " years ago"

/-- In seconds, with months of 30 days and years of 12 months. -/
def length : AgeUnit → ℕ
  | .seconds => 1
  | .minutes => 60
  | .hours => 60 * 60
  | .days => 24 * 60 * 60
  | .months => 30 * 24 * 60 * 60
  | .years => 12 * 30 * 24 * 60 * 60

end AgeUnit

/-- The text that denotes `count` units. -/
def agoText (count : ℕ) (unit : AgeUnit) : String :=
  toString count ++ unit.label

/-- The age `s` is told with an error of at most a unit, and no younger age as a longer
duration. -/
def TellsAge (s : ℚ) : Prop :=
  ∃ count unit, TimeFormatHelper.timeAgoString s = some (agoText count unit) ∧
    1 ≤ count ∧ |s - count * unit.length| ≤ unit.length ∧
    ∀ r, 10 ≤ r → r ≤ s → ∃ earlier smaller,
      TimeFormatHelper.timeAgoString r = some (agoText earlier smaller) ∧
      earlier * smaller.length ≤ count * unit.length

/-! ## The text of an age -/

section Text

theorem takeWhile_agoText (count : ℕ) (unit : AgeUnit) :
    (agoText count unit).toList.takeWhile Char.isDigit = Nat.toDigits 10 count := by
  have digits : ∀ c ∈ Nat.toDigits 10 count, c.isDigit = true :=
    fun c member => Nat.isDigit_of_mem_toDigits (by norm_num) (by norm_num) member
  have label_start : unit.label.toList.takeWhile Char.isDigit = [] := by
    cases unit <;> rfl
  rw [agoText, String.toList_append, Nat.toString_eq_ofList_toDigits, String.toList_ofList,
    List.takeWhile_append_of_pos digits, label_start, List.append_nil]

/-- A text denotes one duration. -/
theorem agoText_inj {count number : ℕ} {unit other : AgeUnit}
    (same : agoText count unit = agoText number other) : count = number ∧ unit = other := by
  have digits : Nat.toDigits 10 count = Nat.toDigits 10 number := by
    rw [← takeWhile_agoText count unit, same, takeWhile_agoText]
  obtain rfl : count = number := by
    rw [← Nat.ofDigitChars_ten_toDigits (n := count), digits, Nat.ofDigitChars_ten_toDigits]
  refine ⟨rfl, ?_⟩
  have lists := congrArg String.toList same
  rw [agoText, agoText, String.toList_append, String.toList_append] at lists
  have labels : unit.label.toList = other.label.toList := List.append_cancel_left lists
  cases unit <;> cases other <;> first | rfl | exact absurd labels (by decide)

/-- The count and the unit told for a whole number of seconds. -/
def ageOf (seconds : ℕ) : ℕ × AgeUnit :=
  let minutes := (seconds + 30) / 60
  let hours := (minutes + 30) / 60
  let days := (hours + 30) / 60
  let months := (days + 15) / 30
  let years := (months + 6) / 12
  if seconds < 60 then (seconds, .seconds)
  else if minutes < 60 then (minutes, .minutes)
  else if hours < 24 then (hours, .hours)
  else if days < 30 then (days, .days)
  else if months < 12 then (months, .months)
  else (years, .years)

/-- The text of an age, if its count fits in an `Int`. -/
def toldText (age : ℕ × AgeUnit) : Option String :=
  if age.1 < 2 ^ 63 then some (agoText age.1 age.2) else none

theorem toInt_natCast (n : ℕ) :
    Double.toInt n = if n < 2 ^ 63 then some (n : ℤ) else none := by
  have nonneg : (0 : ℚ) ≤ n := Nat.cast_nonneg n
  have above : -2 ^ 63 ≤ (n : ℤ) := le_trans (by norm_num) (Int.natCast_nonneg n)
  have below : (n : ℤ) < 2 ^ 63 ↔ n < 2 ^ 63 := by exact_mod_cast Iff.rfl
  simp only [Double.toInt, if_pos nonneg, Int.floor_natCast, above, true_and, below]

/-- Rounding to a larger unit is a division of natural numbers. -/
theorem rounded_div {half : ℕ} (positive : 0 < half) (n : ℕ) :
    Double.rounded ((n : ℚ) / (2 * half : ℕ)) = ((n + half) / (2 * half) : ℕ) := by
  rw [Double.rounded, roundAway_natCast_div positive, Int.cast_natCast]

theorem timeAgoString_eq {s : ℚ} {seconds : ℕ} (whole : roundAway s = seconds)
    (old : 10 ≤ seconds) :
    TimeFormatHelper.timeAgoString s = toldText (ageOf seconds) := by
  have first : Double.rounded s = seconds := by rw [Double.rounded, whole, Int.cast_natCast]
  have not_now : ¬seconds < 10 := Nat.not_lt.mpr old
  have sixtieth (n : ℕ) : Double.rounded ((n : ℚ) / 60) = ((n + 30) / 60 : ℕ) := by
    simpa using rounded_div (show 0 < 30 by norm_num) n
  have thirtieth (n : ℕ) : Double.rounded ((n : ℚ) / 30) = ((n + 15) / 30 : ℕ) := by
    simpa using rounded_div (show 0 < 15 by norm_num) n
  have twelfth (n : ℕ) : Double.rounded ((n : ℚ) / 12) = ((n + 6) / 12 : ℕ) := by
    simpa using rounded_div (show 0 < 6 by norm_num) n
  have told (count : ℕ) (unit : AgeUnit) :
      ((Double.toInt count).bind fun int => some (toString int ++ unit.label)) =
        toldText (count, unit) := by
    rw [toInt_natCast, toldText]
    split_ifs <;> rfl
  simp only [TimeFormatHelper.timeAgoString, first, sixtieth, thirtieth, twelfth,
    Nat.cast_lt_ofNat, not_now, if_false, ageOf]
  split_ifs
  · exact told _ .seconds
  · exact told _ .minutes
  · exact told _ .hours
  · exact told _ .days
  · exact told _ .months
  · exact told _ .years

end Text

/-! ## Accuracy and monotonicity over whole seconds -/

section WholeSeconds

/-- The duration told, in seconds. -/
def duration (age : ℕ × AgeUnit) : ℕ :=
  age.1 * age.2.length

/-- Below the days every unit is within one of the age. -/
theorem ageOf_near {seconds : ℕ} (recent : seconds < 84570) (old : 10 ≤ seconds) :
    1 ≤ (ageOf seconds).1 ∧ seconds + 1 ≤ duration (ageOf seconds) + (ageOf seconds).2.length ∧
      duration (ageOf seconds) + 1 ≤ seconds + (ageOf seconds).2.length := by
  simp only [ageOf]
  split_ifs
  all_goals
    simp only [duration, AgeUnit.length]
    omega

theorem ageOf_zero_days {seconds : ℕ} (lower : 84570 ≤ seconds) (upper : seconds < 106170) :
    ageOf seconds = (0, .days) := by
  have no_days : (((seconds + 30) / 60 + 30) / 60 + 30) / 60 = 0 := by omega
  simp only [ageOf]
  rw [if_neg (by omega), if_neg (by omega), if_neg (by omega), if_pos (by omega), no_days]

theorem ageOf_one_day {seconds : ℕ} (lower : 106170 ≤ seconds) (upper : seconds < 322170) :
    ageOf seconds = (1, .days) := by
  have one_day : (((seconds + 30) / 60 + 30) / 60 + 30) / 60 = 1 := by omega
  simp only [ageOf]
  rw [if_neg (by omega), if_neg (by omega), if_neg (by omega), if_pos (by omega), one_day]

/-- From 90 hours on the age is more than a unit past the duration told. -/
theorem ageOf_far {seconds : ℕ} (lower : 322170 ≤ seconds) :
    duration (ageOf seconds) + (ageOf seconds).2.length + 1 ≤ seconds := by
  simp only [ageOf]
  split_ifs
  all_goals
    simp only [duration, AgeUnit.length]
    omega

theorem duration_mono {younger seconds : ℕ} (le : younger ≤ seconds) (recent : seconds < 84570) :
    duration (ageOf younger) ≤ duration (ageOf seconds) := by
  simp only [ageOf]
  split_ifs
  all_goals
    simp only [duration, AgeUnit.length]
    omega

theorem duration_le_day {seconds : ℕ} (recent : seconds < 322170) :
    duration (ageOf seconds) ≤ AgeUnit.days.length := by
  simp only [ageOf]
  split_ifs
  all_goals
    simp only [duration, AgeUnit.length]
    omega

theorem toldText_of_recent {seconds : ℕ} (recent : seconds < 322170) :
    toldText (ageOf seconds) = some (agoText (ageOf seconds).1 (ageOf seconds).2) := by
  have unit_pos : 1 ≤ (ageOf seconds).2.length := by
    cases (ageOf seconds).2 <;> decide
  have count_le : (ageOf seconds).1 ≤ duration (ageOf seconds) :=
    Nat.le_mul_of_pos_right _ unit_pos
  have day := duration_le_day recent
  have day_length : AgeUnit.days.length = 86400 := rfl
  rw [toldText, if_pos (by omega)]

end WholeSeconds

/-! ## Ages in seconds -/

theorem exists_seconds {s : ℚ} (old : 10 ≤ s) :
    ∃ seconds : ℕ, roundAway s = seconds ∧ 10 ≤ seconds ∧
      (seconds : ℚ) - 1 / 2 ≤ s ∧ s < seconds + 1 / 2 := by
  have nonneg : 0 ≤ s := by linarith
  obtain ⟨seconds, whole⟩ := Int.eq_ofNat_of_zero_le (roundAway_nonneg nonneg)
  obtain ⟨lower, upper⟩ := (roundAway_eq_iff nonneg).mp whole
  rw [Int.cast_natCast] at lower upper
  have above : (10 : ℤ) ≤ roundAway s := by
    rw [le_roundAway_iff nonneg]
    push_cast
    linarith
  exact ⟨seconds, whole, by omega, lower, upper⟩

/-- The duration of a text is that of its age. -/
theorem eq_ageOf {s : ℚ} {seconds count : ℕ} {unit : AgeUnit} (whole : roundAway s = seconds)
    (old : 10 ≤ seconds) (told : TimeFormatHelper.timeAgoString s = some (agoText count unit)) :
    ageOf seconds = (count, unit) := by
  rw [timeAgoString_eq whole old, toldText] at told
  split_ifs at told with fits
  obtain ⟨same_count, same_unit⟩ := agoText_inj (Option.some_inj.mp told)
  exact Prod.ext same_count same_unit

/-- The seconds of an age that is told as hours or less, or as one day. -/
def Recent (seconds : ℕ) : Prop :=
  seconds < 84570 ∨ (106170 ≤ seconds ∧ seconds < 322170)

/-- No younger age is told as a longer duration, up to 90 hours. -/
theorem told_younger {s r : ℚ} {seconds : ℕ} (whole : roundAway s = seconds) (young : 10 ≤ r)
    (le : r ≤ s) (recent : Recent seconds) :
    ∃ earlier smaller, TimeFormatHelper.timeAgoString r = some (agoText earlier smaller) ∧
      earlier * smaller.length ≤ duration (ageOf seconds) := by
  obtain ⟨younger, whole_r, young_old, -, -⟩ := exists_seconds young
  have younger_le : younger ≤ seconds := by
    have rounded_le := roundAway_mono (by linarith : (0 : ℚ) ≤ r) le
    rw [whole, whole_r] at rounded_le
    exact_mod_cast rounded_le
  refine ⟨(ageOf younger).1, (ageOf younger).2, ?_, ?_⟩
  · have bound : younger < 322170 := by
      rw [Recent] at recent
      omega
    rw [timeAgoString_eq whole_r young_old, toldText_of_recent bound]
  · rcases recent with hours | ⟨lower, upper⟩
    · exact duration_mono younger_le hours
    · rw [ageOf_one_day lower upper]
      exact duration_le_day (by omega)

section Accuracy

variable {s : ℚ} {seconds count : ℕ} {unit : AgeUnit}

/-- Of the ages told as days only those of one day are near. -/
theorem accurate_ages (age : ageOf seconds = (count, unit)) (lower : (seconds : ℚ) - 1 / 2 ≤ s)
    (upper : s < seconds + 1 / 2) (some_units : 1 ≤ count)
    (near : |s - count * unit.length| ≤ unit.length) :
    s < 84570 - 1 / 2 ∨ (106170 - 1 / 2 ≤ s ∧ s ≤ 172800) := by
  have upper_bound := (abs_le.mp near).2
  rcases Nat.lt_or_ge seconds 84570 with hours | days
  · have last_hour : (seconds : ℚ) ≤ 84569 := by exact_mod_cast Nat.le_of_lt_succ hours
    left
    linarith
  rcases Nat.lt_or_ge seconds 106170 with zero | positive
  · rw [ageOf_zero_days days zero, Prod.mk.injEq] at age
    omega
  rcases Nat.lt_or_ge seconds 322170 with one | far
  · rw [ageOf_one_day positive one, Prod.mk.injEq] at age
    obtain ⟨rfl, rfl⟩ := age
    have first_day : (106170 : ℚ) ≤ seconds := by exact_mod_cast positive
    norm_num [AgeUnit.length] at upper_bound
    right
    constructor <;> linarith
  · have beyond := ageOf_far far
    rw [age, duration] at beyond
    have beyond_cast : (count : ℚ) * unit.length + unit.length + 1 ≤ seconds := by
      exact_mod_cast beyond
    linarith

theorem recent_of_ages (lower : (seconds : ℚ) - 1 / 2 ≤ s) (upper : s < seconds + 1 / 2)
    (condition : s < 84570 - 1 / 2 ∨ (106170 - 1 / 2 ≤ s ∧ s ≤ 172800)) : Recent seconds := by
  rcases condition with hours | ⟨first_day, second_day⟩
  · have below : (seconds : ℚ) < 84570 := by linarith
    exact Or.inl (by exact_mod_cast below)
  · have above : (106169 : ℚ) < seconds := by linarith
    have below : (seconds : ℚ) < 322170 := by linarith
    have first_second : 106169 < seconds := by exact_mod_cast above
    exact Or.inr ⟨first_second, by exact_mod_cast below⟩

theorem near_of_hours (old : 10 ≤ seconds) (hours : seconds < 84570)
    (lower : (seconds : ℚ) - 1 / 2 ≤ s) (upper : s < seconds + 1 / 2) :
    |s - (ageOf seconds).1 * (ageOf seconds).2.length| ≤ (ageOf seconds).2.length := by
  obtain ⟨-, below, above⟩ := ageOf_near hours old
  rw [duration] at below above
  have below_cast : (seconds : ℚ) + 1 ≤
      (ageOf seconds).1 * (ageOf seconds).2.length + (ageOf seconds).2.length := by
    exact_mod_cast below
  have above_cast : ((ageOf seconds).1 : ℚ) * (ageOf seconds).2.length + 1 ≤
      seconds + (ageOf seconds).2.length := by
    exact_mod_cast above
  rw [abs_le]
  constructor <;> linarith

theorem near_of_day (first_day : 106170 ≤ seconds) (last_day : seconds < 322170)
    (lower : (seconds : ℚ) - 1 / 2 ≤ s) (second_day : s ≤ 172800) :
    |s - (ageOf seconds).1 * (ageOf seconds).2.length| ≤ (ageOf seconds).2.length := by
  have first_second : (106170 : ℚ) ≤ seconds := by exact_mod_cast first_day
  rw [ageOf_one_day first_day last_day, abs_le]
  norm_num [AgeUnit.length]
  constructor <;> linarith

theorem some_units_of_recent (old : 10 ≤ seconds) (recent : Recent seconds) :
    1 ≤ (ageOf seconds).1 := by
  rcases recent with hours | ⟨first_day, last_day⟩
  · exact (ageOf_near hours old).1
  · rw [ageOf_one_day first_day last_day]

end Accuracy

/-- Exactly the ages told within a unit, and not shorter than a younger one. -/
theorem tellsAge_iff (s : ℚ) (old : 10 ≤ s) :
    TellsAge s ↔ s < 84570 - 1 / 2 ∨ (106170 - 1 / 2 ≤ s ∧ s ≤ 172800) := by
  obtain ⟨seconds, whole, seconds_old, lower, upper⟩ := exists_seconds old
  constructor
  · rintro ⟨count, unit, told, some_units, near, -⟩
    have age := eq_ageOf whole seconds_old told
    exact accurate_ages age lower upper some_units near
  · intro condition
    have recent := recent_of_ages lower upper condition
    refine ⟨(ageOf seconds).1, (ageOf seconds).2, ?_, ?_, ?_, fun r young le => ?_⟩
    · have bound : seconds < 322170 := by
        rw [Recent] at recent
        omega
      rw [timeAgoString_eq whole seconds_old, toldText_of_recent bound]
    · exact some_units_of_recent seconds_old recent
    · rcases recent with hours | ⟨first_day, last_day⟩
      · exact near_of_hours seconds_old hours lower upper
      · have first_second : (106170 : ℚ) ≤ seconds := by exact_mod_cast first_day
        apply near_of_day first_day last_day lower
        rcases condition with hours | within
        · linarith
        · exact within.2
    · exact told_younger whole young le recent

theorem tellsAge_iff_one_day :
    TellsAge 86400 ↔ (86400 : ℚ) < 84570 - 1 / 2 ∨
      (106170 - 1 / 2 ≤ (86400 : ℚ) ∧ (86400 : ℚ) ≤ 172800) :=
  tellsAge_iff 86400 (by norm_num)

/-- A day ago is told as 0 days, an hour before that was 23 hours. -/
theorem one_day_is_zero_days :
    ¬(∀ s, 10 ≤ s → TellsAge s) ∧ TimeFormatHelper.timeAgoString 82800 = some "23 hours ago" ∧
      TimeFormatHelper.timeAgoString 86400 = some "0 days ago" := by
  have hours : TimeFormatHelper.timeAgoString 82800 = some "23 hours ago" := by decide +kernel
  have days : TimeFormatHelper.timeAgoString 86400 = some (agoText 0 .days) := by decide +kernel
  refine ⟨fun claimed => ?_, hours, days⟩
  obtain ⟨count, unit, told, some_units, -⟩ := claimed 86400 (by norm_num)
  rw [days, Option.some_inj] at told
  obtain ⟨rfl, -⟩ := agoText_inj told
  omega

end FinanciaApp.Guarantees
