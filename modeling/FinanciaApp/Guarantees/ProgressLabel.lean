import Mathlib.Tactic.Linarith
import Mathlib.Tactic.NormNum
import Mathlib.Algebra.Order.Floor.Semiring
import FinanciaApp.Source.ATCCircularProgressBar

/-!
# The label of the progress bar

The timer fires until twice the progress has passed, and every firing takes the progress of the
elapsed part of two seconds. So the label ends near the square of the progress.
-/

set_option autoImplicit false

namespace FinanciaApp.Guarantees

open Library Source Source.ATCCircularProgressBar

theorem progress_mem (p : ℚ) : 0 ≤ progress p ∧ progress p ≤ 1 := by
  unfold progress
  split
  · exact ⟨zero_le_one, le_refl 1⟩
  · split
    · exact ⟨le_refl 0, zero_le_one⟩
    · exact ⟨not_lt.mp ‹_›, not_lt.mp ‹_›⟩

/-! ## The firings of the timer -/

/-- How many firings of the timer set the label. -/
def labelFirings (p : ℚ) : Nat := ⌈40 * progress p⌉₊

/-- The label after so many of them. -/
def labelAfter (bar : ATCCircularProgressBar) (p : ℚ) (firings : Nat) : Option ℤ :=
  if firings = 0 then bar.label else some ⌊5 / 2 * progress p * firings⌋

/-- The state after so many of them. -/
structure After (bar : ATCCircularProgressBar) (p : ℚ) (firings : Nat) (state : Animating) :
    Prop where
  constant : state.timer.progressConstant = p
  duration : state.timer.animationDuration = 2 * progress p
  time : state.timer.currentTime = firings / 20
  label : state.bar.label = labelAfter bar p firings
  strokeEnd : state.bar.strokeEnd = progress p
  most : firings ≤ labelFirings p
  stopped : state.timer.isValid = false → firings = labelFirings p

theorem after_scheduledTimer (bar : ATCCircularProgressBar)
    (default : bar.wholeCircleAnimationDuration = 2) (p : ℚ) (withAnimation : Bool) :
    After bar p 0 (scheduledTimer bar p withAnimation) where
  constant := rfl
  duration := by rw [← default]; rfl
  time := by simp [scheduledTimer]
  label := rfl
  strokeEnd := rfl
  most := Nat.zero_le _
  stopped := nofun

theorem firings_lt_iff (p : ℚ) (firings : Nat) :
    firings < labelFirings p ↔ (firings : ℚ) / 20 < 2 * progress p := by
  rw [labelFirings, Nat.lt_ceil]
  constructor
  · intro early
    linarith
  · intro early
    linarith

/-- No firing traps. -/
theorem toInt_label {p : ℚ} {firings : Nat} (early : firings < labelFirings p) :
    Double.toInt (progress p * ((firings / 20 + 1 / 20) / 2 * 100)) =
      some ⌊5 / 2 * progress p * (firings + 1 : Nat)⌋ := by
  obtain ⟨nonneg, most⟩ := progress_mem p
  have before := (firings_lt_iff p firings).mp early
  have some_time : (0 : ℚ) ≤ firings := Nat.cast_nonneg firings
  have same : progress p * (((firings : ℚ) / 20 + 1 / 20) / 2 * 100) =
      5 / 2 * progress p * (firings + 1 : Nat) := by
    push_cast
    ring
  have floorNonneg : 0 ≤ 5 / 2 * progress p * ((firings + 1 : Nat) : ℚ) := by positivity
  have bound : 5 / 2 * progress p * ((firings + 1 : Nat) : ℚ) < 200 := by
    push_cast
    nlinarith
  have low : 0 ≤ ⌊5 / 2 * progress p * ((firings + 1 : Nat) : ℚ)⌋ :=
    Int.floor_nonneg.mpr floorNonneg
  have high : ⌊5 / 2 * progress p * ((firings + 1 : Nat) : ℚ)⌋ < 200 :=
    Int.floor_lt.mpr (by exact_mod_cast bound)
  rw [same, Double.toInt, if_pos floorNonneg, if_pos (by omega)]

section Firings

variable {bar : ATCCircularProgressBar} {p : ℚ} {firings : Nat} {state next : Animating}

/-- An early firing sets the label. -/
theorem fire_early (after : After bar p firings state) (early : firings < labelFirings p) :
    ∃ next, fire state = some next ∧ After bar p (firings + 1) next ∧
      next.timer.isValid = state.timer.isValid := by
  have before := (firings_lt_iff p firings).mp early
  have label := toInt_label early
  unfold fire
  dsimp only
  rw [if_neg (by rw [after.time, after.duration]; exact not_le.mpr before), after.time,
    after.constant, label]
  refine ⟨_, rfl, ?_, rfl⟩
  exact {
    constant := rfl
    duration := after.duration
    time := by
      push_cast
      ring
    label := (if_neg (Nat.succ_ne_zero firings)).symm
    strokeEnd := after.strokeEnd
    most := early
    stopped := fun invalid => absurd (after.stopped invalid) (Nat.ne_of_lt early) }

/-- The firing after the last label stops the timer. -/
theorem fire_last (after : After bar p firings state) (last : firings = labelFirings p) :
    ∃ next, fire state = some next ∧ After bar p firings next ∧ next.timer.isValid = false := by
  have late : ¬(firings : ℚ) / 20 < 2 * progress p := fun early =>
    absurd last (Nat.ne_of_lt ((firings_lt_iff p firings).mpr early))
  unfold fire
  rw [if_pos (by rw [after.time, after.duration]; exact not_lt.mp late)]
  exact ⟨_, rfl, ⟨after.constant, after.duration, after.time, after.label, after.strokeEnd,
    after.most, fun _ => last⟩, rfl⟩

theorem fire_after (after : After bar p firings state) (fired : fire state = some next) :
    ∃ firings, After bar p firings next := by
  cases Nat.lt_or_eq_of_le after.most with
  | inl early =>
    obtain ⟨same, stepped, kept, -⟩ := fire_early after early
    rw [stepped] at fired
    exact ⟨_, Option.some.inj fired ▸ kept⟩
  | inr last =>
    obtain ⟨same, stepped, kept, -⟩ := fire_last after last
    rw [stepped] at fired
    exact ⟨_, Option.some.inj fired ▸ kept⟩

/-- Every state that the timer leads to. -/
theorem run_after {ticks : List Unit} (after : After bar p firings state)
    (ran : run step state ticks = some next) : ∃ firings, After bar p firings next := by
  refine run_invariant (fun state => ∃ firings, After bar p firings state) ?_ ⟨firings, after⟩ ran
  intro state tick next ⟨firings, after⟩ stepped
  unfold step at stepped
  split at stepped
  · exact fire_after after stepped
  · cases stepped

/-- The timer stops. -/
theorem exists_stopped (after : After bar p firings state) :
    ∃ ticks next, run step state ticks = some next ∧ next.timer.isValid = false := by
  induction left : labelFirings p - firings generalizing firings state with
  | zero =>
    cases valid : state.timer.isValid with
    | false => exact ⟨[], state, rfl, valid⟩
    | true =>
      have := after.most
      obtain ⟨next, fired, -, stopped⟩ := fire_last after (by omega)
      refine ⟨[()], next, ?_, stopped⟩
      rw [run, step, if_pos valid, fired]
      rfl
  | succ left ih =>
    obtain ⟨next, fired, kept, same⟩ := fire_early after (by omega)
    obtain ⟨ticks, final, ran, stopped⟩ := ih kept (by omega)
    cases valid : state.timer.isValid with
    | false => exact ⟨[], state, rfl, valid⟩
    | true =>
      refine ⟨() :: ticks, final, ?_, stopped⟩
      rw [run, step, if_pos valid, fired]
      exact ran

end Firings

/-! ## The last label -/

/-- The number in the label is within three of the percentage of the circle that is drawn. -/
def ShowsProgress (state : Animating) : Prop :=
  ∃ number : ℤ, state.bar.label = some number ∧
    |(number : ℚ) - 100 * state.bar.strokeEnd| ≤ 3

/-- No progress and a label near zero before, or one of the fractions near zero or one. -/
def LabelMeetsProgress (bar : ATCCircularProgressBar) (p : ℚ) : Prop :=
  (progress p = 0 ∧ ∃ number : ℤ, bar.label = some number ∧ |number| ≤ 3) ∨
  (0 < progress p ∧ progress p ≤ 3 / 100) ∨
  (62 / 65 ≤ progress p ∧ progress p ≤ 24 / 25) ∨
  (188 / 195 ≤ progress p ∧ progress p ≤ 97 / 100) ∨
  38 / 39 ≤ progress p

/-- For a fraction `q` of the circle and `n` firings. -/
theorem near_floor_iff {q n : ℚ} (nonneg : 0 ≤ q) (le : n ≤ 40) :
    |(⌊5 / 2 * q * n⌋ : ℚ) - 100 * q| ≤ 3 ↔ 100 * q - 3 ≤ (⌊5 / 2 * q * n⌋ : ℚ) := by
  have below := Int.floor_le (5 / 2 * q * n)
  rw [abs_le]
  constructor
  · intro ⟨low, _⟩
    linarith
  · intro low
    refine ⟨by linarith, ?_⟩
    nlinarith

section Fractions

variable {q : ℚ}

theorem lastLabel_low (low : 3 / 100 < q) (high : q ≤ 37 / 40) :
    ¬100 * q - 3 ≤ (⌊5 / 2 * q * ⌈40 * q⌉₊⌋ : ℚ) := by
  intro near
  have below := Int.floor_le (5 / 2 * q * ⌈40 * q⌉₊)
  by_cases small : q ≤ 1 / 20
  · have two : ⌈40 * q⌉₊ ≤ 2 := Nat.ceil_le.mpr (by
      push_cast
      linarith)
    have firings : (⌈40 * q⌉₊ : ℚ) ≤ 2 := by exact_mod_cast two
    have zero : ⌊5 / 2 * q * ⌈40 * q⌉₊⌋ < 1 := Int.floor_lt.mpr (by
      push_cast
      nlinarith)
    have none_shown : (⌊5 / 2 * q * ⌈40 * q⌉₊⌋ : ℚ) ≤ 0 := by
      exact_mod_cast Int.lt_add_one_iff.mp zero
    linarith
  · have firings : (⌈40 * q⌉₊ : ℚ) < 40 * q + 1 := Nat.ceil_lt_add_one (by linarith)
    have square : 5 / 2 * q * ⌈40 * q⌉₊ ≤ 5 / 2 * q * (40 * q + 1) :=
      mul_le_mul_of_nonneg_left firings.le (by linarith)
    nlinarith

theorem lastLabel_below (low : 37 / 40 < q) (high : q ≤ 19 / 20) :
    ¬100 * q - 3 ≤ (⌊5 / 2 * q * ⌈40 * q⌉₊⌋ : ℚ) := by
  intro near
  have below := Int.floor_le (5 / 2 * q * ⌈40 * q⌉₊)
  have few : ⌈40 * q⌉₊ ≤ 38 := Nat.ceil_le.mpr (by
    push_cast
    linarith)
  have firings : (⌈40 * q⌉₊ : ℚ) ≤ 38 := by exact_mod_cast few
  have product : 5 / 2 * q * ⌈40 * q⌉₊ ≤ 5 / 2 * q * 38 :=
    mul_le_mul_of_nonneg_left firings (by linarith)
  linarith

/-- A bound is below a floor exactly if it is below an integer there. -/
theorem le_floor_iff_exists (bound value : ℚ) :
    bound ≤ (⌊value⌋ : ℚ) ↔ ∃ number : ℤ, (number : ℚ) ≤ value ∧ bound ≤ number := by
  constructor
  · intro below
    exact ⟨⌊value⌋, Int.floor_le value, below⟩
  · intro ⟨number, reached, below⟩
    have le : number ≤ ⌊value⌋ := Int.le_floor.mpr reached
    exact below.trans (by exact_mod_cast le)

/-- With 39 firings the label is the floor of `97.5 * q`, and only 93, 94 and 95 are near enough. -/
theorem lastLabel_next (low : 19 / 20 < q) (high : q ≤ 39 / 40) :
    100 * q - 3 ≤ (⌊5 / 2 * q * ⌈40 * q⌉₊⌋ : ℚ) ↔
      (62 / 65 ≤ q ∧ q ≤ 24 / 25) ∨ (188 / 195 ≤ q ∧ q ≤ 97 / 100) ∨ 38 / 39 ≤ q := by
  have firings : ⌈40 * q⌉₊ = 39 := by
    rw [Nat.ceil_eq_iff (by decide)]
    push_cast
    exact ⟨by linarith, by linarith⟩
  rw [firings, le_floor_iff_exists]
  push_cast
  constructor
  · intro ⟨number, reached, near⟩
    have above : 92 < number := by
      have : (92 : ℚ) < number := by linarith
      exact_mod_cast this
    have below : number < 96 := by
      have : (number : ℚ) < 96 := by linarith
      exact_mod_cast this
    obtain rfl | rfl | rfl : number = 93 ∨ number = 94 ∨ number = 95 := by omega
    · push_cast at reached near
      exact .inl ⟨by linarith, by linarith⟩
    · push_cast at reached near
      exact .inr (.inl ⟨by linarith, by linarith⟩)
    · push_cast at reached
      exact .inr (.inr (by linarith))
  · intro fraction
    rcases fraction with ⟨reached, near⟩ | ⟨reached, near⟩ | reached
    · refine ⟨93, ?_, ?_⟩
      · push_cast
        linarith
      · push_cast
        linarith
    · refine ⟨94, ?_, ?_⟩
      · push_cast
        linarith
      · push_cast
        linarith
    · refine ⟨95, ?_, ?_⟩
      · push_cast
        linarith
      · push_cast
        linarith

theorem lastLabel_near_iff (positive : 0 < q) (le : q ≤ 1) :
    100 * q - 3 ≤ (⌊5 / 2 * q * ⌈40 * q⌉₊⌋ : ℚ) ↔
      q ≤ 3 / 100 ∨ (62 / 65 ≤ q ∧ q ≤ 24 / 25) ∨ (188 / 195 ≤ q ∧ q ≤ 97 / 100) ∨
        38 / 39 ≤ q := by
  by_cases few : q ≤ 3 / 100
  · have nonneg : 0 ≤ ⌊5 / 2 * q * ⌈40 * q⌉₊⌋ := Int.floor_nonneg.mpr (by positivity)
    have shown : (0 : ℚ) ≤ (⌊5 / 2 * q * ⌈40 * q⌉₊⌋ : ℚ) := by exact_mod_cast nonneg
    exact iff_of_true (by linarith) (.inl few)
  · rw [or_iff_right few]
    have low := not_le.mp few
    by_cases middle : q ≤ 19 / 20
    · have wrong : ¬100 * q - 3 ≤ (⌊5 / 2 * q * ⌈40 * q⌉₊⌋ : ℚ) := by
        by_cases half : q ≤ 37 / 40
        · exact lastLabel_low low half
        · exact lastLabel_below (not_le.mp half) middle
      refine iff_of_false wrong ?_
      rintro (⟨high, -⟩ | ⟨high, -⟩ | high)
      · linarith
      · linarith
      · linarith
    · by_cases next : q ≤ 39 / 40
      · exact lastLabel_next (not_le.mp middle) next
      · have high := not_le.mp next
        have firings : ⌈40 * q⌉₊ = 40 := by
          rw [Nat.ceil_eq_iff (by decide)]
          push_cast
          exact ⟨by linarith, by linarith⟩
        have above := Int.lt_floor_add_one (5 / 2 * q * (40 : Nat))
        rw [firings]
        push_cast at above ⊢
        exact iff_of_true (by linarith) (.inr (.inr (by linarith)))

end Fractions

/-- Every state in which the timer has stopped shows the progress, exactly where the label meets
it. -/
theorem showsProgress_iff {bar : ATCCircularProgressBar} {p : ℚ} {state : Animating}
    (after : After bar p (labelFirings p) state) :
    ShowsProgress state ↔ LabelMeetsProgress bar p := by
  obtain ⟨nonneg, most⟩ := progress_mem p
  rw [ShowsProgress, after.label, after.strokeEnd, labelAfter, labelFirings, LabelMeetsProgress]
  by_cases zero : progress p = 0
  · rw [zero, mul_zero, Nat.ceil_zero, if_pos rfl]
    have first (number : ℤ) : |(number : ℚ) - 100 * 0| ≤ 3 ↔ |number| ≤ 3 := by
      rw [mul_zero, sub_zero]
      exact_mod_cast Iff.rfl
    simp only [first]
    constructor
    · exact fun shown => .inl ⟨trivial, shown⟩
    · intro meets
      rcases meets with ⟨_, shown⟩ | ⟨positive, _⟩ | ⟨low, _⟩ | ⟨low, _⟩ | low
      · exact shown
      · exact absurd positive (lt_irrefl 0)
      · exact absurd low (by norm_num)
      · exact absurd low (by norm_num)
      · exact absurd low (by norm_num)
  · have positive : 0 < progress p := lt_of_le_of_ne nonneg (Ne.symm zero)
    have fired : ⌈40 * progress p⌉₊ ≠ 0 := (Nat.ceil_pos.mpr (by linarith)).ne'
    have most_fired : ⌈40 * progress p⌉₊ ≤ 40 := Nat.ceil_le.mpr (by
      push_cast
      linarith)
    have firings : (⌈40 * progress p⌉₊ : ℚ) ≤ 40 := by exact_mod_cast most_fired
    rw [if_neg fired]
    simp only [Option.some.injEq, exists_eq_left', zero, false_and, false_or, positive, true_and]
    exact (near_floor_iff nonneg firings).trans (lastLabel_near_iff positive most)

/-- From any bar whose whole circle takes two seconds, the timer stops; what the label shows then
meets the progress for these fractions only. -/
theorem setProgress_label_iff (bar : ATCCircularProgressBar)
    (default : bar.wholeCircleAnimationDuration = 2) (p : ℚ) (withAnimation : Bool) :
    (∃ start ticks final, setProgress bar p withAnimation = some start ∧
      run step start ticks = some final ∧ final.timer.isValid = false) ∧
    ((∀ start ticks final, setProgress bar p withAnimation = some start →
        run step start ticks = some final → final.timer.isValid = false →
        ShowsProgress final) ↔ LabelMeetsProgress bar p) := by
  have scheduled := after_scheduledTimer bar default p withAnimation
  have begins : ∃ start, setProgress bar p withAnimation = some start := by
    cases Nat.lt_or_eq_of_le scheduled.most with
    | inl early => exact (fire_early scheduled early).imp fun _ fired => fired.1
    | inr last => exact (fire_last scheduled last).imp fun _ fired => fired.1
  obtain ⟨start, fired⟩ := begins
  obtain ⟨firings, after⟩ := fire_after scheduled fired
  obtain ⟨ticks, final, ran, stopped⟩ := exists_stopped after
  have ends {ticks : List Unit} {final : Animating} (ran : run step start ticks = some final)
      (stopped : final.timer.isValid = false) : ShowsProgress final ↔ LabelMeetsProgress bar p := by
    obtain ⟨last, reached⟩ := run_after after ran
    exact showsProgress_iff (reached.stopped stopped ▸ reached)
  refine ⟨⟨start, ticks, final, fired, ran, stopped⟩, ?_, ?_⟩
  · intro shows
    exact (ends ran stopped).mp (shows start ticks final fired ran stopped)
  · intro meets other ticks final otherFired ran stopped
    cases fired.symm.trans otherFired
    exact (ends ran stopped).mpr meets

def newBar : ATCCircularProgressBar := ⟨2, 100, some 0, 0, .lineColor, none⟩

theorem setProgress_label_iff_new :
    newBar.wholeCircleAnimationDuration = 2 ∧
      ((∀ start ticks final, setProgress newBar 1 true = some start →
        run step start ticks = some final → final.timer.isValid = false →
        ShowsProgress final) ↔ LabelMeetsProgress newBar 1) :=
  ⟨rfl, (setProgress_label_iff newBar rfl 1 true).2⟩

/-- Half of the circle is drawn, and the label is 25. -/
theorem half_shown_as_a_quarter :
    ¬(∀ bar p withAnimation, bar.wholeCircleAnimationDuration = 2 →
      ∀ start ticks final, setProgress bar p withAnimation = some start →
        run step start ticks = some final → final.timer.isValid = false →
        ShowsProgress final) ∧
    ((setProgress newBar (1 / 2) true).bind fun start =>
      (run step start (List.replicate 20 ())).map fun final =>
        (final.timer.isValid, final.bar.label, final.bar.strokeEnd)) =
      some (false, some 25, 1 / 2) := by
  have stopped : ((setProgress newBar (1 / 2) true).bind fun start =>
      (run step start (List.replicate 20 ())).map fun final =>
        (final.timer.isValid, final.bar.label, final.bar.strokeEnd)) =
      some (false, some 25, 1 / 2) := by
    decide +kernel
  refine ⟨fun claimed => ?_, stopped⟩
  obtain ⟨start, fired, rest⟩ := Option.bind_eq_some_iff.mp stopped
  obtain ⟨final, ran, shown⟩ := Option.map_eq_some_iff.mp rest
  simp only [Prod.mk.injEq] at shown
  obtain ⟨number, label, near⟩ :=
    claimed newBar (1 / 2) true rfl start _ final fired ran shown.1
  rw [shown.2.1] at label
  rw [← Option.some.inj label, shown.2.2] at near
  exact absurd near (by decide +kernel)

end FinanciaApp.Guarantees
