import FinanciaApp.Library.FirstAndLast
import FinanciaApp.Library.Runs
import FinanciaApp.Source.OTPTextFields

/-!
# Any replacement in the fields of a one-time password

A deletion traps where all fields are empty, and a text goes into the first empty field as a
whole. The code stays within the number of fields as long as neither happens to harm.
-/

set_option autoImplicit false

namespace FinanciaApp.Guarantees

open Source Library

/-- A replacement string for the fields; `none` inside is the state after a trap. -/
def editFields (s : Option OTPStackView) (string : List Character) : Option (Option OTPStackView) :=
  some (s.bind fun fields => fields.shouldChangeCharactersIn string)

/-- No trap so far, and the code has no more characters than there are fields. -/
def WithinFields (s : Option OTPStackView) : Prop :=
  ∃ fields, s = some fields ∧ fields.verificationCode.length ≤ fields.texts.length

/-- What is taken for a backspace finds a text to delete, and what goes into an empty field
leaves the code within the number of fields. -/
def Harmless (s : Option OTPStackView) (string : List Character) : Prop :=
  ∀ fields, s = some fields →
    (OTPStackView.isBackSpace string = true → ∃ text ∈ fields.texts, text ≠ []) ∧
    (OTPStackView.isBackSpace string = false → (∃ text ∈ fields.texts, text = []) →
      fields.verificationCode.length + string.length ≤ fields.texts.length)

section Step

variable {fields : OTPStackView} {string : List Character}

theorem withinFields_backspace (within : WithinFields (some fields))
    (back : OTPStackView.isBackSpace string = true) :
    WithinFields (fields.shouldChangeCharactersIn string) ↔
      ∃ text ∈ fields.texts, text ≠ [] := by
  obtain ⟨_, same, bound⟩ := within
  cases same
  constructor
  · rintro ⟨after, changed, -⟩
    by_contra none_filled
    have empty : ∀ text ∈ fields.texts, text = [] := by
      intro text member
      by_contra filled
      exact none_filled ⟨text, member, filled⟩
    rw [OTPStackView.backspace_traps back empty] at changed
    cases changed
  · intro some_filled
    obtain ⟨before, text, after, split, filled, last⟩ := exists_last some_filled
    obtain ⟨cleared, changed, texts⟩ := OTPStackView.backspace_clears back split filled
      fun other member => not_not.mp (last other member)
    rw [OTPStackView.verificationCode_eq, split] at bound
    refine ⟨cleared, changed, ?_⟩
    rw [OTPStackView.verificationCode_eq, texts]
    simp only [List.flatten_append, List.flatten_cons, List.length_append, List.length_cons,
      List.length_nil] at bound ⊢
    omega

theorem withinFields_insertion (within : WithinFields (some fields))
    (forward : OTPStackView.isBackSpace string = false) :
    WithinFields (fields.shouldChangeCharactersIn string) ↔
      ((∃ text ∈ fields.texts, text = []) →
        fields.verificationCode.length + string.length ≤ fields.texts.length) := by
  by_cases some_empty : ∃ text ∈ fields.texts, text = []
  · obtain ⟨before, _, after, split, rfl, first⟩ := exists_first some_empty
    obtain ⟨filled, changed, texts⟩ := OTPStackView.insertion_fills forward split first
    have lengths : filled.texts.length = fields.texts.length := by
      rw [texts, split]
      simp
    have code : filled.verificationCode.length =
        fields.verificationCode.length + string.length := by
      rw [OTPStackView.verificationCode_eq, OTPStackView.verificationCode_eq, texts, split]
      simp only [List.flatten_append, List.flatten_cons, List.length_append, List.length_nil]
      omega
    rw [changed, ← code, ← lengths]
    constructor
    · rintro ⟨_, same, bound⟩ -
      rw [Option.some_inj.mp same]
      exact bound
    · exact fun bound => ⟨filled, rfl, bound some_empty⟩
  · have full : ∀ text ∈ fields.texts, text ≠ [] :=
      fun text member empty => some_empty ⟨text, member, empty⟩
    rw [OTPStackView.insertion_ignored forward full]
    exact iff_of_true within fun present => absurd present some_empty

theorem withinFields_deliver {s t : Option OTPStackView} (within : WithinFields s)
    (edited : editFields s string = some t) : WithinFields t ↔ Harmless s string := by
  obtain ⟨fields, rfl, bound⟩ := within
  obtain rfl : fields.shouldChangeCharactersIn string = t := Option.some_inj.mp edited
  have before : WithinFields (some fields) := ⟨fields, rfl, bound⟩
  cases kind : OTPStackView.isBackSpace string with
  | true =>
    rw [withinFields_backspace before kind]
    simp [Harmless, kind]
  | false =>
    rw [withinFields_insertion before kind]
    simp [Harmless, kind]

end Step

/-- Along exactly the sequences of harmless replacements the handler does not trap and the
code stays within the fields. -/
theorem withinFields_iff_harmless (count : ℕ) (strings : List (List Character)) :
    AlongRun editFields (fun _ _ after => WithinFields after) (some (OTPStackView.ofCount count))
        strings ↔
      AlongRun editFields (fun before string _ => Harmless before string)
        (some (OTPStackView.ofCount count)) strings := by
  apply alongRun_iff_of_invariant WithinFields
  · intro before string after within edited
    exact withinFields_deliver within edited
  · intro before string after within edited harmless
    exact (withinFields_deliver within edited).mpr harmless
  · refine ⟨_, rfl, ?_⟩
    rw [OTPStackView.verificationCode_eq, OTPStackView.ofCount, List.flatten_replicate_nil]
    exact Nat.zero_le _

/-- Deleting in empty fields traps, and a code of six characters pasted into the first of two
fields is submitted as it is. -/
theorem pasted_code_exceeds :
    ¬(∀ count strings, AlongRun editFields (fun _ _ after => WithinFields after)
      (some (OTPStackView.ofCount count)) strings) ∧
    (OTPStackView.ofCount 6).shouldChangeCharactersIn [] = none ∧
    ¬AlongRun editFields (fun _ _ after => WithinFields after) (some (OTPStackView.ofCount 2))
      [List.replicate 6 (Character.single '1')] := by
  have traps : (OTPStackView.ofCount 6).shouldChangeCharactersIn [] = none := by decide +kernel
  refine ⟨fun claimed => ?_, traps, fun along => ?_⟩
  · obtain ⟨⟨fields, changed, -⟩, -⟩ := claimed 6 [[]] _ rfl
    rw [Option.bind_some, traps] at changed
    cases changed
  · obtain ⟨⟨fields, changed, bound⟩, -⟩ := along _ rfl
    have pasted : (OTPStackView.ofCount 2).shouldChangeCharactersIn
        (List.replicate 6 (Character.single '1')) =
        some ⟨[List.replicate 6 (Character.single '1'), []], some 0⟩ := by decide +kernel
    rw [Option.bind_some, pasted, Option.some_inj] at changed
    rw [← changed] at bound
    exact absurd bound (by decide)

end FinanciaApp.Guarantees
