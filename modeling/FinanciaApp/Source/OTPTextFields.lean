import FinanciaApp.Library.CStrings

/-!
# The fields of a one-time password

The text-field delegates of `Core/Helpers/Onboarding/ATCPhoneLoginScreenManager.swift:403-439`
and `ATCPhoneSignUpScreenManager.swift:360-396`, which are the same, and the code that the
buttons collect. A text is a list of characters, and those of different fields do not combine.
A field is its position among the subviews. `none` is the trap of `removeLast()`.
-/

set_option autoImplicit false

namespace FinanciaApp.Source

open Library

/-- The texts of the fields, and the field that has the focus. -/
structure OTPStackView where
  texts : List (List Character)
  firstResponder : Option Nat
  deriving DecidableEq

namespace OTPStackView

def ofCount (count : Nat) : OTPStackView :=
  ⟨List.replicate count [], none⟩

/-- `strcmp(char, "\\b") == -92`. -/
def isBackSpace (string : List Character) : Bool :=
  strcmp (cString string) [92, 98, 0] == -92

/-- The subviews whose text is not empty, with their positions. -/
def fillTextField (s : OTPStackView) : List (List Character × Nat) :=
  s.texts.zipIdx.filter fun field => !field.1.isEmpty

/-- Neither the edited field nor the range is read, and the result is always `false`. -/
def shouldChangeCharactersIn (s : OTPStackView) (string : List Character) : Option OTPStackView :=
  if isBackSpace string then
    let fillTextField := s.fillTextField
    let cleared :=
      match fillTextField.getLast? with
      | some field => { s with texts := s.texts.set field.2 [] }
      | none => s
    if fillTextField.isEmpty then
      none
    else
      match fillTextField.dropLast.getLast? with
      | some field => some { cleared with firstResponder := some field.2 }
      | none => some cleared
  else
    match s.texts.findIdx? List.isEmpty with
    | some field => some ⟨s.texts.set field string, some field⟩
    | none => some s

/-- The code that is submitted. -/
def verificationCode (s : OTPStackView) : List Character :=
  s.texts.foldl (fun code text => code ++ text) []

/-! ## Effects of an edit -/

section Effects

variable {s : OTPStackView} {string text : List Character}
  {before after : List (List Character)}

theorem verificationCode_eq (s : OTPStackView) : s.verificationCode = s.texts.flatten := by
  have collected (texts : List (List Character)) (code : List Character) :
      texts.foldl (fun code text => code ++ text) code = code ++ texts.flatten := by
    induction texts generalizing code with
    | nil => rw [List.foldl_nil, List.flatten_nil, List.append_nil]
    | cons text texts ih => rw [List.foldl_cons, ih, List.flatten_cons, List.append_assoc]
  rw [verificationCode, collected, List.nil_append]

theorem isBackSpace_empty : isBackSpace [] = true := by
  rw [isBackSpace, cString_empty]
  rfl

theorem isBackSpace_single_iff {character : Character} :
    isBackSpace [character] = true ↔ character = Character.nul := by
  rw [isBackSpace, beq_iff_eq, cString_single_iff]

/-- The fields that are not empty, where one is known behind which all are empty. -/
theorem fillTextField_split (split : s.texts = before ++ text :: after) (filled : text ≠ [])
    (last : ∀ text ∈ after, text = []) :
    ∃ earlier, s.fillTextField = earlier ++ [(text, before.length)] := by
  have none_after : ((after.zipIdx (before.length + 1)).filter fun field => !field.1.isEmpty) =
      [] := by
    rw [List.filter_eq_nil_iff]
    rintro ⟨other, position⟩ member
    have empty := last other (List.fst_mem_of_mem_zipIdx member)
    simp [empty]
  refine ⟨before.zipIdx.filter fun field => !field.1.isEmpty, ?_⟩
  rw [fillTextField, split, List.zipIdx_append, List.filter_append, List.zipIdx_cons, Nat.zero_add,
    List.filter_cons_of_pos (by simpa using filled), none_after]

/-- A backspace over empty fields traps. -/
theorem backspace_traps (back : isBackSpace string = true)
    (empty : ∀ text ∈ s.texts, text = []) : s.shouldChangeCharactersIn string = none := by
  have none_filled : s.fillTextField = [] := by
    rw [fillTextField, List.filter_eq_nil_iff]
    rintro ⟨text, position⟩ member
    simp [empty text (List.fst_mem_of_mem_zipIdx member)]
  rw [shouldChangeCharactersIn, if_pos back, none_filled]
  rfl

/-- A backspace empties the last field that is not empty. -/
theorem backspace_clears (back : isBackSpace string = true)
    (split : s.texts = before ++ text :: after) (filled : text ≠ [])
    (last : ∀ text ∈ after, text = []) :
    ∃ t, s.shouldChangeCharactersIn string = some t ∧ t.texts = before ++ [] :: after := by
  obtain ⟨earlier, fields⟩ := fillTextField_split split filled last
  have cleared : s.texts.set before.length [] = before ++ [] :: after := by
    rw [split, List.set_append_right _ _ (Nat.le_refl _), Nat.sub_self, List.set_cons_zero]
  have some_field : (earlier ++ [(text, before.length)]).isEmpty = false := by simp
  rw [shouldChangeCharactersIn, if_pos back, fields]
  simp only [List.getLast?_concat, List.dropLast_concat, some_field, Bool.false_eq_true, if_false]
  cases earlier.getLast? with
  | none => exact ⟨_, rfl, cleared⟩
  | some field => exact ⟨_, rfl, cleared⟩

/-- Every other text goes into the first empty field. -/
theorem insertion_fills (forward : isBackSpace string = false)
    (split : s.texts = before ++ [] :: after) (first : ∀ text ∈ before, text ≠ []) :
    ∃ t, s.shouldChangeCharactersIn string = some t ∧ t.texts = before ++ string :: after := by
  have none_before : before.findIdx? List.isEmpty = none := by
    rw [List.findIdx?_eq_none_iff]
    intro text member
    simpa using first text member
  have found : s.texts.findIdx? List.isEmpty = some before.length := by
    rw [split, List.findIdx?_append, none_before]
    simp [List.findIdx?_cons]
  have written : s.texts.set before.length string = before ++ string :: after := by
    rw [split, List.set_append_right _ _ (Nat.le_refl _), Nat.sub_self, List.set_cons_zero]
  refine ⟨⟨s.texts.set before.length string, some before.length⟩, ?_, written⟩
  rw [shouldChangeCharactersIn, if_neg (by simp [forward]), found]

/-- Without an empty field it is dropped. -/
theorem insertion_ignored (forward : isBackSpace string = false)
    (full : ∀ text ∈ s.texts, text ≠ []) : s.shouldChangeCharactersIn string = some s := by
  have none_empty : s.texts.findIdx? List.isEmpty = none := by
    rw [List.findIdx?_eq_none_iff]
    intro text member
    simpa using full text member
  rw [shouldChangeCharactersIn, if_neg (by simp [forward]), none_empty]

end Effects

end OTPStackView

end FinanciaApp.Source
