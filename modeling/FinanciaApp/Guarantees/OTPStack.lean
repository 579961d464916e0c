import Mathlib.Data.List.Basic
import FinanciaApp.Library.Runs
import FinanciaApp.Source.OTPTextFields

/-!
# The fields of a one-time password as a bounded stack

Single characters and backspaces push and pop: the first empty field is the one behind the
stack, the last filled one its top. Only the scalar of number 0 is read as a backspace.
-/

set_option autoImplicit false

namespace FinanciaApp.Guarantees

open Source Library

inductive OTPEdit where
  | insertion (character : Character)
  | backspace

/-- The replacement string that the delegate is asked about. -/
def OTPEdit.replacement : OTPEdit → List Character
  | .insertion character => [character]
  | .backspace => []

/-- A stack of at most `bound` characters; a full one takes no more. -/
def editStack (bound : ℕ) (stack : List Character) : OTPEdit → List Character
  | .insertion character => if stack.length < bound then stack ++ [character] else stack
  | .backspace => stack.dropLast

/-- The fields, or `none` after a trap, and the stack beside them. -/
structure OTPSession where
  fields : Option OTPStackView
  stack : List Character

def OTPSession.start (count : ℕ) : OTPSession :=
  ⟨some (OTPStackView.ofCount count), []⟩

def OTPSession.step (count : ℕ) (s : OTPSession) (edit : OTPEdit) : Option OTPSession :=
  some ⟨s.fields.bind fun fields => fields.shouldChangeCharactersIn edit.replacement,
    editStack count s.stack edit⟩

/-- A backspace comes only where some field is not empty. -/
def EditAllowed (s : OTPSession) (edit : OTPEdit) : Prop :=
  edit.replacement = [] → ∃ fields, s.fields = some fields ∧ ∃ text ∈ fields.texts, text ≠ []

/-- One character of the stack in each of the first fields, and nothing in the others. -/
def stackTexts (count : ℕ) (stack : List Character) : List (List Character) :=
  stack.map (fun character => [character]) ++ List.replicate (count - stack.length) []

/-- No trap; the fields hold the stack, and it is the code that is submitted. -/
def SpellsStack (count : ℕ) (s : OTPSession) : Prop :=
  ∃ fields, s.fields = some fields ∧ s.stack.length ≤ count ∧
    fields.texts = stackTexts count s.stack ∧ fields.verificationCode = s.stack

section Step

variable {count : ℕ} {fields : OTPStackView} {stack : List Character} {character : Character}

theorem flatten_singletons (stack : List Character) (empty : ℕ) :
    (stack.map (fun character => [character]) ++ List.replicate empty []).flatten = stack := by
  rw [List.flatten_append, List.flatten_replicate_nil, List.append_nil]
  induction stack with
  | nil => rfl
  | cons first rest ih => rw [List.map_cons, List.flatten_cons, ih, List.singleton_append]

theorem spellsStack_of_texts {s : OTPSession} (known : s.fields = some fields)
    (bound : s.stack.length ≤ count) (texts : fields.texts = stackTexts count s.stack) :
    SpellsStack count s := by
  refine ⟨fields, known, bound, texts, ?_⟩
  rw [OTPStackView.verificationCode_eq, texts, stackTexts, flatten_singletons]

theorem replicate_succ_sub {length : ℕ} (room : length < count) :
    List.replicate (count - length) ([] : List Character) =
      [] :: List.replicate (count - (length + 1)) [] := by
  obtain ⟨more, shown⟩ : ∃ more, count - length = more + 1 := ⟨count - length - 1, by omega⟩
  have rest : count - (length + 1) = more := by omega
  rw [shown, rest, List.replicate_succ]

theorem stackTexts_concat {top : Character} :
    stackTexts count (stack ++ [top]) = stack.map (fun character => [character]) ++
      [top] :: List.replicate (count - (stack.length + 1)) [] := by
  simp [stackTexts]

theorem stackTexts_of_room (room : stack.length < count) :
    stackTexts count stack = stack.map (fun character => [character]) ++
      [] :: List.replicate (count - (stack.length + 1)) [] := by
  rw [stackTexts, replicate_succ_sub room]

theorem singleton_ne_nil {text : List Character}
    (member : text ∈ stack.map fun character => [character]) : text ≠ [] := by
  obtain ⟨character, -, rfl⟩ := List.mem_map.mp member
  exact List.cons_ne_nil _ _

/-- What is read as a backspace pops a stack that is not empty. -/
theorem pops {top : Character} {string : List Character} (room : stack.length < count)
    (texts : fields.texts = stackTexts count (stack ++ [top]))
    (back : OTPStackView.isBackSpace string = true) :
    ∃ t, fields.shouldChangeCharactersIn string = some t ∧ t.texts = stackTexts count stack := by
  rw [stackTexts_concat] at texts
  rw [stackTexts_of_room room]
  exact OTPStackView.backspace_clears back texts (List.cons_ne_nil _ _)
    fun text member => List.eq_of_mem_replicate member

theorem pushes (texts : fields.texts = stackTexts count stack) (room : stack.length < count)
    (forward : OTPStackView.isBackSpace [character] = false) :
    ∃ t, fields.shouldChangeCharactersIn [character] = some t ∧
      t.texts = stackTexts count (stack ++ [character]) := by
  rw [stackTexts_of_room room] at texts
  rw [stackTexts_concat]
  exact OTPStackView.insertion_fills forward texts fun text member => singleton_ne_nil member

theorem ignores (texts : fields.texts = stackTexts count stack) (full : stack.length = count)
    (forward : OTPStackView.isBackSpace [character] = false) :
    fields.shouldChangeCharactersIn [character] = some fields := by
  apply OTPStackView.insertion_ignored forward
  rw [texts, stackTexts, full, Nat.sub_self, List.replicate_zero, List.append_nil]
  exact fun text member => singleton_ne_nil member

theorem texts_of_empty_stack (texts : fields.texts = stackTexts count []) :
    ∀ text ∈ fields.texts, text = [] := by
  rw [texts, stackTexts, List.map_nil, List.nil_append]
  exact fun text member => List.eq_of_mem_replicate member

/-- The scalar of number 0 is pushed on the stack and pops the fields, or traps. -/
theorem not_spellsStack_nul (texts : fields.texts = stackTexts count stack)
    (bound : stack.length ≤ count) :
    ¬SpellsStack count ⟨fields.shouldChangeCharactersIn [Character.nul],
      editStack count stack (.insertion Character.nul)⟩ := by
  have back : OTPStackView.isBackSpace [Character.nul] = true :=
    OTPStackView.isBackSpace_single_iff.mpr rfl
  rintro ⟨after, changed, -, -, code⟩
  rcases List.eq_nil_or_concat' stack with rfl | ⟨stack, top, rfl⟩
  · rw [OTPStackView.backspace_traps back (texts_of_empty_stack texts)] at changed
    cases changed
  · have room : stack.length < count := by
      rw [List.length_append, List.length_singleton] at bound
      omega
    obtain ⟨popped, result, popped_texts⟩ := pops room texts back
    obtain rfl : popped = after := Option.some_inj.mp (result.symm.trans changed)
    have kept : popped.verificationCode = stack := by
      rw [OTPStackView.verificationCode_eq, popped_texts, stackTexts, flatten_singletons]
    have lengths := congrArg List.length (kept.symm.trans code)
    simp only [editStack] at lengths
    split_ifs at lengths
    · simp only [List.length_append, List.length_singleton] at lengths
      omega
    · simp only [List.length_append, List.length_singleton] at lengths
      omega

theorem spellsStack_insertion (texts : fields.texts = stackTexts count stack)
    (bound : stack.length ≤ count) (other : character ≠ Character.nul) :
    SpellsStack count ⟨fields.shouldChangeCharactersIn [character],
      editStack count stack (.insertion character)⟩ := by
  have forward : OTPStackView.isBackSpace [character] = false := by
    rw [Bool.eq_false_iff]
    exact fun back => other (OTPStackView.isBackSpace_single_iff.mp back)
  rcases Nat.lt_or_ge stack.length count with room | full
  · obtain ⟨pushed, result, pushed_texts⟩ := pushes texts room forward
    apply spellsStack_of_texts result
    · simp only [editStack, if_pos room, List.length_append, List.length_singleton]
      omega
    · simp only [editStack, if_pos room]
      exact pushed_texts
  · apply spellsStack_of_texts (ignores texts (Nat.le_antisymm bound full) forward)
    · simp only [editStack, if_neg (Nat.not_lt.mpr full)]
      exact bound
    · simp only [editStack, if_neg (Nat.not_lt.mpr full)]
      exact texts

theorem spellsStack_backspace (texts : fields.texts = stackTexts count stack)
    (bound : stack.length ≤ count) (some_filled : ∃ text ∈ fields.texts, text ≠ []) :
    SpellsStack count ⟨fields.shouldChangeCharactersIn [], editStack count stack .backspace⟩ := by
  rcases List.eq_nil_or_concat' stack with rfl | ⟨stack, top, rfl⟩
  · obtain ⟨text, member, filled⟩ := some_filled
    exact absurd (texts_of_empty_stack texts text member) filled
  · have room : stack.length < count := by
      rw [List.length_append, List.length_singleton] at bound
      omega
    obtain ⟨popped, result, popped_texts⟩ := pops room texts OTPStackView.isBackSpace_empty
    apply spellsStack_of_texts result
    · simp only [editStack, List.dropLast_concat]
      omega
    · simp only [editStack, List.dropLast_concat]
      exact popped_texts

/-- An allowed edit follows the stack unless it inserts the scalar of number 0. -/
theorem spellsStack_step {s t : OTPSession} {edit : OTPEdit} (spells : SpellsStack count s)
    (allowed : EditAllowed s edit) (stepped : s.step count edit = some t) :
    SpellsStack count t ↔ edit ≠ .insertion Character.nul := by
  obtain ⟨fields, known, bound, texts, -⟩ := spells
  obtain rfl := Option.some_inj.mp stepped
  rw [known, Option.bind_some]
  cases edit with
  | insertion character =>
    by_cases nul : character = Character.nul
    · rw [nul]
      exact iff_of_false (not_spellsStack_nul texts bound) fun different => different rfl
    · refine iff_of_true (spellsStack_insertion texts bound nul) fun same => nul ?_
      exact OTPEdit.insertion.inj same
  | backspace =>
    obtain ⟨_, same, some_filled⟩ := allowed rfl
    obtain rfl := Option.some_inj.mp (known.symm.trans same)
    exact iff_of_true (spellsStack_backspace texts bound some_filled) nofun

end Step

/-- Exactly the runs that insert no scalar of number 0 follow the stack. -/
theorem spellsStack_iff_no_nul (count : ℕ) (edits : List OTPEdit)
    (allowed : AlongRun (OTPSession.step count) (fun s edit _ => EditAllowed s edit)
      (OTPSession.start count) edits) :
    AlongRun (OTPSession.step count) (fun _ _ after => SpellsStack count after)
        (OTPSession.start count) edits ↔
      OTPEdit.insertion Character.nul ∉ edits := by
  have start : SpellsStack count (OTPSession.start count) :=
    spellsStack_of_texts rfl (Nat.zero_le count) rfl
  generalize OTPSession.start count = s at start allowed ⊢
  induction edits generalizing s with
  | nil => exact iff_of_true trivial List.not_mem_nil
  | cons edit edits ih =>
    obtain ⟨t, stepped⟩ : ∃ t, s.step count edit = some t := ⟨_, rfl⟩
    obtain ⟨edit_allowed, later_allowed⟩ := allowed t stepped
    have step_iff := spellsStack_step start edit_allowed stepped
    constructor
    · intro along member
      obtain ⟨spelled, later⟩ := along t stepped
      rcases List.mem_cons.mp member with now | afterwards
      · exact step_iff.mp spelled now.symm
      · exact (ih t spelled later_allowed).mp later afterwards
    · intro absent u same
      obtain rfl := Option.some_inj.mp (stepped.symm.trans same)
      have spelled := step_iff.mpr fun now => absent (now ▸ List.mem_cons_self)
      exact ⟨spelled, (ih t spelled later_allowed).mpr fun afterwards =>
        absent (List.mem_cons_of_mem _ afterwards)⟩

/-- Two digits, a backspace and a digit. -/
def digitEdits : List OTPEdit :=
  [.insertion (.single '4'), .insertion (.single '2'), .backspace, .insertion (.single '7')]

theorem digitEdits_allowed :
    AlongRun (OTPSession.step 6) (fun s edit _ => EditAllowed s edit) (OTPSession.start 6)
      digitEdits := by
  have typed (s : OTPSession) (character : Character) : EditAllowed s (.insertion character) :=
    fun empty => absurd empty (List.cons_ne_nil _ _)
  rintro a ⟨⟩
  refine ⟨typed _ _, ?_⟩
  rintro b ⟨⟩
  refine ⟨typed _ _, ?_⟩
  rintro c ⟨⟩
  refine ⟨fun _ => ?_, ?_⟩
  · refine ⟨⟨stackTexts 6 [.single '4', .single '2'], some 1⟩, by decide +kernel, [.single '4'], ?_⟩
    exact ⟨List.mem_cons_self, List.cons_ne_nil _ _⟩
  · exact fun d _ => ⟨typed _ _, trivial⟩

theorem spellsStack_iff_no_nul_digitEdits :
    AlongRun (OTPSession.step 6) (fun _ _ after => SpellsStack 6 after) (OTPSession.start 6)
        digitEdits ↔ OTPEdit.insertion Character.nul ∉ digitEdits :=
  spellsStack_iff_no_nul 6 digitEdits digitEdits_allowed

/-- Behind a digit the scalar of number 0 deletes it, and in empty fields it traps. -/
theorem nul_deletes :
    ¬(∀ count edits, AlongRun (OTPSession.step count) (fun s edit _ => EditAllowed s edit)
        (OTPSession.start count) edits →
      AlongRun (OTPSession.step count) (fun _ _ after => SpellsStack count after)
        (OTPSession.start count) edits) ∧
    ((OTPStackView.mk [[Character.single '4'], []] none).shouldChangeCharactersIn
      [Character.nul]).map OTPStackView.texts = some [[], []] ∧
    (OTPStackView.ofCount 6).shouldChangeCharactersIn [Character.nul] = none := by
  have traps : (OTPStackView.ofCount 6).shouldChangeCharactersIn [Character.nul] = none := by
    decide +kernel
  refine ⟨fun claimed => ?_, by decide +kernel, traps⟩
  have allowed : AlongRun (OTPSession.step 6) (fun s edit _ => EditAllowed s edit)
      (OTPSession.start 6) [.insertion Character.nul] :=
    fun _ _ => ⟨fun empty => absurd empty (List.cons_ne_nil _ _), trivial⟩
  obtain ⟨⟨fields, changed, -⟩, -⟩ := claimed 6 _ allowed _ rfl
  exact absurd (traps.symm.trans changed) nofun

end FinanciaApp.Guarantees
