import FinanciaApp.Library.Runs
import Mathlib.Algebra.Ring.Parity
import Mathlib.Data.List.Nodup
import Mathlib.Logic.Function.Basic

/-!
# Groups of options

A group has options, some of which are chosen. The user taps an option. In an exclusive group
the tap chooses it instead of all others, or takes the choice back; the group may keep its
choice, which then has to be replaced. In a group that is not exclusive a tap flips its option
alone. `log` lists the options that changed, in the order of the changes.

* `exclusive_run`: an exclusive group has at most one chosen option, and one if it keeps its
  choice.
* `mem_chosen_run`: an option is chosen when it was and changed an even number of times, or was
  not and changed an odd number of times.

`filter_update_self`, `filter_update_false` and `filter_only` are the same for chosen options
that are held as a function.
-/

set_option autoImplicit false

namespace FinanciaApp.Library

universe u

variable {α : Type u} [DecidableEq α]

/-! ## Choices that are held as a function -/

theorem filter_update_false (options : List α) (isOn : α → Bool) (x : α) :
    options.filter (Function.update isOn x false) =
      (options.filter isOn).filter fun y => y ≠ x := by
  rw [List.filter_filter]
  apply List.filter_congr
  intro y _
  by_cases same : y = x <;> simp [same]

/-- The value of one option is flipped. -/
theorem filter_update_self (options : List α) (isOn : α → Bool) (x : α) :
    options.filter (Function.update isOn x !isOn x) =
      options.filter fun y =>
        decide (if y = x then y ∉ options.filter isOn else y ∈ options.filter isOn) := by
  apply List.filter_congr
  intro y there
  by_cases same : y = x
  · subst same
    simp [there]
  · simp [same, there]

/-- Of distinct options, only one is on. -/
theorem filter_only {options : List α} (distinct : options.Nodup) {isOn : α → Bool} {x : α}
    (there : x ∈ options) (on : isOn x = true)
    (off : ∀ y ∈ options, y ≠ x → isOn y = false) : options.filter isOn = [x] := by
  have same : options.filter isOn = options.filter fun y => y == x := by
    apply List.filter_congr
    intro y inOptions
    by_cases isX : y = x
    · simp [isX, on]
    · simp [isX, off y inOptions isX]
  rw [same, List.filter_beq, List.count_eq_one_of_mem distinct there]
  rfl

/-! ## Groups -/

/-- `exclusive` says whether a group that is exclusive keeps its choice. -/
structure ChoiceGroup (α : Type u) where
  options : List α
  exclusive : Option Bool
  chosen : List α
  log : List α

inductive ChoiceEvent (α : Type u) where
  | tap (x : α)
  | keepChoice (keeps : Bool)

namespace ChoiceGroup

/-- The choice after a tap on an option of an exclusive group. -/
def choose (keeps : Bool) (chosen : List α) (x : α) : List α :=
  if x ∈ chosen then if keeps then chosen else chosen.filter fun y => y ≠ x
  else [x]

/-- What that tap changes. -/
def changes (keeps : Bool) (chosen : List α) (x : α) : List α :=
  if x ∈ chosen then if keeps then [] else [x] else chosen ++ [x]

/-- The choice after the option is flipped alone. -/
def flip (options chosen : List α) (x : α) : List α :=
  options.filter fun y => decide (if y = x then y ∉ chosen else y ∈ chosen)

def step (g : ChoiceGroup α) : ChoiceEvent α → Option (ChoiceGroup α)
  | .tap x =>
    if x ∈ g.options then
      match g.exclusive with
      | some keeps =>
        some { g with
          chosen := choose keeps g.chosen x
          log := g.log ++ changes keeps g.chosen x }
      | none => some { g with chosen := flip g.options g.chosen x, log := g.log ++ [x] }
    else none
  | .keepChoice keeps =>
    match g.exclusive, g.options with
    | none, _ => none
    | some _, first :: _ =>
      if keeps = true ∧ g.chosen = [] then
        some { g with exclusive := some keeps, chosen := [first], log := g.log ++ [first] }
      else some { g with exclusive := some keeps }
    | some _, [] => some { g with exclusive := some keeps }

/-- At most one option is chosen in an exclusive group, and one if the group keeps its choice. -/
structure Exclusive (g : ChoiceGroup α) : Prop where
  atMostOne : g.exclusive ≠ none → g.chosen.length ≤ 1
  kept : g.exclusive = some true → g.options ≠ [] → g.chosen ≠ []

theorem step_options {g h : ChoiceGroup α} {e : ChoiceEvent α} (taken : g.step e = some h) :
    h.options = g.options := by
  cases e with
  | tap x =>
    simp only [step] at taken
    split at taken
    · split at taken <;> (cases taken; rfl)
    · cases taken
  | keepChoice keeps =>
    simp only [step] at taken
    split at taken
    · cases taken
    · split at taken <;> (cases taken; rfl)
    · cases taken
      rfl

theorem run_options {g h : ChoiceGroup α} {es : List (ChoiceEvent α)}
    (reached : run step g es = some h) : h.options = g.options :=
  run_invariant (fun m => m.options = g.options)
    (fun _ _ _ before taken => (step_options taken).trans before) rfl reached

theorem choose_length_le (keeps : Bool) {chosen : List α} (x : α) (few : chosen.length ≤ 1) :
    (choose keeps chosen x).length ≤ 1 := by
  unfold choose
  split
  · split
    · exact few
    · exact Nat.le_trans (List.length_filter_le _ _) few
  · exact Nat.le_refl 1

theorem choose_true_ne_nil (chosen : List α) (x : α) : choose true chosen x ≠ [] := by
  unfold choose
  split
  · rename_i there
    simpa using List.ne_nil_of_mem there
  · exact List.cons_ne_nil x []

/-- An option that was not chosen is the only one after a tap on it, whatever was chosen. -/
theorem choose_of_not_mem (keeps : Bool) {chosen : List α} {x : α} (other : x ∉ chosen) :
    choose keeps chosen x = [x] := if_neg other

theorem exclusive_step {g h : ChoiceGroup α} {e : ChoiceEvent α} (start : g.Exclusive)
    (taken : g.step e = some h) : h.Exclusive := by
  cases e with
  | tap x =>
    simp only [step] at taken
    split at taken
    · split at taken
      · rename_i keeps isExclusive
        cases taken
        refine ⟨fun _ => ?_, fun keeping _ => ?_⟩
        · exact choose_length_le keeps x (start.atMostOne (by simp [isExclusive]))
        · dsimp only at keeping
          rw [isExclusive] at keeping
          cases keeping
          exact choose_true_ne_nil g.chosen x
      · rename_i notExclusive
        cases taken
        exact ⟨fun isExclusive => absurd notExclusive isExclusive,
          fun keeping => absurd (notExclusive.symm.trans keeping) (by simp)⟩
    · cases taken
  | keepChoice keeps =>
    simp only [step] at taken
    split at taken
    · cases taken
    · rename_i keeping first rest isExclusive isOptions
      have few := start.atMostOne (by simp [isExclusive])
      split at taken
      · cases taken
        exact ⟨fun _ => Nat.le_refl 1, fun _ _ => List.cons_ne_nil first []⟩
      · rename_i notFirst
        cases taken
        refine ⟨fun _ => few, fun isKeeping _ empty => notFirst ⟨?_, empty⟩⟩
        exact Option.some.inj isKeeping
    · rename_i keeping isExclusive isOptions
      cases taken
      exact ⟨fun _ => start.atMostOne (by simp [isExclusive]),
        fun _ nonempty => absurd isOptions nonempty⟩

/-- An exclusive group stays exclusive. -/
theorem exclusive_run {g h : ChoiceGroup α} {es : List (ChoiceEvent α)} (start : g.Exclusive)
    (reached : run step g es = some h) : h.Exclusive :=
  run_invariant Exclusive (fun _ _ _ => exclusive_step) start reached

/-- The choice is one of distinct options. -/
structure Chosen (g : ChoiceGroup α) : Prop where
  distinct : g.options.Nodup
  sublist : g.chosen.Sublist g.options

theorem chosen_step {g h : ChoiceGroup α} {e : ChoiceEvent α} (start : g.Chosen)
    (taken : g.step e = some h) : h.Chosen := by
  have options := step_options taken
  refine ⟨options ▸ start.distinct, ?_⟩
  cases e with
  | tap x =>
    simp only [step] at taken
    split at taken
    · rename_i there
      split at taken
      · rename_i keeps _
        cases taken
        change (choose keeps g.chosen x).Sublist g.options
        unfold choose
        split
        · split
          · exact start.sublist
          · exact List.filter_sublist.trans start.sublist
        · exact List.singleton_sublist.mpr there
      · cases taken
        exact List.filter_sublist
    · cases taken
  | keepChoice keeps =>
    simp only [step] at taken
    split at taken
    · cases taken
    · rename_i keeping first rest isExclusive isOptions
      split at taken
      · cases taken
        change [first].Sublist g.options
        rw [isOptions]
        exact List.singleton_sublist.mpr List.mem_cons_self
      · cases taken
        exact start.sublist
    · cases taken
      exact start.sublist

/-- What a step logs changed, and nothing else did. -/
theorem log_step {g h : ChoiceGroup α} {e : ChoiceEvent α} (start : g.Chosen)
    (taken : g.step e = some h) :
    ∃ changed : List α, h.log = g.log ++ changed ∧
      ∀ x, (x ∈ h.chosen ↔ (x ∈ g.chosen ↔ Even (changed.count x))) := by
  have distinct := start.sublist.nodup start.distinct
  cases e with
  | tap x =>
    simp only [step] at taken
    split at taken
    · rename_i there
      split at taken
      · rename_i keeps _
        cases taken
        refine ⟨changes keeps g.chosen x, rfl, fun y => ?_⟩
        change y ∈ choose keeps g.chosen x ↔ _
        unfold choose changes
        by_cases isChosen : x ∈ g.chosen
        · rw [if_pos isChosen, if_pos isChosen]
          cases keeps with
          | true => simp
          | false =>
            by_cases same : y = x
            · simp [same, isChosen]
            · simp [same, List.count_cons_of_ne (Ne.symm same)]
        · rw [if_neg isChosen, if_neg isChosen, List.count_append]
          by_cases same : y = x
          · subst same
            simp [isChosen, List.count_eq_zero_of_not_mem isChosen]
          · by_cases before : y ∈ g.chosen
            · simp [same, before, List.count_eq_one_of_mem distinct before,
                List.count_cons_of_ne (Ne.symm same)]
            · simp [same, before, List.count_eq_zero_of_not_mem before,
                List.count_cons_of_ne (Ne.symm same)]
      · cases taken
        refine ⟨[x], rfl, fun y => ?_⟩
        change y ∈ flip g.options g.chosen x ↔ _
        by_cases same : y = x
        · subst same
          simp [flip, there]
        · have inOptions : y ∈ g.chosen → y ∈ g.options := fun isChosen =>
            start.sublist.subset isChosen
          simpa [flip, same, List.count_cons_of_ne (Ne.symm same)] using inOptions
    · cases taken
  | keepChoice keeps =>
    simp only [step] at taken
    split at taken
    · cases taken
    · rename_i keeping first rest isExclusive isOptions
      split at taken
      · rename_i isFirst
        cases taken
        refine ⟨[first], rfl, fun y => ?_⟩
        by_cases same : y = first
        · simp [same, isFirst.2]
        · simp [same, isFirst.2, List.count_cons_of_ne (Ne.symm same)]
      · cases taken
        exact ⟨[], (List.append_nil _).symm, fun y => by simp⟩
    · cases taken
      exact ⟨[], (List.append_nil _).symm, fun y => by simp⟩

/-- An option is chosen when it was and changed an even number of times, or was not and changed
an odd number of times. -/
theorem mem_chosen_run {g h : ChoiceGroup α} {es : List (ChoiceEvent α)} (start : g.Chosen)
    (reached : run step g es = some h) :
    ∃ changed : List α, h.log = g.log ++ changed ∧
      ∀ x, (x ∈ h.chosen ↔ (x ∈ g.chosen ↔ Even (changed.count x))) := by
  induction es generalizing g with
  | nil =>
    cases reached
    exact ⟨[], (List.append_nil _).symm, fun x => by simp⟩
  | cons e es ih =>
    obtain ⟨m, taken, rest⟩ := (run_cons_eq_some g h e es).mp reached
    obtain ⟨first, firstLog, firstChosen⟩ := log_step start taken
    obtain ⟨later, laterLog, laterChosen⟩ := ih (chosen_step start taken) rest
    refine ⟨first ++ later, ?_, fun x => ?_⟩
    · rw [laterLog, firstLog, List.append_assoc]
    · rw [laterChosen x, firstChosen x, List.count_append, Nat.even_add]
      tauto

end ChoiceGroup

end FinanciaApp.Library
