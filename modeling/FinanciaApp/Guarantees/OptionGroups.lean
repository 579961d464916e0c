import FinanciaApp.Source.QuickTableViewController

/-!
# The sections of a table are groups of options

The option rows of a section, with their selections and the actions they posted, are a
`ChoiceGroup`: exclusive in a `RadioSection`, free in another section. A tap on an option is a tap
on its group, and no group notices what happens in another section.

* `sections_are_groups`: in every run each section goes through the run of its group.
-/

set_option autoImplicit false

namespace FinanciaApp.Guarantees

open Library Source Source.QuickTableViewController

section Groups

def sectionAt (tableContents : List Section) (index : Nat) : Section :=
  tableContents[index]?.getD (.section_ [])

/-- The blocks that were put on the main queue, in their order. -/
def posted (s : Table) : List Block := s.ran ++ s.options.mainQueue

/-- The option row whose action the block calls. -/
def optionOf : Block → Option RowRef
  | .action (.optionRow ref) => some ref
  | _ => none

/-- The actions that options of the section posted. -/
def actionsOf (options : List RowRef) (blocks : List Block) : List RowRef :=
  (blocks.filterMap optionOf).filter fun ref => ref ∈ options

/-- The section as a group. -/
def groupAt (index : Nat) (s : Table) : ChoiceGroup RowRef where
  options := (sectionAt s.tableContents index).options
  exclusive := (sectionAt s.tableContents index).alwaysSelectsOneOption
  chosen := (sectionAt s.tableContents index).options.filter s.options.isSelected
  log := actionsOf (sectionAt s.tableContents index).options (posted s)

/-- What the group of the section notices of an event. -/
def groupEvents (index : Nat) (s : Table) (e : Event) (_ : Table) : List (ChoiceEvent RowRef) :=
  match e with
  | .didSelectRowAt indexPath =>
    match rowAt s.tableContents indexPath with
    | some (.optionRow option) => if indexPath.section_ = index then [.tap option] else []
    | _ => []
  | .setAlwaysSelectsOneOption set value => if set = index then [.keepChoice value] else []
  | _ => []

theorem sectionAt_eq {tableContents : List Section} {index : Nat} {part : Section}
    (here : tableContents[index]? = some part) : sectionAt tableContents index = part := by
  rw [sectionAt, here, Option.getD_some]

theorem rowAt_of_mem {tableContents : List Section} {index : Nat} {ref : RowRef}
    (there : ref ∈ (sectionAt tableContents index).options) :
    ∃ row, rowAt tableContents ⟨index, row⟩ = some (.optionRow ref) := by
  cases here : tableContents[index]? with
  | none => simp [sectionAt, here, Section.options] at there
  | some part =>
    rw [sectionAt_eq here] at there
    exact (mem_options_iff here ref).mp there

/-- An option belongs to one section. -/
theorem section_unique {tableContents : List Section} (distinct : Distinct tableContents)
    {i j : Nat} {ref : RowRef} (inI : ref ∈ (sectionAt tableContents i).options)
    (inJ : ref ∈ (sectionAt tableContents j).options) : i = j := by
  obtain ⟨p, atP⟩ := rowAt_of_mem inI
  obtain ⟨q, atQ⟩ := rowAt_of_mem inJ
  exact (TableIndexPath.mk.inj (distinct _ _ ref atP atQ)).1

theorem actionsOf_append (options : List RowRef) (before after : List Block) :
    actionsOf options (before ++ after) = actionsOf options before ++ actionsOf options after := by
  simp [actionsOf]

theorem actionsOf_options {options changed : List RowRef}
    (inside : ∀ ref ∈ changed, ref ∈ options) :
    actionsOf options (changed.map fun ref => .action (.optionRow ref)) = changed := by
  rw [actionsOf, List.filterMap_map]
  have same : (optionOf ∘ fun ref => Block.action (.optionRow ref)) = some := rfl
  rw [same, List.filterMap_some]
  exact List.filter_eq_self.mpr (fun ref there => decide_eq_true (inside ref there))

theorem actionsOf_others {options changed : List RowRef}
    (outside : ∀ ref ∈ changed, ref ∉ options) :
    actionsOf options (changed.map fun ref => .action (.optionRow ref)) = [] := by
  rw [actionsOf, List.filterMap_map]
  have same : (optionOf ∘ fun ref => Block.action (.optionRow ref)) = some := rfl
  rw [same, List.filterMap_some]
  exact List.filter_eq_nil_iff.mpr (fun ref there => by simpa using outside ref there)

/-- A group that keeps its section and its selections, and whose options post nothing. -/
theorem group_frame {s t : Table} {index : Nat} (more : List Block)
    (same : sectionAt t.tableContents index = sectionAt s.tableContents index)
    (kept : ∀ ref ∈ (sectionAt s.tableContents index).options,
      t.options.isSelected ref = s.options.isSelected ref)
    (grown : posted t = posted s ++ more)
    (silent : actionsOf (sectionAt s.tableContents index).options more = []) :
    groupAt index t = groupAt index s := by
  have chosen : (sectionAt s.tableContents index).options.filter t.options.isSelected =
      (sectionAt s.tableContents index).options.filter s.options.isSelected :=
    List.filter_congr kept
  simp only [groupAt, same, chosen, grown, actionsOf_append, silent, List.append_nil]

/-- A step that the group does not notice. -/
theorem unnoticed {s t : Table} {index : Nat} (same : groupAt index t = groupAt index s) :
    run ChoiceGroup.step (groupAt index s) [] = some (groupAt index t) :=
  congrArg some same.symm

theorem posted_async (s : Table) (block : Block) :
    posted { s with options := s.options.async block } = posted s ++ [block] := by
  simp [posted, OptionRows.async]

theorem sectionAt_set_self {tableContents : List Section} {index : Nat} {old : Section}
    (here : tableContents[index]? = some old) (new : Section) :
    sectionAt (tableContents.set index new) index = new := by
  have bound := (List.getElem?_eq_some_iff.mp here).choose
  rw [sectionAt, List.getElem?_set_self bound, Option.getD_some]

theorem sectionAt_set_ne {tableContents : List Section} {set index : Nat} (other : set ≠ index)
    (new : Section) :
    sectionAt (tableContents.set set new) index = sectionAt tableContents index := by
  rw [sectionAt, sectionAt, List.getElem?_set_ne other]

/-- The selected options after a toggle. -/
theorem toggle_chosen (rows : OptionRows) {options : List RowRef} (distinct : options.Nodup)
    (keeps : Bool) {option : RowRef} (there : option ∈ options) :
    options.filter (rows.toggle options keeps option).1.isSelected =
      ChoiceGroup.choose keeps (options.filter rows.isSelected) option := by
  cases on : rows.isSelected option with
  | true =>
    have chosen : option ∈ options.filter rows.isSelected := List.mem_filter.mpr ⟨there, on⟩
    rw [ChoiceGroup.choose, if_pos chosen]
    cases keeps with
    | true => rw [OptionRows.toggle_kept rows on, if_pos rfl]
    | false =>
      rw [OptionRows.toggle_selected rows on, OptionRows.setIsSelected_isSelected,
        filter_update_false]
      rfl
  | false =>
    have notChosen : option ∉ options.filter rows.isSelected := by simp [on]
    rw [ChoiceGroup.choose_of_not_mem keeps notChosen]
    apply filter_only distinct there
    · simp [OptionRows.toggle_isSelected, on]
    · intro other inOptions different
      simp [OptionRows.toggle_isSelected, on, inOptions, different]

theorem changes_subset {options : List RowRef} (isSelected : RowRef → Bool) (keeps : Bool)
    {option : RowRef} (there : option ∈ options) :
    ∀ ref ∈ ChoiceGroup.changes keeps (options.filter isSelected) option, ref ∈ options := by
  intro ref changes
  unfold ChoiceGroup.changes at changes
  split at changes
  · split at changes
    · cases changes
    · rwa [List.mem_singleton.mp changes]
  · rcases List.mem_append.mp changes with chosen | isOption
    · exact (List.mem_filter.mp chosen).1
    · rwa [List.mem_singleton.mp isOption]

theorem posted_options {s t : Table} {changed : List Block} (ran : t.ran = s.ran)
    (queue : t.options.mainQueue = s.options.mainQueue ++ changed) :
    posted t = posted s ++ changed := by
  rw [posted, posted, ran, queue, List.append_assoc]

/-- A tap on an option of a radio section. -/
theorem toggled_groups {s : Table} (distinct : Distinct s.tableContents) (index : Nat)
    {indexPath : TableIndexPath} {options : List RowRef} {keeps : Bool} {option : RowRef}
    (here : s.tableContents[indexPath.section_]? = some (.radioSection options keeps))
    (isOption : options[indexPath.row]? = some option) {t : Table}
    (contents : t.tableContents = s.tableContents)
    (toggled : t.options = (s.options.toggle options keeps option).1) (ran : t.ran = s.ran) :
    run ChoiceGroup.step (groupAt index s)
      (if indexPath.section_ = index then [.tap option] else []) = some (groupAt index t) := by
  have there : option ∈ options := List.mem_of_getElem? isOption
  have nodup : options.Nodup := nodup_of_distinct distinct here
  have grown : posted t = posted s ++
      (ChoiceGroup.changes keeps (options.filter s.options.isSelected) option).map
        fun ref => .action (.optionRow ref) := by
    apply posted_options ran
    rw [toggled, OptionRows.toggle_mainQueue s.options nodup keeps there]
  have inside := changes_subset s.options.isSelected keeps there
  by_cases same : indexPath.section_ = index
  · subst same
    have before := sectionAt_eq here
    have after : sectionAt t.tableContents indexPath.section_ = .radioSection options keeps := by
      rw [contents, before]
    rw [if_pos rfl, run_singleton]
    simp only [ChoiceGroup.step, groupAt, before, after, Section.options,
      Section.alwaysSelectsOneOption, if_pos there, grown, actionsOf_append,
      actionsOf_options inside, toggled, toggle_chosen s.options nodup keeps there]
  · rw [if_neg same]
    have outside : ∀ ref ∈ (sectionAt s.tableContents index).options, ref ∉ options := by
      intro ref inSection inOptions
      rw [← show (sectionAt s.tableContents indexPath.section_).options = options by
        rw [sectionAt_eq here]; rfl] at inOptions
      exact same (section_unique distinct inOptions inSection)
    refine unnoticed (group_frame _ (by rw [contents]) ?_ grown ?_)
    · intro ref inSection
      have other : ref ≠ option := by
        intro isRef
        exact outside ref inSection (isRef ▸ there)
      rw [toggled, OptionRows.toggle_isSelected]
      cases s.options.isSelected option <;> cases keeps <;>
        simp [other, outside ref inSection]
    · apply actionsOf_others
      intro ref changes inSection
      exact outside ref inSection (inside ref changes)

/-- A tap on an option of another section. -/
theorem flipped_groups {s : Table} (distinct : Distinct s.tableContents) (index : Nat)
    {indexPath : TableIndexPath} {rows : List Row} {option : RowRef}
    (here : s.tableContents[indexPath.section_]? = some (.section_ rows))
    (isOption : rows[indexPath.row]? = some (.optionRow option)) {t : Table}
    (contents : t.tableContents = s.tableContents)
    (flipped : t.options = s.options.setIsSelected option !s.options.isSelected option)
    (ran : t.ran = s.ran) :
    run ChoiceGroup.step (groupAt index s)
      (if indexPath.section_ = index then [.tap option] else []) = some (groupAt index t) := by
  have atPath : rowAt s.tableContents indexPath = some (.optionRow option) := by
    rw [rowAt_of_section here]
    exact isOption
  have there : option ∈ (sectionAt s.tableContents indexPath.section_).options := by
    rw [sectionAt_eq here]
    exact (mem_options_iff here option).mpr ⟨indexPath.row, atPath⟩
  have grown : posted t = posted s ++ [option].map fun ref => .action (.optionRow ref) := by
    apply posted_options ran
    rw [flipped, OptionRows.setIsSelected_not]
    rfl
  by_cases same : indexPath.section_ = index
  · subst same
    have notExclusive :
        (sectionAt s.tableContents indexPath.section_).alwaysSelectsOneOption = none := by
      rw [sectionAt_eq here]
      rfl
    have inside : ∀ ref ∈ [option],
        ref ∈ (sectionAt s.tableContents indexPath.section_).options := by
      intro ref isRef
      rwa [List.mem_singleton.mp isRef]
    rw [if_pos rfl, run_singleton]
    simp only [ChoiceGroup.step, groupAt, contents, notExclusive, if_pos there, grown,
      actionsOf_append, actionsOf_options inside, flipped, OptionRows.setIsSelected_isSelected,
      filter_update_self, ChoiceGroup.flip]
  · have outside : option ∉ (sectionAt s.tableContents index).options := fun inSection =>
      same (section_unique distinct there inSection)
    rw [if_neg same]
    refine unnoticed (group_frame _ (by rw [contents]) ?_ grown ?_)
    · intro ref inSection
      rw [flipped, OptionRows.setIsSelected_isSelected,
        Function.update_of_ne (ne_of_mem_of_not_mem inSection outside)]
    · apply actionsOf_others
      intro ref isRef
      rwa [List.mem_singleton.mp isRef]

/-- `alwaysSelectsOneOption` is set while no option is selected. -/
theorem firstSelected_groups {s : Table} (distinct : Distinct s.tableContents)
    (index : Nat) {set : Nat} {first : RowRef} {rest : List RowRef} {kept : Bool}
    (here : s.tableContents[set]? = some (.radioSection (first :: rest) kept))
    (off : ∀ option ∈ first :: rest, s.options.isSelected option = false) {t : Table}
    (contents : t.tableContents = s.tableContents.set set (.radioSection (first :: rest) true))
    (selected : t.options = s.options.setIsSelected first true) (ran : t.ran = s.ran) :
    run ChoiceGroup.step (groupAt index s)
      (if set = index then [.keepChoice true] else []) = some (groupAt index t) := by
  have nodup : (first :: rest).Nodup := nodup_of_distinct distinct here
  have offFirst := off first List.mem_cons_self
  have grown : posted t = posted s ++ [first].map fun ref => .action (.optionRow ref) := by
    apply posted_options ran
    rw [selected, OptionRows.setIsSelected, if_neg (by simp [offFirst])]
    rfl
  by_cases same : set = index
  · subst same
    have before := sectionAt_eq here
    have after : sectionAt t.tableContents set = .radioSection (first :: rest) true := by
      rw [contents]
      exact sectionAt_set_self here _
    have noneChosen : (first :: rest).filter s.options.isSelected = [] := by
      simpa using off
    have oneChosen : (first :: rest).filter t.options.isSelected = [first] := by
      rw [selected, OptionRows.setIsSelected_isSelected]
      apply filter_only nodup List.mem_cons_self (Function.update_self ..)
      intro other there different
      rw [Function.update_of_ne different]
      exact off other there
    have inside : ∀ ref ∈ [first], ref ∈ first :: rest := by
      intro ref isRef
      rw [List.mem_singleton.mp isRef]
      exact List.mem_cons_self
    rw [if_pos rfl, run_singleton]
    simp only [ChoiceGroup.step, groupAt, before, after, Section.options,
      Section.alwaysSelectsOneOption, noneChosen, oneChosen, grown, actionsOf_append,
      actionsOf_options inside, and_self, if_true]
  · have outside : first ∉ (sectionAt s.tableContents index).options := by
      intro inSection
      apply same
      apply section_unique distinct _ inSection
      rw [sectionAt_eq here]
      exact List.mem_cons_self
    rw [if_neg same]
    refine unnoticed (group_frame _ ?_ ?_ grown ?_)
    · rw [contents, sectionAt_set_ne same]
    · intro ref inSection
      rw [selected, OptionRows.setIsSelected_isSelected,
        Function.update_of_ne (ne_of_mem_of_not_mem inSection outside)]
    · apply actionsOf_others
      intro ref isRef
      rwa [List.mem_singleton.mp isRef]

/-- `alwaysSelectsOneOption` is set, and no option has to be selected. -/
theorem flagSet_groups {s : Table} (index : Nat) {set : Nat} {options : List RowRef}
    {kept value : Bool} (here : s.tableContents[set]? = some (.radioSection options kept))
    (chosen : value = true → options ≠ [] → ∃ option ∈ options, s.options.isSelected option) :
    run ChoiceGroup.step (groupAt index s)
      (if set = index then [.keepChoice value] else []) =
      some (groupAt index
        { s with tableContents := s.tableContents.set set (.radioSection options value) }) := by
  by_cases same : set = index
  · subst same
    have before := sectionAt_eq here
    have after := sectionAt_set_self here (.radioSection options value)
    rw [if_pos rfl, run_singleton]
    cases options with
    | nil =>
      simp only [ChoiceGroup.step, groupAt, before, after, Section.options,
        Section.alwaysSelectsOneOption, posted]
    | cons first rest =>
      have notNeeded :
          ¬(value = true ∧ (first :: rest).filter s.options.isSelected = []) := by
        intro needed
        obtain ⟨option, there, on⟩ := chosen needed.1 (List.cons_ne_nil first rest)
        have kept := List.mem_filter.mpr ⟨there, on⟩
        rw [needed.2] at kept
        cases kept
      simp only [ChoiceGroup.step, groupAt, before, after, Section.options,
        Section.alwaysSelectsOneOption, if_neg notNeeded, posted]
  · rw [if_neg same]
    apply unnoticed
    apply group_frame []
    · exact sectionAt_set_ne same _
    · exact fun _ _ => rfl
    · exact (List.append_nil _).symm
    · rfl

/-- Each step of the table is a step of the group, or the group does not notice it. -/
theorem step_groups {s t : Table} {e : Event} (distinct : Distinct s.tableContents)
    (index : Nat) (taken : step s e = some t) :
    run ChoiceGroup.step (groupAt index s) (groupEvents index s e t) =
      some (groupAt index t) := by
  cases step_cases taken with
  | @toggled indexPath options keeps option here isOption =>
    have atPath : rowAt s.tableContents indexPath = some (.optionRow option) := by
      rw [rowAt_of_section here]
      simp [Section.rows, isOption]
    simp only [groupEvents, atPath]
    exact toggled_groups distinct index here isOption rfl rfl rfl
  | flipped here isOption =>
    have atPath := (rowAt_of_section here).trans isOption
    simp only [groupEvents, atPath]
    exact flipped_groups distinct index here isOption rfl rfl rfl
  | @tapped indexPath row here other =>
    have noEvent (next : Table) : groupEvents index s (.didSelectRowAt indexPath) next = [] := by
      cases row with
      | optionRow ref => exact absurd rfl (other ref)
      | tapActionRow _ _ | navigationRow _ _ _ | switchRow _ => simp only [groupEvents, here]
    have silent : optionOf (.action row) = none := by
      cases row with
      | optionRow ref => exact absurd rfl (other ref)
      | tapActionRow _ _ | navigationRow _ _ _ | switchRow _ => rfl
    rw [noEvent]
    apply unnoticed
    apply group_frame [.action row]
    · rfl
    · exact fun _ _ => rfl
    · exact posted_async s _
    · simp [actionsOf, silent]
  | @accessoryTapped indexPath row here =>
    apply unnoticed
    exact group_frame [.accessoryButtonAction row] rfl (fun _ _ => rfl) (posted_async s _) rfl
  | firstSelected here off => exact firstSelected_groups distinct index here off rfl rfl rfl
  | flagSet here chosen => exact flagSet_groups index here chosen
  | configured _ | endedDisplaying _ => rfl
  | ranBlock queue =>
    apply unnoticed
    apply group_frame []
    · rfl
    · exact fun _ _ => rfl
    · simp [posted, queue]
    · rfl

theorem groupAt_run {s t : Table} {es : List Event} (distinct : Distinct s.tableContents)
    (reached : run step s es = some t) (index : Nat) :
    run ChoiceGroup.step (groupAt index s) (trace step (groupEvents index) s es) =
      some (groupAt index t) :=
  run_trace_on (groupAt index) (fun s => Distinct s.tableContents)
    (fun _ _ _ => distinct_step) (fun _ _ _ distinct => step_groups distinct index)
    distinct reached

/-- In every run no option row gets to a second place, and each section goes through the run of
its group. -/
theorem sections_are_groups {s t : Table} {es : List Event} (distinct : Distinct s.tableContents)
    (reached : run step s es = some t) :
    Distinct t.tableContents ∧ ∀ index,
      run ChoiceGroup.step (groupAt index s) (trace step (groupEvents index) s es) =
        some (groupAt index t) := by
  constructor
  · exact run_invariant (fun s => Distinct s.tableContents)
      (fun _ _ _ before taken => distinct_step before taken) distinct reached
  · exact groupAt_run distinct reached

/-- A table with one section of each kind, on the screen. -/
def sampleTable : Table where
  tableContents :=
    [.section_ [.optionRow 0, .tapActionRow 1 true, .navigationRow 2 true false],
      .radioSection [3, 4, 5] false]
  options := { isSelected := fun ref => ref == 4 || ref == 5, mainQueue := [] }
  cells := fun indexPath =>
    if indexPath.row < 3 ∧ indexPath.section_ < 2 then some .none else none
  ran := []

def sampleTaps : List Event :=
  [.didSelectRowAt ⟨1, 0⟩, .didSelectRowAt ⟨0, 0⟩, .setAlwaysSelectsOneOption 1 true,
    .didSelectRowAt ⟨1, 0⟩, .runBlock]

theorem sampleTable_distinct : Distinct sampleTable.tableContents :=
  distinct_of_nodup (by decide)

theorem sampleTaps_reach : ∃ t, run step sampleTable sampleTaps = some t :=
  Option.isSome_iff_exists.mp (by decide)

theorem sections_are_groups_sample : ∃ t, run step sampleTable sampleTaps = some t ∧
    run ChoiceGroup.step (groupAt 1 sampleTable)
      (trace step (groupEvents 1) sampleTable sampleTaps) = some (groupAt 1 t) := by
  obtain ⟨t, reached⟩ := sampleTaps_reach
  exact ⟨t, reached, (sections_are_groups sampleTable_distinct reached).2 1⟩

end Groups

end FinanciaApp.Guarantees
