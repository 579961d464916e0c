import FinanciaApp.Guarantees.OptionGroups

/-!
# Which options of a table are selected

* `selecting_tap_settles`: whatever the options of a radio section were, from a tap that selects
  one of them on at most one is selected, and one if the section always selects one.
* `actions_follow_changes`: an option has changed since the start of a run exactly when its action
  was posted an odd number of times.
-/

set_option autoImplicit false

namespace FinanciaApp.Guarantees

open Library Source Source.QuickTableViewController

section Settled

/-- At most one option is selected, and one if the section always selects one. -/
structure SelectsOne (rows : OptionRows) (options : List RowRef) (alwaysSelectsOne : Bool) :
    Prop where
  unique : ∀ first ∈ options, ∀ second ∈ options, rows.isSelected first = true →
    rows.isSelected second = true → first = second
  kept : alwaysSelectsOne = true → options ≠ [] → rows.selectedOption options ≠ none

theorem groupAt_radioSection {s : Table} {index : Nat} {options : List RowRef} {keeps : Bool}
    (here : s.tableContents[index]? = some (.radioSection options keeps)) :
    groupAt index s =
      { options := options
        exclusive := some keeps
        chosen := options.filter s.options.isSelected
        log := actionsOf options (posted s) } := by
  simp only [groupAt, sectionAt_eq here, Section.options, Section.alwaysSelectsOneOption]

theorem eq_of_length_le_one {refs : List RowRef} (few : refs.length ≤ 1) {first second : RowRef}
    (inFirst : first ∈ refs) (inSecond : second ∈ refs) : first = second := by
  cases refs with
  | nil => cases inFirst
  | cons head rest =>
    cases rest with
    | nil => rw [List.mem_singleton.mp inFirst, List.mem_singleton.mp inSecond]
    | cons next later => simp at few

theorem selectsOne_of_exclusive {s : Table} {index : Nat} {options : List RowRef} {keeps : Bool}
    (here : s.tableContents[index]? = some (.radioSection options keeps))
    (exclusive : (groupAt index s).Exclusive) : SelectsOne s.options options keeps := by
  rw [groupAt_radioSection here] at exclusive
  refine ⟨?_, ?_⟩
  · intro first inFirst second inSecond firstOn secondOn
    have few := exclusive.atMostOne (Option.some_ne_none keeps)
    have mem {ref : RowRef} (there : ref ∈ options) (on : s.options.isSelected ref = true) :
        ref ∈ options.filter s.options.isSelected := List.mem_filter.mpr ⟨there, on⟩
    exact eq_of_length_le_one few (mem inFirst firstOn) (mem inSecond secondOn)
  · intro keeping nonempty isNone
    apply exclusive.kept (congrArg some keeping) nonempty
    rw [selectedOption_eq_none] at isNone
    simpa using isNone

theorem getElem?_set_flag {tableContents : List Section} {set : Nat} {old : Section}
    (atSet : tableContents[set]? = some old) (new : Section) (index : Nat) :
    (tableContents.set set new)[index]? =
      if set = index then some new else tableContents[index]? := by
  by_cases same : set = index
  · subst same
    rw [List.getElem?_set_self (List.getElem?_eq_some_iff.mp atSet).choose, if_pos rfl]
  · rw [List.getElem?_set_ne same, if_neg same]

/-- A radio section keeps its options. -/
theorem radioSection_step {s t : Table} {e : Event} (taken : step s e = some t) {index : Nat}
    {options : List RowRef} {keeps : Bool}
    (here : s.tableContents[index]? = some (.radioSection options keeps)) :
    ∃ kept, t.tableContents[index]? = some (.radioSection options kept) := by
  have assigned {set : Nat} {old : List RowRef} {kept value : Bool}
      (atSet : s.tableContents[set]? = some (.radioSection old kept)) :
      ∃ kept, (s.tableContents.set set (.radioSection old value))[index]? =
        some (.radioSection options kept) := by
    rw [getElem?_set_flag atSet]
    by_cases same : set = index
    · subst same
      cases atSet.symm.trans here
      exact ⟨value, if_pos rfl⟩
    · exact ⟨keeps, (if_neg same).trans here⟩
  cases step_cases taken with
  | firstSelected atSet _ => exact assigned atSet
  | flagSet atSet _ => exact assigned atSet
  | toggled _ _ | flipped _ _ | tapped _ _ | accessoryTapped _ | configured _
  | endedDisplaying _ | ranBlock _ => exact ⟨keeps, here⟩

theorem radioSection_run {s t : Table} {es : List Event} (reached : run step s es = some t)
    {index : Nat} {options : List RowRef} {keeps : Bool}
    (here : s.tableContents[index]? = some (.radioSection options keeps)) :
    ∃ kept, t.tableContents[index]? = some (.radioSection options kept) := by
  refine run_invariant
    (fun s => ∃ kept, s.tableContents[index]? = some (.radioSection options kept))
    ?_ ⟨keeps, here⟩ reached
  intro s e t before taken
  obtain ⟨kept, atIndex⟩ := before
  exact radioSection_step taken atIndex

/-- A tap selects an option that was not selected, and it alone. -/
theorem exclusive_of_selecting_tap {s t : Table} (distinct : Distinct s.tableContents)
    {indexPath : TableIndexPath} {options : List RowRef} {keeps : Bool} {option : RowRef}
    (here : s.tableContents[indexPath.section_]? = some (.radioSection options keeps))
    (isOption : options[indexPath.row]? = some option)
    (off : s.options.isSelected option = false)
    (taken : step s (.didSelectRowAt indexPath) = some t) :
    (groupAt indexPath.section_ t).Exclusive := by
  have atPath : rowAt s.tableContents indexPath = some (.optionRow option) := by
    rw [rowAt_of_section here]
    simp [Section.rows, isOption]
  have there : option ∈ options := List.mem_of_getElem? isOption
  have notChosen : option ∉ options.filter s.options.isSelected := by simp [off]
  have stepped := step_groups distinct indexPath.section_ taken
  simp only [groupEvents, atPath, if_true] at stepped
  rw [run_singleton, groupAt_radioSection here] at stepped
  simp only [ChoiceGroup.step, if_pos there, ChoiceGroup.choose_of_not_mem keeps notChosen,
    Option.some.injEq] at stepped
  rw [← stepped]
  exact ⟨fun _ => Nat.le_refl 1, fun _ _ => List.cons_ne_nil option []⟩

/-- Whatever the options of a radio section were before, from a tap that selects one of them on
at most one is selected, and one if the section always selects one. -/
theorem selecting_tap_settles {s t : Table} {es : List Event}
    (distinct : Distinct s.tableContents) {indexPath : TableIndexPath} {options : List RowRef}
    {keeps : Bool} {option : RowRef}
    (here : s.tableContents[indexPath.section_]? = some (.radioSection options keeps))
    (isOption : options[indexPath.row]? = some option)
    (off : s.options.isSelected option = false)
    (reached : run step s (.didSelectRowAt indexPath :: es) = some t) :
    ∃ alwaysSelectsOne,
      t.tableContents[indexPath.section_]? = some (.radioSection options alwaysSelectsOne) ∧
        SelectsOne t.options options alwaysSelectsOne := by
  obtain ⟨m, tapped, rest⟩ := (run_cons_eq_some s t _ es).mp reached
  have settled := exclusive_of_selecting_tap distinct here isOption off tapped
  have later := groupAt_run (distinct_step distinct tapped) rest indexPath.section_
  obtain ⟨kept, atEnd⟩ := radioSection_run reached here
  exact ⟨kept, atEnd, selectsOne_of_exclusive atEnd (ChoiceGroup.exclusive_run settled later)⟩

theorem selecting_tap_settles_sample : ∃ t alwaysSelectsOne,
    run step sampleTable sampleTaps = some t ∧
      t.tableContents[1]? = some (.radioSection [3, 4, 5] alwaysSelectsOne) ∧
        SelectsOne t.options [3, 4, 5] alwaysSelectsOne := by
  have here : sampleTable.tableContents[(TableIndexPath.mk 1 0).section_]? =
      some (.radioSection [3, 4, 5] false) := rfl
  have isOption : [3, 4, 5][(TableIndexPath.mk 1 0).row]? = some 3 := rfl
  have off : sampleTable.options.isSelected 3 = false := rfl
  obtain ⟨t, reached⟩ := sampleTaps_reach
  obtain ⟨kept, atEnd, settled⟩ :=
    selecting_tap_settles sampleTable_distinct here isOption off reached
  exact ⟨t, kept, reached, atEnd, settled⟩

end Settled

section Actions

/-- What a step puts on the main queue comes after what was posted before. -/
theorem posted_step {s t : Table} {e : Event} (distinct : Distinct s.tableContents)
    (taken : step s e = some t) : posted s <+: posted t := by
  have grown {rows : OptionRows} {cells : TableIndexPath → Option AccessoryType}
      {tableContents : List Section} (queue : s.options.mainQueue <+: rows.mainQueue) :
      posted s <+: posted
        { tableContents := tableContents, options := rows, cells := cells, ran := s.ran } :=
    (List.prefix_append_right_inj s.ran).mpr queue
  have set (option : RowRef) (value : Bool) :
      s.options.mainQueue <+: (s.options.setIsSelected option value).mainQueue := by
    unfold OptionRows.setIsSelected
    split
    · exact List.prefix_rfl
    · exact List.prefix_append _ _
  cases step_cases taken with
  | toggled here isOption =>
    have nodup := nodup_of_distinct distinct here
    have there := List.mem_of_getElem? isOption
    apply grown
    exact ⟨_, (OptionRows.toggle_mainQueue s.options nodup _ there).symm⟩
  | flipped _ _ | firstSelected _ _ => exact grown (set _ _)
  | tapped _ _ | accessoryTapped _ => exact grown (List.prefix_append _ _)
  | flagSet _ _ | configured _ | endedDisplaying _ => exact grown List.prefix_rfl
  | ranBlock queue => simp [posted, queue]

theorem posted_run {s t : Table} {es : List Event} (distinct : Distinct s.tableContents)
    (reached : run step s es = some t) : posted s <+: posted t := by
  have both : Distinct t.tableContents ∧ posted s <+: posted t := by
    apply run_invariant (fun m => Distinct m.tableContents ∧ posted s <+: posted m) _
      ⟨distinct, List.prefix_rfl⟩ reached
    intro m e n before taken
    exact ⟨distinct_step before.1 taken, before.2.trans (posted_step before.1 taken)⟩
  exact both.2

theorem chosen_groupAt {s : Table} (distinct : Distinct s.tableContents) {index : Nat}
    {part : Section} (here : s.tableContents[index]? = some part) :
    (groupAt index s).Chosen where
  distinct := by
    rw [groupAt, sectionAt_eq here]
    exact nodup_of_distinct distinct here
  sublist := List.filter_sublist

theorem optionOf_eq_some {block : Block} {option : RowRef} :
    optionOf block = some option ↔ block = .action (.optionRow option) := by
  cases block with
  | action row => cases row <;> simp [optionOf]
  | accessoryButtonAction row => simp [optionOf]

theorem count_actionsOf {options : List RowRef} {option : RowRef} (there : option ∈ options)
    (blocks : List Block) :
    (actionsOf options blocks).count option = blocks.count (.action (.optionRow option)) := by
  have counted : (actionsOf options blocks).count option =
      (blocks.filterMap optionOf).count option := by
    apply List.count_filter
    exact decide_eq_true there
  rw [counted]
  clear counted
  induction blocks with
  | nil => rfl
  | cons block rest ih =>
    by_cases same : block = .action (.optionRow option)
    · subst same
      have isOption : optionOf (.action (.optionRow option)) = some option := rfl
      rw [List.filterMap_cons_some isOption, List.count_cons_self, List.count_cons_self, ih]
    · rw [List.count_cons_of_ne same]
      cases isOption : optionOf block with
      | none => rw [List.filterMap_cons_none isOption, ih]
      | some other =>
        have different : other ≠ option := by
          intro isSame
          exact same (optionOf_eq_some.mp (isSame ▸ isOption))
        rw [List.filterMap_cons_some isOption, List.count_cons_of_ne different, ih]

/-- An option has changed since the start of a run exactly when its action was posted an odd
number of times. -/
theorem actions_follow_changes {s t : Table} {es : List Event}
    (distinct : Distinct s.tableContents) (reached : run step s es = some t) :
    ∃ new, posted t = posted s ++ new ∧
      ∀ indexPath option, rowAt s.tableContents indexPath = some (.optionRow option) →
        (t.options.isSelected option ≠ s.options.isSelected option ↔
          Odd (new.count (.action (.optionRow option)))) := by
  obtain ⟨new, grown⟩ := posted_run distinct reached
  refine ⟨new, grown.symm, fun indexPath option atPath => ?_⟩
  obtain ⟨part, here, -⟩ := section_of_rowAt atPath
  have there : option ∈ part.options := (mem_options_iff here option).mpr ⟨indexPath.row, atPath⟩
  have groups := groupAt_run distinct reached indexPath.section_
  have before := sectionAt_eq here
  have after : (sectionAt t.tableContents indexPath.section_).options = part.options := by
    have same := ChoiceGroup.run_options groups
    simpa only [groupAt, before] using same
  obtain ⟨changed, log, chosen⟩ := ChoiceGroup.mem_chosen_run (chosen_groupAt distinct here) groups
  have parity := chosen option
  simp only [groupAt, before, after, List.mem_filter, there, true_and] at log parity
  rw [← grown, actionsOf_append] at log
  rw [← List.append_cancel_left log, count_actionsOf there] at parity
  rw [← Nat.not_even_iff_odd, ne_eq, Bool.eq_iff_iff]
  tauto

theorem actions_follow_changes_sample : ∃ t new,
    run step sampleTable sampleTaps = some t ∧ posted t = posted sampleTable ++ new ∧
      ∀ indexPath option, rowAt sampleTable.tableContents indexPath = some (.optionRow option) →
        (t.options.isSelected option ≠ sampleTable.options.isSelected option ↔
          Odd (new.count (.action (.optionRow option)))) := by
  obtain ⟨t, reached⟩ := sampleTaps_reach
  obtain ⟨new, grown, changed⟩ := actions_follow_changes sampleTable_distinct reached
  exact ⟨t, new, reached, grown, changed⟩

end Actions

end FinanciaApp.Guarantees
