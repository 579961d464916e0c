import FinanciaApp.Library.ChoiceGroups
import FinanciaApp.Library.Composition

/-!
# Tables of sections and rows

`Core/ThirdParty/QuickTableViewController`: the controller, its sections, and the rows that a tap
reaches. Rows are objects. An option row has a selection, which `isSelected` holds at the
reference of the row; the other rows do not change. A `didSet` and a tap put blocks on the main
queue, which runs them in order; what the actions of the client do is not modelled, except that
they can set `alwaysSelectsOneOption`. A cell shows the accessory its row had when the cell was
configured. Switch rows are not selectable on iOS; the switch in their cell is in
`ATCSettingsViewController`. Texts, icons, customizations and the highlight of a tapped row are
left out.
-/

set_option autoImplicit false

namespace FinanciaApp.Source

open Library

namespace QuickTableViewController

abbrev RowRef := Nat

/-- A row without its texts; an action is present or `nil`. -/
inductive Row where
  | optionRow (ref : RowRef)
  | tapActionRow (ref : RowRef) (hasAction : Bool)
  | navigationRow (ref : RowRef) (hasAction : Bool) (hasAccessoryButtonAction : Bool)
  | switchRow (ref : RowRef)
deriving DecidableEq, Repr

inductive AccessoryType where
  | none
  | checkmark
  | disclosureIndicator
  | detailButton
  | detailDisclosureButton
deriving DecidableEq, Repr

/-- A `Section`, or a `RadioSection` of option rows. -/
inductive Section where
  | section_ (rows : List Row)
  | radioSection (options : List RowRef) (alwaysSelectsOneOption : Bool)
deriving DecidableEq, Repr

structure TableIndexPath where
  section_ : Nat
  row : Nat
deriving DecidableEq, Repr

/-- A block on the main queue calls the action of its row, if there is one. -/
inductive Block where
  | action (row : Row)
  | accessoryButtonAction (row : Row)
deriving DecidableEq, Repr

/-- The selections of the option rows, and the main queue. -/
structure OptionRows where
  isSelected : RowRef → Bool
  mainQueue : List Block

/-- `cells` has the accessory of each cell on the screen; `ran` are the blocks that have run. -/
structure Table where
  tableContents : List Section
  options : OptionRows
  cells : TableIndexPath → Option AccessoryType
  ran : List Block

def Section.rows : Section → List Row
  | .section_ rows => rows
  | .radioSection options _ => options.map .optionRow

def Row.isSelectable : Row → Bool
  | .optionRow _ => true
  | .tapActionRow _ hasAction => hasAction
  | .navigationRow _ hasAction _ => hasAction
  | .switchRow _ => false

def Row.accessoryType (isSelected : RowRef → Bool) : Row → AccessoryType
  | .optionRow ref => if isSelected ref then .checkmark else .none
  | .tapActionRow _ _ => .none
  | .navigationRow _ hasAction hasAccessoryButtonAction =>
    match hasAction, hasAccessoryButtonAction with
    | false, false => .none
    | true, false => .disclosureIndicator
    | false, true => .detailButton
    | true, true => .detailDisclosureButton
  | .switchRow _ => .none

/-- `tableContents[indexPath.section].rows[indexPath.row]`. -/
def rowAt (tableContents : List Section) (indexPath : TableIndexPath) : Option Row :=
  tableContents[indexPath.section_]?.bind fun part => part.rows[indexPath.row]?

namespace OptionRows

/-- `option.isSelected = value`, with its `didSet`. -/
def setIsSelected (rows : OptionRows) (option : RowRef) (value : Bool) : OptionRows :=
  if value = rows.isSelected option then rows
  else
    { isSelected := Function.update rows.isSelected option value
      mainQueue := rows.mainQueue ++ [.action (.optionRow option)] }

/-- `indexOfSelectedOption` of a `RadioSection`. -/
def indexOfSelectedOption (rows : OptionRows) (options : List RowRef) : Option Nat :=
  options.findIdx? rows.isSelected

/-- `selectedOption` of a `RadioSection`. -/
def selectedOption (rows : OptionRows) (options : List RowRef) : Option RowRef :=
  (rows.indexOfSelectedOption options).bind fun index => options[index]?

/-- The body of the loop of `toggle`, on the rows and `toggledIndexes`. -/
def toggleElement (option : RowRef) (state : OptionRows × List Nat) (element : RowRef × Nat) :
    OptionRows × List Nat :=
  if element.1 = option then (state.1, state.2 ++ [element.2])
  else if state.1.isSelected element.1 then
    (state.1.setIsSelected element.1 false, state.2 ++ [element.2])
  else state

/-- `toggle` of a `RadioSection`, with the indexes it returns. -/
def toggle (rows : OptionRows) (options : List RowRef) (alwaysSelectsOneOption : Bool)
    (option : RowRef) : OptionRows × List Nat :=
  if rows.isSelected option && alwaysSelectsOneOption then (rows, [])
  else if rows.isSelected option then
    (rows.setIsSelected option (!rows.isSelected option),
      (options.findIdx? fun other => other = option).toList)
  else
    let (cleared, toggledIndexes) := options.zipIdx.foldl (toggleElement option) (rows, [])
    (cleared.setIsSelected option (!cleared.isSelected option), toggledIndexes)

/-- `DispatchQueue.main.async`. -/
def async (rows : OptionRows) (block : Block) : OptionRows :=
  { rows with mainQueue := rows.mainQueue ++ [block] }

end OptionRows

/-- The accessory of the cell at the index path, if it is configured again. -/
def Table.configured (s : Table) (indexPath : TableIndexPath) : Option AccessoryType :=
  match s.cells indexPath with
  | some _ => (rowAt s.tableContents indexPath).map (Row.accessoryType s.options.isSelected)
  | none => none

def Table.reloadRows (s : Table) (changes : List TableIndexPath) : Table :=
  { s with
    cells := fun indexPath =>
      if indexPath ∈ changes then s.configured indexPath else s.cells indexPath }

def Table.reloadData (s : Table) : Table := { s with cells := s.configured }

/-- `tableView(_:didSelectRowAt:)`. -/
def didSelectRowAt (s : Table) (indexPath : TableIndexPath) : Option Table :=
  match s.tableContents[indexPath.section_]?, rowAt s.tableContents indexPath with
  | some (.radioSection options alwaysSelectsOneOption), some (.optionRow option) =>
    let (rows, toggled) := s.options.toggle options alwaysSelectsOneOption option
    let changes := toggled.map fun row => TableIndexPath.mk indexPath.section_ row
    if changes = [] then some { s with options := rows }
    else some ({ s with options := rows }.reloadRows changes)
  | some _, some (.optionRow option) =>
    some { s with
      options := s.options.setIsSelected option !s.options.isSelected option }.reloadData
  | some _, some (.tapActionRow ref hasAction) =>
    some { s with options := s.options.async (.action (.tapActionRow ref hasAction)) }
  | some _, some row =>
    if row.isSelectable then some { s with options := s.options.async (.action row) } else some s
  | _, _ => none

/-- `alwaysSelectsOneOption = value` on the section, with its `didSet`. -/
def setAlwaysSelectsOneOption (s : Table) (index : Nat) (value : Bool) : Option Table :=
  match s.tableContents[index]? with
  | some (.radioSection options _) =>
    let assigned :=
      { s with tableContents := s.tableContents.set index (.radioSection options value) }
    if value = true ∧ s.options.selectedOption options = none then
      match options.head? with
      | some first => some { assigned with options := s.options.setIsSelected first true }
      | none => some assigned
    else some assigned
  | _ => none

inductive Event where
  | didSelectRowAt (indexPath : TableIndexPath)
  | accessoryButtonTapped (indexPath : TableIndexPath)
  | setAlwaysSelectsOneOption (index : Nat) (value : Bool)
  | cellForRowAt (indexPath : TableIndexPath)
  | didEndDisplaying (indexPath : TableIndexPath)
  | runBlock

/-- `none` is a tap that the table view does not report, on a row that is not on the screen or
not selectable, a section that is no `RadioSection`, and an empty queue. -/
def step (s : Table) : Event → Option Table
  | .didSelectRowAt indexPath =>
    match s.cells indexPath, rowAt s.tableContents indexPath with
    | some _, some row => if row.isSelectable then didSelectRowAt s indexPath else none
    | _, _ => none
  | .accessoryButtonTapped indexPath =>
    match s.cells indexPath, rowAt s.tableContents indexPath with
    | some _, some (.navigationRow ref hasAction hasAccessoryButtonAction) =>
      if hasAccessoryButtonAction then
        some { s with
          options := s.options.async
            (.accessoryButtonAction (.navigationRow ref hasAction hasAccessoryButtonAction)) }
      else none
    | _, _ => none
  | .setAlwaysSelectsOneOption index value => setAlwaysSelectsOneOption s index value
  | .cellForRowAt indexPath =>
    match rowAt s.tableContents indexPath with
    | some row =>
      some { s with
        cells := Function.update s.cells indexPath
          (some (row.accessoryType s.options.isSelected)) }
    | none => none
  | .didEndDisplaying indexPath =>
    some { s with cells := Function.update s.cells indexPath none }
  | .runBlock =>
    match s.options.mainQueue with
    | block :: rest =>
      some { s with options := { s.options with mainQueue := rest }, ran := s.ran ++ [block] }
    | [] => none

/-! ## What `toggle` does -/

namespace OptionRows

section Toggles

variable (rows : OptionRows)

theorem setIsSelected_isSelected (option : RowRef) (value : Bool) :
    (rows.setIsSelected option value).isSelected =
      Function.update rows.isSelected option value := by
  unfold setIsSelected
  split
  · rename_i same
    rw [same, Function.update_eq_self]
  · rfl

theorem setIsSelected_not (option : RowRef) :
    rows.setIsSelected option (!rows.isSelected option) =
      { isSelected := Function.update rows.isSelected option !rows.isSelected option
        mainQueue := rows.mainQueue ++ [.action (.optionRow option)] } :=
  if_neg (by simp)

/-- An option other than the toggled one that is selected. -/
def clears (option : RowRef) (element : RowRef) : Bool :=
  rows.isSelected element && !decide (element = option)

theorem clears_setIsSelected (option : RowRef) {element other : RowRef} (value : Bool)
    (different : other ≠ element) :
    (rows.setIsSelected element value).clears option other = rows.clears option other := by
  rw [clears, clears, setIsSelected_isSelected, Function.update_of_ne different]

theorem toggleElement_self (option : RowRef) (toggled : List Nat) (index : Nat) :
    toggleElement option (rows, toggled) (option, index) = (rows, toggled ++ [index]) := if_pos rfl

theorem toggleElement_selected {option element : RowRef} (toggled : List Nat) (index : Nat)
    (other : element ≠ option) (on : rows.isSelected element = true) :
    toggleElement option (rows, toggled) (element, index) =
      (rows.setIsSelected element false, toggled ++ [index]) :=
  (if_neg other).trans (if_pos on)

theorem toggleElement_unselected {option element : RowRef} (toggled : List Nat) (index : Nat)
    (other : element ≠ option) (off : ¬rows.isSelected element = true) :
    toggleElement option (rows, toggled) (element, index) = (rows, toggled) :=
  (if_neg other).trans (if_neg off)

theorem toggleLoop_isSelected (option : RowRef) (toggled : List Nat) (elements : List RowRef)
    (start : Nat) :
    ((elements.zipIdx start).foldl (toggleElement option) (rows, toggled)).1.isSelected =
      fun ref => if ref ∈ elements ∧ ref ≠ option then false else rows.isSelected ref := by
  induction elements generalizing rows toggled start with
  | nil => simp
  | cons first rest ih =>
    rw [List.zipIdx_cons, List.foldl_cons]
    funext ref
    by_cases isOption : first = option
    · subst isOption
      rw [toggleElement_self, ih]
      by_cases isFirst : ref = first <;> simp [isFirst]
    · by_cases on : rows.isSelected first = true
      · rw [toggleElement_selected rows toggled start isOption on, ih, setIsSelected_isSelected]
        by_cases isFirst : ref = first <;> simp [isFirst, isOption]
      · rw [toggleElement_unselected rows toggled start isOption on, ih]
        by_cases isFirst : ref = first
        · simp [isFirst, on]
        · simp [isFirst]

theorem toggleLoop_mainQueue (option : RowRef) (toggled : List Nat) {elements : List RowRef}
    (distinct : elements.Nodup) (start : Nat) :
    ((elements.zipIdx start).foldl (toggleElement option) (rows, toggled)).1.mainQueue =
      rows.mainQueue ++
        (elements.filter (rows.clears option)).map fun ref => .action (.optionRow ref) := by
  induction elements generalizing rows toggled start with
  | nil => simp
  | cons first rest ih =>
    obtain ⟨notLater, distinctRest⟩ := List.nodup_cons.mp distinct
    rw [List.zipIdx_cons, List.foldl_cons]
    by_cases isOption : first = option
    · subst isOption
      rw [toggleElement_self, ih rows _ distinctRest, List.filter_cons_of_neg (by simp [clears])]
    · by_cases on : rows.isSelected first = true
      · have same : rest.filter ((rows.setIsSelected first false).clears option) =
            rest.filter (rows.clears option) := by
          apply List.filter_congr
          intro other later
          exact clears_setIsSelected rows option false (ne_of_mem_of_not_mem later notLater)
        rw [toggleElement_selected rows toggled start isOption on, ih _ _ distinctRest, same,
          List.filter_cons_of_pos (by simp [clears, on, isOption])]
        simp [setIsSelected, on]
      · rw [toggleElement_unselected rows toggled start isOption on, ih rows _ distinctRest,
          List.filter_cons_of_neg (by simp [clears, on])]

theorem toggleLoop_indexes (option : RowRef) (toggled : List Nat) {elements : List RowRef}
    (distinct : elements.Nodup) (start : Nat) :
    ((elements.zipIdx start).foldl (toggleElement option) (rows, toggled)).2 =
      toggled ++ ((elements.zipIdx start).filter fun element =>
        decide (element.1 = option) || rows.isSelected element.1).map Prod.snd := by
  induction elements generalizing rows toggled start with
  | nil => simp
  | cons first rest ih =>
    obtain ⟨notLater, distinctRest⟩ := List.nodup_cons.mp distinct
    rw [List.zipIdx_cons, List.foldl_cons]
    by_cases isOption : first = option
    · subst isOption
      rw [toggleElement_self, ih rows _ distinctRest, List.filter_cons_of_pos (by simp),
        List.map_cons, List.append_assoc, List.singleton_append]
    · by_cases on : rows.isSelected first = true
      · have same : ((rest.zipIdx (start + 1)).filter fun element =>
              decide (element.1 = option) ||
                (rows.setIsSelected first false).isSelected element.1) =
            (rest.zipIdx (start + 1)).filter fun element =>
              decide (element.1 = option) || rows.isSelected element.1 := by
          apply List.filter_congr
          intro element later
          have inRest : element.1 ∈ rest := List.fst_mem_of_mem_zipIdx later
          rw [setIsSelected_isSelected,
            Function.update_of_ne (ne_of_mem_of_not_mem inRest notLater)]
        rw [toggleElement_selected rows toggled start isOption on, ih _ _ distinctRest, same,
          List.filter_cons_of_pos (by simp [on]), List.map_cons, List.append_assoc,
          List.singleton_append]
      · rw [toggleElement_unselected rows toggled start isOption on, ih rows _ distinctRest,
          List.filter_cons_of_neg (by simp [isOption, on])]

/-- A section that keeps its selection ignores a tap on it. -/
theorem toggle_kept {options : List RowRef} {option : RowRef}
    (on : rows.isSelected option = true) : rows.toggle options true option = (rows, []) := by
  simp [toggle, on]

theorem toggle_selected {options : List RowRef} {option : RowRef}
    (on : rows.isSelected option = true) :
    rows.toggle options false option =
      (rows.setIsSelected option false,
        (options.findIdx? fun other => other = option).toList) := by
  simp [toggle, on]

/-- The loop does not touch the option itself, which is selected after it. -/
theorem toggle_unselected (options : List RowRef) (keeps : Bool) {option : RowRef}
    (off : rows.isSelected option = false) :
    rows.toggle options keeps option =
      let state := options.zipIdx.foldl (toggleElement option) (rows, [])
      ({ isSelected := Function.update state.1.isSelected option true
         mainQueue := state.1.mainQueue ++ [.action (.optionRow option)] }, state.2) := by
  have still : (options.zipIdx.foldl (toggleElement option) (rows, [])).1.isSelected option =
      false := by
    simp [toggleLoop_isSelected, off]
  simp [toggle, off, setIsSelected, still]

/-- The selections after a toggle. -/
theorem toggle_isSelected (options : List RowRef) (keeps : Bool) (option ref : RowRef) :
    (rows.toggle options keeps option).1.isSelected ref =
      if rows.isSelected option then
        if keeps then rows.isSelected ref else rows.isSelected ref && !decide (ref = option)
      else decide (ref = option) || (rows.isSelected ref && !decide (ref ∈ options)) := by
  cases on : rows.isSelected option with
  | true =>
    cases keeps with
    | true => rw [toggle_kept rows on, if_pos rfl, if_pos rfl]
    | false =>
      rw [toggle_selected rows on, setIsSelected_isSelected]
      by_cases isOption : ref = option <;> simp [isOption]
  | false =>
    rw [toggle_unselected rows options keeps on]
    by_cases isOption : ref = option
    · simp [isOption]
    · simp only [Function.update_of_ne isOption, toggleLoop_isSelected]
      by_cases inOptions : ref ∈ options <;> simp [isOption, inOptions]

/-- What a toggle puts on the main queue: one action for each option that changes. -/
theorem toggle_mainQueue {options : List RowRef} (distinct : options.Nodup) (keeps : Bool)
    {option : RowRef} (there : option ∈ options) :
    (rows.toggle options keeps option).1.mainQueue =
      rows.mainQueue ++
        (ChoiceGroup.changes keeps (options.filter rows.isSelected) option).map
          fun ref => .action (.optionRow ref) := by
  cases on : rows.isSelected option with
  | true =>
    have chosen : option ∈ options.filter rows.isSelected := List.mem_filter.mpr ⟨there, on⟩
    rw [ChoiceGroup.changes, if_pos chosen]
    cases keeps with
    | true => simp [toggle_kept rows on]
    | false => simp [toggle_selected rows on, setIsSelected, on]
  | false =>
    have notChosen : option ∉ options.filter rows.isSelected := by simp [on]
    have same : options.filter (rows.clears option) = options.filter rows.isSelected := by
      apply List.filter_congr
      intro other _
      by_cases isOption : other = option <;> simp [clears, isOption, on]
    rw [ChoiceGroup.changes, if_neg notChosen, toggle_unselected rows options keeps on]
    simp only [toggleLoop_mainQueue rows option [] distinct 0, same, List.map_append,
      List.append_assoc, List.map_cons, List.map_nil]

/-- A toggle returns the indexes of the options that change. -/
theorem mem_toggle_indexes {options : List RowRef} (distinct : options.Nodup) (keeps : Bool)
    (option : RowRef) {index : Nat} {ref : RowRef} (here : options[index]? = some ref) :
    index ∈ (rows.toggle options keeps option).2 ↔
      (rows.toggle options keeps option).1.isSelected ref ≠ rows.isSelected ref := by
  rw [toggle_isSelected]
  cases on : rows.isSelected option with
  | true =>
    cases keeps with
    | true => simp [toggle_kept rows on]
    | false =>
      have found : index ∈ (options.findIdx? fun other => other = option).toList ↔
          ref = option := by
        rw [Option.mem_toList, List.findIdx?_eq_some_iff_getElem]
        obtain ⟨bound, rfl⟩ := List.getElem?_eq_some_iff.mp here
        constructor
        · intro isFirst
          obtain ⟨_, isOption, -⟩ := isFirst
          exact of_decide_eq_true isOption
        · intro isOption
          refine ⟨bound, decide_eq_true isOption, fun earlier before isEarlier => ?_⟩
          have same := (List.Nodup.getElem_inj_iff distinct).mp
            ((of_decide_eq_true isEarlier).trans isOption.symm)
          exact Nat.ne_of_lt before same
      rw [toggle_selected rows on]
      exact found.trans (by by_cases isOption : ref = option <;> simp [isOption, on])
  | false =>
    have found : index ∈ (rows.toggle options keeps option).2 ↔
        ref = option ∨ rows.isSelected ref = true := by
      rw [toggle_unselected rows options keeps on]
      simp only [toggleLoop_indexes rows option [] distinct 0, List.nil_append, List.mem_map,
        List.mem_filter, Bool.or_eq_true, decide_eq_true_eq]
      constructor
      · intro isToggled
        obtain ⟨⟨element, position⟩, ⟨inZip, changes⟩, rfl⟩ := isToggled
        have same : options[position]? = some element := List.mk_mem_zipIdx_iff_getElem?.mp inZip
        cases same.symm.trans here
        exact changes
      · intro changes
        exact ⟨(ref, index), ⟨List.mk_mem_zipIdx_iff_getElem?.mpr here, changes⟩, rfl⟩
    have inOptions : ref ∈ options := List.mem_of_getElem? here
    rw [found]
    by_cases isOption : ref = option
    · simp [isOption, on]
    · simp [isOption, inOptions]

end Toggles

end OptionRows

/-! ## What a step does -/

/-- `row as? OptionRowCompatible`. -/
def Row.asOption : Row → Option RowRef
  | .optionRow ref => some ref
  | _ => none

/-- The option rows of a section. -/
def Section.options : Section → List RowRef
  | .section_ rows => rows.filterMap Row.asOption
  | .radioSection options _ => options

/-- `alwaysSelectsOneOption` of a `RadioSection`. -/
def Section.alwaysSelectsOneOption : Section → Option Bool
  | .section_ _ => none
  | .radioSection _ alwaysSelectsOneOption => some alwaysSelectsOneOption

theorem reloadRows_nil (s : Table) : s.reloadRows [] = s := by
  simp [Table.reloadRows]

theorem rowAt_of_section {tableContents : List Section} {indexPath : TableIndexPath}
    {part : Section} (here : tableContents[indexPath.section_]? = some part) :
    rowAt tableContents indexPath = part.rows[indexPath.row]? := by
  rw [rowAt, here, Option.bind_some]

theorem section_of_rowAt {tableContents : List Section} {indexPath : TableIndexPath} {row : Row}
    (here : rowAt tableContents indexPath = some row) :
    ∃ part, tableContents[indexPath.section_]? = some part ∧
      part.rows[indexPath.row]? = some row := Option.bind_eq_some_iff.mp here

/-- All that a step can do. -/
inductive Effect (s : Table) : Event → Table → Prop where
  | toggled {indexPath : TableIndexPath} {options : List RowRef} {keeps : Bool} {option : RowRef}
      (here : s.tableContents[indexPath.section_]? = some (.radioSection options keeps))
      (isOption : options[indexPath.row]? = some option) :
      Effect s (.didSelectRowAt indexPath)
        ({ s with options := (s.options.toggle options keeps option).1 }.reloadRows
          ((s.options.toggle options keeps option).2.map fun row =>
            TableIndexPath.mk indexPath.section_ row))
  | flipped {indexPath : TableIndexPath} {rows : List Row} {option : RowRef}
      (here : s.tableContents[indexPath.section_]? = some (.section_ rows))
      (isOption : rows[indexPath.row]? = some (.optionRow option)) :
      Effect s (.didSelectRowAt indexPath)
        { s with
          options := s.options.setIsSelected option !s.options.isSelected option }.reloadData
  | tapped {indexPath : TableIndexPath} {row : Row}
      (here : rowAt s.tableContents indexPath = some row) (other : ∀ ref, row ≠ .optionRow ref) :
      Effect s (.didSelectRowAt indexPath)
        { s with options := s.options.async (.action row) }
  | accessoryTapped {indexPath : TableIndexPath} {row : Row}
      (here : rowAt s.tableContents indexPath = some row) :
      Effect s (.accessoryButtonTapped indexPath)
        { s with options := s.options.async (.accessoryButtonAction row) }
  | firstSelected {index : Nat} {first : RowRef} {rest : List RowRef} {kept : Bool}
      (here : s.tableContents[index]? = some (.radioSection (first :: rest) kept))
      (none : ∀ option ∈ first :: rest, s.options.isSelected option = false) :
      Effect s (.setAlwaysSelectsOneOption index true)
        { s with
          tableContents := s.tableContents.set index (.radioSection (first :: rest) true)
          options := s.options.setIsSelected first true }
  | flagSet {index : Nat} {options : List RowRef} {kept value : Bool}
      (here : s.tableContents[index]? = some (.radioSection options kept))
      (some : value = true → options ≠ [] → ∃ option ∈ options, s.options.isSelected option) :
      Effect s (.setAlwaysSelectsOneOption index value)
        { s with tableContents := s.tableContents.set index (.radioSection options value) }
  | configured {indexPath : TableIndexPath} {row : Row}
      (here : rowAt s.tableContents indexPath = some row) :
      Effect s (.cellForRowAt indexPath)
        { s with
          cells := Function.update s.cells indexPath
            (some (row.accessoryType s.options.isSelected)) }
  | endedDisplaying (indexPath : TableIndexPath) :
      Effect s (.didEndDisplaying indexPath)
        { s with cells := Function.update s.cells indexPath none }
  | ranBlock {block : Block} {rest : List Block}
      (queue : s.options.mainQueue = block :: rest) :
      Effect s .runBlock
        { s with options := { s.options with mainQueue := rest }, ran := s.ran ++ [block] }

theorem didSelectRowAt_effect {s t : Table} {indexPath : TableIndexPath} {row : Row}
    (here : rowAt s.tableContents indexPath = some row) (selectable : row.isSelectable = true)
    (taken : didSelectRowAt s indexPath = some t) : Effect s (.didSelectRowAt indexPath) t := by
  obtain ⟨part, inSection, inRows⟩ := section_of_rowAt here
  simp only [didSelectRowAt, inSection, here] at taken
  cases row with
  | optionRow option =>
    cases part with
    | section_ rows =>
      cases taken
      exact .flipped inSection inRows
    | radioSection options keeps =>
      have isOption : options[indexPath.row]? = some option := by
        simpa [Section.rows] using inRows
      dsimp only at taken
      split at taken
      · rename_i unchanged
        cases taken
        have effect := Effect.toggled inSection isOption
        rwa [unchanged, reloadRows_nil] at effect
      · cases taken
        exact .toggled inSection isOption
  | tapActionRow ref hasAction =>
    cases part with
    | section_ rows =>
      cases taken
      exact .tapped here (fun _ => Row.noConfusion)
    | radioSection options keeps => simp [Section.rows] at inRows
  | navigationRow ref hasAction hasAccessoryButtonAction =>
    cases part with
    | section_ rows =>
      dsimp only at taken
      rw [if_pos selectable] at taken
      cases taken
      exact .tapped here (fun _ => Row.noConfusion)
    | radioSection options keeps => simp [Section.rows] at inRows
  | switchRow ref => cases selectable

theorem selectedOption_eq_none (rows : OptionRows) (options : List RowRef) :
    rows.selectedOption options = none ↔
      ∀ option ∈ options, rows.isSelected option = false := by
  unfold OptionRows.selectedOption OptionRows.indexOfSelectedOption
  cases found : options.findIdx? rows.isSelected with
  | none => simpa using List.findIdx?_eq_none_iff.mp found
  | some index =>
    obtain ⟨bound, on, -⟩ := List.findIdx?_eq_some_iff_getElem.mp found
    rw [Option.bind_some, List.getElem?_eq_getElem bound]
    constructor
    · intro isNone
      cases isNone
    · intro off
      exact absurd on (by simp [off options[index] (List.getElem_mem bound)])

theorem setAlwaysSelectsOneOption_effect {s t : Table} {index : Nat} {value : Bool}
    (taken : setAlwaysSelectsOneOption s index value = some t) :
    Effect s (.setAlwaysSelectsOneOption index value) t := by
  unfold setAlwaysSelectsOneOption at taken
  split at taken
  · rename_i options kept here
    dsimp only at taken
    split at taken
    · rename_i needsOne
      obtain ⟨rfl, isNone⟩ := needsOne
      have off := (selectedOption_eq_none s.options options).mp isNone
      cases options with
      | nil =>
        cases taken
        exact .flagSet here (fun _ nonempty => absurd rfl nonempty)
      | cons first rest =>
        cases taken
        exact .firstSelected here off
    · rename_i needsNone
      cases taken
      refine .flagSet here (fun isTrue _ => ?_)
      have isSome := mt (selectedOption_eq_none s.options options).mpr
        (fun off => needsNone ⟨isTrue, off⟩)
      simpa using isSome
  · cases taken

theorem step_cases {s t : Table} {e : Event} (taken : step s e = some t) : Effect s e t := by
  cases e with
  | didSelectRowAt indexPath =>
    simp only [step] at taken
    split at taken
    · rename_i here
      split at taken
      · rename_i selectable
        exact didSelectRowAt_effect here selectable taken
      · cases taken
    · cases taken
  | accessoryButtonTapped indexPath =>
    simp only [step] at taken
    split at taken
    · rename_i here
      split at taken
      · cases taken
        exact .accessoryTapped here
      · cases taken
    · cases taken
  | setAlwaysSelectsOneOption index value => exact setAlwaysSelectsOneOption_effect taken
  | cellForRowAt indexPath =>
    simp only [step] at taken
    split at taken
    · rename_i here
      cases taken
      exact .configured here
    · cases taken
  | didEndDisplaying indexPath =>
    cases taken
    exact .endedDisplaying indexPath
  | runBlock =>
    simp only [step] at taken
    split at taken
    · rename_i queue
      cases taken
      exact .ranBlock queue
    · cases taken

/-! ## The rows of a table -/

/-- No option row is at two places. -/
def Distinct (tableContents : List Section) : Prop :=
  ∀ p q ref, rowAt tableContents p = some (.optionRow ref) →
    rowAt tableContents q = some (.optionRow ref) → p = q

theorem rowAt_set_flag {tableContents : List Section} {index : Nat} {options : List RowRef}
    {kept : Bool} (value : Bool)
    (here : tableContents[index]? = some (.radioSection options kept))
    (indexPath : TableIndexPath) :
    rowAt (tableContents.set index (.radioSection options value)) indexPath =
      rowAt tableContents indexPath := by
  unfold rowAt
  by_cases same : index = indexPath.section_
  · subst same
    have bound := (List.getElem?_eq_some_iff.mp here).choose
    rw [List.getElem?_set_self bound, here]
    rfl
  · rw [List.getElem?_set_ne same]

/-- The rows of a table stay where they are. -/
theorem rowAt_step {s t : Table} {e : Event} (taken : step s e = some t)
    (indexPath : TableIndexPath) :
    rowAt t.tableContents indexPath = rowAt s.tableContents indexPath := by
  cases step_cases taken with
  | firstSelected here _ => exact rowAt_set_flag true here indexPath
  | flagSet here _ => exact rowAt_set_flag _ here indexPath
  | toggled _ _ | flipped _ _ | tapped _ _ | accessoryTapped _ | configured _
  | endedDisplaying _ | ranBlock _ => rfl

theorem distinct_step {s t : Table} {e : Event} (distinct : Distinct s.tableContents)
    (taken : step s e = some t) : Distinct t.tableContents := by
  intro p q ref atP atQ
  rw [rowAt_step taken] at atP atQ
  exact distinct p q ref atP atQ

theorem asOption_eq_some {row : Row} {ref : RowRef} :
    row.asOption = some ref ↔ row = .optionRow ref := by
  cases row <;> simp [Row.asOption]

theorem mem_options_iff {tableContents : List Section} {index : Nat} {part : Section}
    (here : tableContents[index]? = some part) (ref : RowRef) :
    ref ∈ part.options ↔ ∃ row, rowAt tableContents ⟨index, row⟩ = some (.optionRow ref) := by
  have rows (row : Nat) : rowAt tableContents ⟨index, row⟩ = part.rows[row]? :=
    rowAt_of_section here
  simp only [rows, ← List.mem_iff_getElem?]
  cases part with
  | section_ rows =>
    simp [Section.options, Section.rows, asOption_eq_some]
  | radioSection options keeps => simp [Section.options, Section.rows]

theorem options_eq_filterMap (part : Section) :
    part.options = (Section.section_ part.rows).options := by
  cases part with
  | section_ rows => rfl
  | radioSection options keeps =>
    simp only [Section.options, Section.rows, List.filterMap_map]
    exact List.filterMap_some.symm

/-- The options of a section are distinct. -/
theorem nodup_of_distinct {tableContents : List Section} (distinct : Distinct tableContents)
    {index : Nat} {part : Section} (here : tableContents[index]? = some part) :
    part.options.Nodup := by
  rw [options_eq_filterMap, Section.options, List.Nodup, List.pairwise_filterMap,
    List.pairwise_iff_getElem]
  intro i j iBound jBound before ref atI other atJ same
  have isOption {row : Nat} (bound : row < part.rows.length)
      (atRow : part.rows[row].asOption = some ref) :
      rowAt tableContents ⟨index, row⟩ = some (.optionRow ref) := by
    have atPath : rowAt tableContents ⟨index, row⟩ = part.rows[row]? := rowAt_of_section here
    rw [atPath, List.getElem?_eq_getElem bound, asOption_eq_some.mp atRow]
  subst same
  have samePath := distinct _ _ ref (isOption iBound atI) (isOption jBound atJ)
  exact Nat.ne_of_lt before (TableIndexPath.mk.inj samePath).2

theorem row_unique_of_nodup {part : Section} (nodup : part.options.Nodup) {i j : Nat}
    {ref : RowRef} (atI : part.rows[i]? = some (.optionRow ref))
    (atJ : part.rows[j]? = some (.optionRow ref)) : i = j := by
  rw [options_eq_filterMap, Section.options, List.Nodup, List.pairwise_filterMap,
    List.pairwise_iff_getElem] at nodup
  obtain ⟨iBound, isI⟩ := List.getElem?_eq_some_iff.mp atI
  obtain ⟨jBound, isJ⟩ := List.getElem?_eq_some_iff.mp atJ
  have optionI := asOption_eq_some.mpr isI
  have optionJ := asOption_eq_some.mpr isJ
  rcases Nat.lt_trichotomy i j with before | same | after
  · exact absurd rfl (nodup i j iBound jBound before ref optionI ref optionJ)
  · exact same
  · exact absurd rfl (nodup j i jBound iBound after ref optionJ ref optionI)

/-- A table has no option row twice if its sections together have none twice. -/
theorem distinct_of_nodup {tableContents : List Section}
    (nodup : (tableContents.flatMap Section.options).Nodup) : Distinct tableContents := by
  obtain ⟨eachNodup, apart⟩ := List.nodup_flatMap.mp nodup
  have disjoint := List.pairwise_iff_getElem.mp apart
  intro p q ref atP atQ
  obtain ⟨pPart, pHere, pRow⟩ := section_of_rowAt atP
  obtain ⟨qPart, qHere, qRow⟩ := section_of_rowAt atQ
  have inP : ref ∈ pPart.options := (mem_options_iff pHere ref).mpr ⟨p.row, atP⟩
  have inQ : ref ∈ qPart.options := (mem_options_iff qHere ref).mpr ⟨q.row, atQ⟩
  obtain ⟨pBound, isP⟩ := List.getElem?_eq_some_iff.mp pHere
  obtain ⟨qBound, isQ⟩ := List.getElem?_eq_some_iff.mp qHere
  rcases Nat.lt_trichotomy p.section_ q.section_ with before | same | after
  · exact absurd (isQ ▸ inQ) (disjoint _ _ pBound qBound before (isP ▸ inP))
  · cases (same ▸ pHere).symm.trans qHere
    have nodupPart := eachNodup pPart (List.mem_of_getElem? pHere)
    have sameRow := row_unique_of_nodup nodupPart pRow qRow
    cases p
    cases q
    cases same
    cases sameRow
    rfl
  · exact absurd (isP ▸ inP) (disjoint _ _ qBound pBound after (isQ ▸ inQ))

end QuickTableViewController

end FinanciaApp.Source
