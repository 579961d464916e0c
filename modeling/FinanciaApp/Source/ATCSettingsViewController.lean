import FinanciaApp.Source.ATCPersistentStore

/-!
# The settings screen

`Core/Settings/ATCSettingsViewController.swift` over the vendored rows and cells of
`Core/ThirdParty/QuickTableViewController`. A row is an object that `toggles` and the
sections of the table share, so it is known by its position in `toggles`. A changed
`switchValue` puts the row's action on the main queue; the queue is worked off before the
next event. A switch is on the screen while a cell displays its row, and takes the value
of the row when the cell is configured. Titles, footers and the other fields of an item
are not modelled.
-/

set_option autoImplicit false

namespace FinanciaApp.Source

/-- `value as? Bool`. -/
def JSONValue.asBool : JSONValue → Option Bool
  | .bool value => some value
  | .number value => if value = 0 then some false else if value = 1 then some true else none
  | _ => none

structure ATCSettingsItem where
  displayName : String
  key : String
  value : Bool
  deriving DecidableEq, Repr

structure ATCSettingsSection where
  options : List ATCSettingsItem
  deriving DecidableEq, Repr

/-- `SwitchRow`, which compares equal when these fields are equal. -/
structure SwitchRow where
  text : String
  detailText : Option String
  switchValue : Bool
  icon : Option String
  deriving DecidableEq, Repr

/-- The `[String: Bool]` that is sent. -/
abbrev SettingsJSON := String → Option Bool

namespace ATCSettingsViewController

/-- `isOn` of the switch that displays a row is in `switches` at the position of the row, if
there is one; `mainQueue` are the rows whose action is to run; `sent` is what
`updateSettings` of the profile updater was called with. -/
structure System where
  user : Option ATCUser
  hasProfileUpdater : Bool
  items : List ATCSettingsItem
  toggles : List SwitchRow
  switches : List (Option Bool)
  mainQueue : List Nat
  sent : List SettingsJSON

def convert (settingItem : ATCSettingsItem) : SwitchRow where
  text := settingItem.displayName
  detailText := none
  switchValue := settingItem.value
  icon := none

def viewDidLoad (user : Option ATCUser) (sections : List ATCSettingsSection)
    (hasProfileUpdater : Bool) : System where
  user := user
  hasProfileUpdater := hasProfileUpdater
  toggles := sections.flatMap fun part => part.options.map convert
  items := sections.flatMap ATCSettingsSection.options
  switches := sections.flatMap fun part => part.options.map fun _ => none
  mainQueue := []
  sent := []

/-- `items[index].value = value`. -/
def System.setItemValue (s : System) (index : Nat) (value : Bool) : System :=
  match s.items[index]? with
  | some item => { s with items := s.items.set index { item with value := value } }
  | none => s

/-- `toggles[index].switchValue = value`, with its `didSet`. -/
def System.setSwitchValue (s : System) (index : Nat) (value : Bool) : System :=
  match s.toggles[index]? with
  | some row =>
    let assigned :=
      { s with toggles := s.toggles.set index { row with switchValue := value } }
    if value ≠ row.switchValue then { assigned with mainQueue := s.mainQueue ++ [index] }
    else assigned
  | none => s

/-- The body of the loop of `viewWillAppear`. -/
def loadSetting (s : System) (setting : String × JSONValue) : System :=
  match s.items.findIdx? fun item => item.key = setting.1 with
  | some index =>
    let value := setting.2.asBool.getD false
    (s.setItemValue index value).setSwitchValue index value
  | none => s

def viewWillAppear (s : System) : System :=
  match s.user with
  | some user => user.settings.foldl loadSetting s
  | none => s

/-- The closure of `didToggleSelection`, called with the row at `position`. -/
def didToggleSelection (s : System) (position : Nat) : System :=
  match s.toggles[position]? with
  | some row =>
    match s.toggles.findIdx? fun toggle => toggle = row with
    | some index => (s.setSwitchValue index row.switchValue).setItemValue index row.switchValue
    | none => s
  | none => s

/-- The actions on the main queue run. -/
def drain (s : System) : System :=
  s.mainQueue.foldl didToggleSelection { s with mainQueue := [] }

/-- `userSettingsJSON`. -/
def userSettingsJSON (items : List ATCSettingsItem) : SettingsJSON :=
  items.foldl (fun json item => Function.update json item.key (some item.value)) fun _ => none

def handleSaveButton (s : System) : System :=
  if s.user.isSome && s.hasProfileUpdater then
    { s with sent := s.sent ++ [userSettingsJSON s.items] }
  else
    s

/-- A cell is configured with the row at `position`. -/
def configureCell (s : System) (position : Nat) : System :=
  match s.toggles[position]? with
  | some row => { s with switches := s.switches.set position (some row.switchValue) }
  | none => s

/-- The user toggles a switch on the screen: `switchCell(_:didToggleSwitch:)`. -/
def toggleSwitch (s : System) (position : Nat) : Option System :=
  match s.switches[position]? with
  | some (some isOn) =>
    some ({ s with switches := s.switches.set position (some !isOn) }.setSwitchValue position !isOn)
  | _ => none

/-- `userSettings` is a change of the settings of the shared user object elsewhere. -/
inductive Event where
  | viewWillAppear
  | cellForRow (position : Nat)
  | didEndDisplaying (position : Nat)
  | toggle (position : Nat)
  | tapSave
  | userSettings (settings : JSONDictionary)

/-- The handler of an event; `none` is a switch that is not on the screen. -/
def handle (s : System) : Event → Option System
  | .viewWillAppear => some (viewWillAppear s)
  | .cellForRow position => some (configureCell s position)
  | .didEndDisplaying position => some { s with switches := s.switches.set position none }
  | .toggle position => toggleSwitch s position
  | .tapSave => some (handleSaveButton s)
  | .userSettings settings =>
    some { s with user := s.user.map fun user => { user with settings := settings } }

def step (s : System) (e : Event) : Option System := (handle s e).map drain

/-! ## What the two assignments change -/

theorem set_eq_self_of_getElem? {α : Type} {xs : List α} {index : Nat} {x : α}
    (found : xs[index]? = some x) : xs.set index x = xs := by
  obtain ⟨bound, rfl⟩ := List.getElem?_eq_some_iff.mp found
  exact List.set_getElem_self bound

section Assignments

variable (s : System) (index : Nat) (value : Bool)

theorem setItemValue_frame :
    (s.setItemValue index value).toggles = s.toggles ∧
    (s.setItemValue index value).switches = s.switches ∧
    (s.setItemValue index value).mainQueue = s.mainQueue ∧
    (s.setItemValue index value).user = s.user := by
  unfold System.setItemValue
  split <;> exact ⟨rfl, rfl, rfl, rfl⟩

theorem setItemValue_keys :
    (s.setItemValue index value).items.map ATCSettingsItem.key =
      s.items.map ATCSettingsItem.key := by
  unfold System.setItemValue
  split
  · rename_i item found
    rw [List.map_set]
    exact set_eq_self_of_getElem? (by simp [found])
  · rfl

theorem setItemValue_values :
    (s.setItemValue index value).items.map ATCSettingsItem.value =
      (s.items.map ATCSettingsItem.value).set index value := by
  unfold System.setItemValue
  split
  · exact List.map_set
  · rename_i beyond
    rw [List.set_eq_of_length_le]
    simpa using beyond

theorem setItemValue_self {s : System} {index : Nat} {item : ATCSettingsItem}
    (found : s.items[index]? = some item) : s.setItemValue index item.value = s := by
  simp [System.setItemValue, found, set_eq_self_of_getElem? found]

theorem setSwitchValue_frame :
    (s.setSwitchValue index value).items = s.items ∧
    (s.setSwitchValue index value).switches = s.switches ∧
    (s.setSwitchValue index value).user = s.user := by
  unfold System.setSwitchValue
  split
  · dsimp only
    split <;> exact ⟨rfl, rfl, rfl⟩
  · exact ⟨rfl, rfl, rfl⟩

theorem setSwitchValue_values :
    (s.setSwitchValue index value).toggles.map SwitchRow.switchValue =
      (s.toggles.map SwitchRow.switchValue).set index value := by
  unfold System.setSwitchValue
  split
  · dsimp only
    split <;> exact List.map_set
  · rename_i beyond
    rw [List.set_eq_of_length_le]
    simpa using beyond

/-- A row that has the value already stays as it is, and runs no action. -/
theorem setSwitchValue_self {s : System} {index : Nat} {row : SwitchRow}
    (found : s.toggles[index]? = some row) : s.setSwitchValue index row.switchValue = s := by
  simp [System.setSwitchValue, found, set_eq_self_of_getElem? found]

/-- A row that changes runs its action. -/
theorem setSwitchValue_of_ne {s : System} {index : Nat} {row : SwitchRow} {value : Bool}
    (found : s.toggles[index]? = some row) (changes : value ≠ row.switchValue) :
    s.setSwitchValue index value =
      { s with
        toggles := s.toggles.set index { row with switchValue := value }
        mainQueue := s.mainQueue ++ [index] } := by
  simp [System.setSwitchValue, found, changes]

theorem row_of_findIdx? {rows : List SwitchRow} {index : Nat} {row : SwitchRow}
    (found : (rows.findIdx? fun toggle => toggle = row) = some index) :
    rows[index]? = some row := by
  obtain ⟨bound, equal, -⟩ := List.findIdx?_eq_some_iff_getElem.mp found
  rw [List.getElem?_eq_getElem bound, of_decide_eq_true equal]

theorem row_before_findIdx? {rows : List SwitchRow} {index earlier : Nat} {row : SwitchRow}
    (found : (rows.findIdx? fun toggle => toggle = row) = some index) (before : earlier < index) :
    rows[earlier]? ≠ some row := by
  obtain ⟨bound, -, first⟩ := List.findIdx?_eq_some_iff_getElem.mp found
  intro equal
  obtain ⟨within, same⟩ := List.getElem?_eq_some_iff.mp equal
  exact first earlier before (decide_eq_true same)

/-- The action sets the item at the position of the first row that equals its row. -/
theorem didToggleSelection_of_found {s : System} {position index : Nat} {row : SwitchRow}
    (here : s.toggles[position]? = some row)
    (found : (s.toggles.findIdx? fun toggle => toggle = row) = some index) :
    didToggleSelection s position = s.setItemValue index row.switchValue := by
  simp only [didToggleSelection, here, found]
  rw [setSwitchValue_self (row_of_findIdx? found)]

/-- An action does nothing, or sets the item at the position of a row that equals its row. -/
theorem didToggleSelection_cases (s : System) (position : Nat) :
    didToggleSelection s position = s ∨
    ∃ (index : Nat) (row : SwitchRow), s.toggles[index]? = some row ∧
      didToggleSelection s position = s.setItemValue index row.switchValue := by
  cases here : s.toggles[position]? with
  | none => exact .inl (by simp [didToggleSelection, here])
  | some row =>
    cases found : s.toggles.findIdx? fun toggle => toggle = row with
    | none => exact .inl (by simp [didToggleSelection, here, found])
    | some index =>
      exact .inr ⟨index, row, row_of_findIdx? found, didToggleSelection_of_found here found⟩

/-- An action changes values of items only. -/
theorem didToggleSelection_frame (s : System) (position : Nat) :
    (didToggleSelection s position).switches = s.switches ∧
    (didToggleSelection s position).mainQueue = s.mainQueue ∧
    (didToggleSelection s position).items.map ATCSettingsItem.key =
      s.items.map ATCSettingsItem.key := by
  rcases didToggleSelection_cases s position with same | ⟨index, row, -, set⟩
  · rw [same]
    exact ⟨rfl, rfl, rfl⟩
  · obtain ⟨-, switches, mainQueue, -⟩ := setItemValue_frame s index row.switchValue
    rw [set]
    exact ⟨switches, mainQueue, setItemValue_keys s index row.switchValue⟩

end Assignments

/-! ## What no event changes -/

/-- There is a user, and someone to send the settings to. -/
def canSave (s : System) : Bool := s.user.isSome && s.hasProfileUpdater

theorem canSave_setItemValue (s : System) (index : Nat) (value : Bool) :
    canSave (s.setItemValue index value) = canSave s := by
  unfold System.setItemValue
  split <;> rfl

theorem canSave_setSwitchValue (s : System) (index : Nat) (value : Bool) :
    canSave (s.setSwitchValue index value) = canSave s := by
  unfold System.setSwitchValue
  split
  · dsimp only
    split <;> rfl
  · rfl

theorem canSave_loadSetting (s : System) (setting : String × JSONValue) :
    canSave (loadSetting s setting) = canSave s := by
  unfold loadSetting
  split
  · rw [canSave_setSwitchValue, canSave_setItemValue]
  · rfl

theorem canSave_didToggleSelection (s : System) (position : Nat) :
    canSave (didToggleSelection s position) = canSave s := by
  rcases didToggleSelection_cases s position with same | ⟨index, row, -, set⟩
  · rw [same]
  · rw [set, canSave_setItemValue]

theorem canSave_foldl {α : Type} {act : System → α → System}
    (kept : ∀ s x, canSave (act s x) = canSave s) (s : System) (xs : List α) :
    canSave (xs.foldl act s) = canSave s := by
  induction xs generalizing s with
  | nil => rfl
  | cons x xs ih => rw [List.foldl_cons, ih, kept]

theorem canSave_handle {s t : System} {e : Event} (handled : handle s e = some t) :
    canSave t = canSave s := by
  cases e with
  | viewWillAppear =>
    cases handled
    unfold viewWillAppear
    split
    · exact canSave_foldl canSave_loadSetting s _
    · rfl
  | cellForRow position =>
    cases handled
    unfold configureCell
    split <;> rfl
  | didEndDisplaying position =>
    cases handled
    rfl
  | toggle position =>
    simp only [handle, toggleSwitch] at handled
    split at handled
    · cases handled
      rw [canSave_setSwitchValue]
      rfl
    · cases handled
  | tapSave =>
    cases handled
    unfold handleSaveButton
    split <;> rfl
  | userSettings settings =>
    cases handled
    simp [canSave]

theorem canSave_step {s t : System} {e : Event} (taken : step s e = some t) :
    canSave t = canSave s := by
  obtain ⟨handled, isHandled, rfl⟩ := Option.map_eq_some_iff.mp taken
  rw [drain, canSave_foldl canSave_didToggleSelection, ← canSave_handle isHandled]
  rfl

end ATCSettingsViewController

end FinanciaApp.Source
