import Mathlib.Data.List.Induction
import Mathlib.Data.List.Nodup
import Mathlib.Data.Option.Basic
import FinanciaApp.Source.ATCSettingsViewController

/-!
# The items and the rows of the settings screen

The items and the rows are two arrays that are to agree at every position. Loading the
stored settings writes the same value at the same position of both, and the action of a row
copies the value of an equal row to its item: neither can make them disagree. A toggle
changes the row alone, and its action repairs the item at the position of the first row
that looks like it. That is the toggled row unless an earlier one has its name and shows
the value that it is turned to.
-/

set_option autoImplicit false

namespace FinanciaApp.Guarantees

open Source Source.ATCSettingsViewController

def itemValues (s : System) : List Bool := s.items.map ATCSettingsItem.value

def rowValues (s : System) : List Bool := s.toggles.map SwitchRow.switchValue

/-! ## The JSON -/

theorem userSettingsJSON_concat (items : List ATCSettingsItem) (item : ATCSettingsItem) :
    userSettingsJSON (items ++ [item]) =
      Function.update (userSettingsJSON items) item.key (some item.value) := by
  simp [userSettingsJSON]

/-- Under distinct keys the JSON has the value of every item. -/
theorem userSettingsJSON_of_mem {items : List ATCSettingsItem}
    (distinct : (items.map ATCSettingsItem.key).Nodup) {item : ATCSettingsItem}
    (member : item ∈ items) : userSettingsJSON items item.key = some item.value := by
  induction items using List.reverseRecOn with
  | nil => cases member
  | append_singleton items last ih =>
    rw [userSettingsJSON_concat]
    rw [List.map_append, List.map_singleton] at distinct
    obtain ⟨before, -, apart⟩ := List.nodup_append'.mp distinct
    rcases List.mem_append.mp member with early | late
    · have different : item.key ≠ last.key := by
        intro same
        exact apart (List.mem_map_of_mem early) (by simp [same])
      rw [Function.update_of_ne different]
      exact ih before early
    · obtain rfl := List.mem_singleton.mp late
      exact Function.update_self _ _ _

/-- Every item is sent with the value of the row at its position. -/
def RowsSaved (_s : System) (_e : Event) (t : System) : Prop :=
  t.items.map (fun item : ATCSettingsItem => userSettingsJSON t.items item.key) =
    t.toggles.map fun row => some row.switchValue

/-- Every item is sent with the value of the switch on the screen that displays its row. -/
def SwitchesSaved (_s : System) (_e : Event) (t : System) : Prop :=
  ∀ (position : Nat) (item : ATCSettingsItem) (isOn : Bool), t.items[position]? = some item →
    t.switches[position]? = some (some isOn) → userSettingsJSON t.items item.key = some isOn

/-- Between two events: distinct keys, nothing to run, and rows that agree with the items. -/
structure BetweenEvents (s : System) : Prop where
  distinct : (s.items.map ATCSettingsItem.key).Nodup
  idle : s.mainQueue = []
  agree : itemValues s = rowValues s

theorem rowsSaved_iff {s t : System} {e : Event}
    (distinct : (t.items.map ATCSettingsItem.key).Nodup) :
    RowsSaved s e t ↔ itemValues t = rowValues t := by
  have sent : t.items.map (fun item : ATCSettingsItem => userSettingsJSON t.items item.key) =
      (itemValues t).map some := by
    rw [itemValues, List.map_map]
    exact List.map_congr_left fun item member => userSettingsJSON_of_mem distinct member
  have shown : (t.toggles.map fun row => some row.switchValue) = (rowValues t).map some := by
    rw [rowValues, List.map_map]
    rfl
  rw [RowsSaved, sent, shown]
  exact (List.map_injective_iff.mpr (Option.some_injective _)).eq_iff

/-- The switches on the screen show the values of the items. -/
def ShowsItems (s : System) : Prop :=
  ∀ (position : Nat) (value isOn : Bool), (itemValues s)[position]? = some value →
    s.switches[position]? = some (some isOn) → value = isOn

theorem switchesSaved_iff {s t : System} {e : Event}
    (distinct : (t.items.map ATCSettingsItem.key).Nodup) :
    SwitchesSaved s e t ↔ ShowsItems t := by
  constructor
  · intro saved position value isOn found shown
    obtain ⟨item, there, rfl⟩ : ∃ item, t.items[position]? = some item ∧ item.value = value := by
      simpa [itemValues] using found
    have sent := saved position item isOn there shown
    rw [userSettingsJSON_of_mem distinct (List.mem_of_getElem? there)] at sent
    exact Option.some.inj sent
  · intro same position item isOn there shown
    rw [userSettingsJSON_of_mem distinct (List.mem_of_getElem? there)]
    exact congrArg some (same position item.value isOn (by simp [itemValues, there]) shown)

/-! ## Loading and running actions -/

section Effects

variable {s : System}

theorem item_of_row (agree : itemValues s = rowValues s) {position : Nat} {row : SwitchRow}
    (there : s.toggles[position]? = some row) :
    ∃ item, s.items[position]? = some item ∧ item.value = row.switchValue := by
  have same := congrArg (fun values : List Bool => values[position]?) agree
  simpa [itemValues, rowValues, there] using same

theorem value_of_row (agree : itemValues s = rowValues s) {position : Nat} {row : SwitchRow}
    (there : s.toggles[position]? = some row) :
    (itemValues s)[position]? = some row.switchValue := by
  rw [agree]
  simp [rowValues, there]

/-- An action copies a value that is there already, if the rows agree with the items. -/
theorem didToggleSelection_of_agree (agree : itemValues s = rowValues s) (position : Nat) :
    didToggleSelection s position = s := by
  rcases didToggleSelection_cases s position with same | ⟨index, row, found, set⟩
  · exact same
  · obtain ⟨item, there, value⟩ := item_of_row agree found
    rw [set, ← value]
    exact setItemValue_self there

theorem drain_of_agree (agree : itemValues s = rowValues s) :
    drain s = { s with mainQueue := [] } := by
  unfold drain
  induction s.mainQueue with
  | nil => rfl
  | cons position queue ih =>
    have inert : itemValues { s with mainQueue := [] } = rowValues { s with mainQueue := [] } :=
      agree
    rw [List.foldl_cons, didToggleSelection_of_agree inert]
    exact ih

/-- The value that is stored for a key. -/
def storedValue (settings : JSONDictionary) (key : String) : Option Bool :=
  (settings.reverse.find? fun setting => setting.1 = key).map fun setting =>
    setting.2.asBool.getD false

/-- The items after loading: those with a stored value have it. -/
def loaded (settings : JSONDictionary) (items : List ATCSettingsItem) : List ATCSettingsItem :=
  items.map fun item => { item with value := (storedValue settings item.key).getD item.value }

theorem storedValue_concat (settings : JSONDictionary) (setting : String × JSONValue)
    (key : String) :
    storedValue (settings ++ [setting]) key =
      if setting.1 = key then some (setting.2.asBool.getD false) else storedValue settings key := by
  rw [storedValue, List.reverse_append, List.reverse_singleton, List.singleton_append,
    List.find?_cons]
  by_cases same : setting.1 = key
  · simp [same]
  · simp [same, storedValue]

theorem loaded_nil (items : List ATCSettingsItem) : loaded [] items = items :=
  List.map_id _

theorem loaded_keys (settings : JSONDictionary) (items : List ATCSettingsItem) :
    (loaded settings items).map ATCSettingsItem.key = items.map ATCSettingsItem.key := by
  rw [loaded, List.map_map]
  rfl

/-- One more setting is written to the item with its key. -/
theorem loaded_concat (settings : JSONDictionary) (setting : String × JSONValue)
    (items : List ATCSettingsItem) :
    loaded (settings ++ [setting]) items = (loaded settings items).map fun item =>
      if setting.1 = item.key then { item with value := setting.2.asBool.getD false }
      else item := by
  rw [loaded, loaded, List.map_map]
  refine List.map_congr_left fun item _ => ?_
  rw [storedValue_concat]
  by_cases same : setting.1 = item.key
  · simp [same]
  · simp [same]

/-- Under distinct keys, setting the first item with a key sets every item with the key. -/
theorem setItemValue_of_key (distinct : (s.items.map ATCSettingsItem.key).Nodup) {key : String}
    {index : Nat} (found : (s.items.findIdx? fun item => item.key = key) = some index)
    (value : Bool) :
    (s.setItemValue index value).items =
      s.items.map fun item => if key = item.key then { item with value := value } else item := by
  obtain ⟨bound, isKey, -⟩ := List.findIdx?_eq_some_iff_getElem.mp found
  have hasKey : s.items[index].key = key := of_decide_eq_true isKey
  simp only [System.setItemValue, List.getElem?_eq_getElem bound]
  refine List.ext_getElem (by simp) fun position inSet inMap => ?_
  rw [List.getElem_set, List.getElem_map]
  have here : position < s.items.length := by simpa using inMap
  by_cases same : index = position
  · subst same
    rw [if_pos rfl, if_pos hasKey.symm]
  · have other : key ≠ s.items[position].key := by
      intro isKey'
      refine same ((List.getElem?_inj (by simpa using bound) distinct).mp ?_)
      simp [List.getElem?_eq_getElem bound, List.getElem?_eq_getElem here, hasKey, ← isKey']
    rw [if_neg same, if_neg other]

/-- Loading one setting writes the same value to an item and to its row. -/
theorem loadSetting_spec (distinct : (s.items.map ATCSettingsItem.key).Nodup)
    (agree : itemValues s = rowValues s) (setting : String × JSONValue) :
    ((loadSetting s setting).items = s.items.map fun item =>
      if setting.1 = item.key then { item with value := setting.2.asBool.getD false }
      else item) ∧
    itemValues (loadSetting s setting) = rowValues (loadSetting s setting) ∧
    (loadSetting s setting).switches = s.switches := by
  unfold loadSetting
  cases found : s.items.findIdx? fun item => item.key = setting.1 with
  | none =>
    refine ⟨?_, agree, rfl⟩
    have absent := List.findIdx?_eq_none_iff.mp found
    symm
    refine (List.map_congr_left fun item member => ?_).trans (List.map_id _)
    have different : setting.1 ≠ item.key := fun same =>
      of_decide_eq_false (absent item member) same.symm
    rw [if_neg different]
    rfl
  | some index =>
    dsimp only
    obtain ⟨items, switches, -⟩ := setSwitchValue_frame (s.setItemValue index
      (setting.2.asBool.getD false)) index (setting.2.asBool.getD false)
    obtain ⟨toggles, switches', -, -⟩ := setItemValue_frame s index
      (setting.2.asBool.getD false)
    refine ⟨items.trans (setItemValue_of_key distinct found _), ?_, switches.trans switches'⟩
    rw [itemValues, rowValues, items, setItemValue_values, setSwitchValue_values, toggles]
    exact congrArg (fun values : List Bool => values.set index (setting.2.asBool.getD false))
      agree

/-- Loading all settings. -/
theorem loadSettings_spec (distinct : (s.items.map ATCSettingsItem.key).Nodup)
    (agree : itemValues s = rowValues s) (settings : JSONDictionary) :
    (settings.foldl loadSetting s).items = loaded settings s.items ∧
    itemValues (settings.foldl loadSetting s) = rowValues (settings.foldl loadSetting s) ∧
    (settings.foldl loadSetting s).switches = s.switches := by
  induction settings using List.reverseRecOn with
  | nil => exact ⟨(loaded_nil _).symm, agree, rfl⟩
  | append_singleton settings setting ih =>
    obtain ⟨items, agree', switches⟩ := ih
    have distinct' : ((settings.foldl loadSetting s).items.map ATCSettingsItem.key).Nodup := by
      rw [items, loaded_keys]
      exact distinct
    obtain ⟨items', agree'', switches'⟩ := loadSetting_spec distinct' agree' setting
    rw [List.foldl_append, List.foldl_cons, List.foldl_nil]
    refine ⟨?_, agree'', switches'.trans switches⟩
    rw [items', items, loaded_concat]

/-- What a toggle of a switch that was `isOn` does to the values of the items and rows. -/
inductive ToggleEffect (toggles : List SwitchRow) (values : List Bool) (position : Nat)
    (isOn : Bool) : System → Prop where
  | unchanged (t : System)
      (differs : ∀ row, toggles[position]? = some row → row.switchValue ≠ isOn)
      (items : itemValues t = values) (rows : rowValues t = values) :
      ToggleEffect toggles values position isOn t
  | itself (t : System) (row : SwitchRow) (here : toggles[position]? = some row)
      (first : ∀ (earlier : Nat) (other : SwitchRow), earlier < position →
        toggles[earlier]? = some other → other ≠ { row with switchValue := !isOn })
      (items : itemValues t = values.set position !isOn)
      (rows : rowValues t = values.set position !isOn) :
      ToggleEffect toggles values position isOn t
  | another (t : System) (row : SwitchRow) (here : toggles[position]? = some row)
      (shows : row.switchValue = isOn) (earlier : Nat) (before : earlier < position)
      (equal : toggles[earlier]? = some { row with switchValue := !isOn })
      (items : itemValues t = values) (rows : rowValues t = values.set position !isOn) :
      ToggleEffect toggles values position isOn t

/-- The toggled row with its new value, before its action. -/
def changedRow (s : System) (position : Nat) (row : SwitchRow) (isOn : Bool) : System :=
  { s with
    toggles := s.toggles.set position { row with switchValue := !isOn }
    mainQueue := [] }

/-- The action of the toggled row finds the row itself or an equal one before it. -/
theorem changedRow_effect (agree : itemValues s = rowValues s) {position : Nat} {row : SwitchRow}
    {isOn : Bool} (here : s.toggles[position]? = some row) (shows : row.switchValue = isOn) :
    ToggleEffect s.toggles (itemValues s) position isOn
      (didToggleSelection (changedRow s position row isOn) position) := by
  have bound : position < s.toggles.length := (List.getElem?_eq_some_iff.mp here).1
  have changed : (changedRow s position row isOn).toggles[position]? =
      some { row with switchValue := !isOn } := List.getElem?_set_self bound
  have others {other : Nat} (different : other < position) :
      (changedRow s position row isOn).toggles[other]? = s.toggles[other]? :=
    List.getElem?_set_ne (Nat.ne_of_gt different)
  cases found : (changedRow s position row isOn).toggles.findIdx? fun toggle =>
      toggle = { row with switchValue := !isOn } with
  | none =>
    have absent := List.findIdx?_eq_none_iff.mp found _ (List.mem_of_getElem? changed)
    simp at absent
  | some index =>
    have equal := row_of_findIdx? found
    have first : ∀ earlier, earlier < index →
        (changedRow s position row isOn).toggles[earlier]? ≠
          some { row with switchValue := !isOn } := fun earlier => row_before_findIdx? found
    have values : itemValues (didToggleSelection (changedRow s position row isOn) position) =
        (itemValues s).set index !isOn := by
      rw [didToggleSelection_of_found changed found]
      exact setItemValue_values _ _ _
    have rows : rowValues (didToggleSelection (changedRow s position row isOn) position) =
        (itemValues s).set position !isOn := by
      rw [didToggleSelection_of_found changed found, rowValues, (setItemValue_frame _ _ _).1, agree]
      exact List.map_set
    rcases Nat.lt_trichotomy index position with before | rfl | behind
    · rw [others before] at equal
      refine .another _ row here shows index before equal (values.trans ?_) rows
      exact set_eq_self_of_getElem? (value_of_row agree equal)
    · refine .itself _ row here ?_ values rows
      intro earlier other before isOther same
      refine first earlier before ?_
      rw [others before, isOther, same]
    · exact absurd changed (first position behind)

theorem toggleSwitch_effect (h : BetweenEvents s) {position : Nat} {isOn : Bool}
    (shown : s.switches[position]? = some (some isOn)) {t : System}
    (taken : step s (.toggle position) = some t) :
    ToggleEffect s.toggles (itemValues s) position isOn t ∧
      t.switches = s.switches.set position (some !isOn) ∧
      t.items.map ATCSettingsItem.key = s.items.map ATCSettingsItem.key ∧ t.mainQueue = [] := by
  simp only [step, handle, toggleSwitch, shown, Option.map_some, Option.some.injEq] at taken
  subst taken
  set flipped := { s with switches := s.switches.set position (some !isOn) }
  have agree : itemValues flipped = rowValues flipped := h.agree
  have idle (differs : ∀ row, s.toggles[position]? = some row → row.switchValue ≠ isOn)
      (stays : flipped.setSwitchValue position (!isOn) = flipped) :
      ToggleEffect s.toggles (itemValues s) position isOn
          (drain (flipped.setSwitchValue position !isOn)) ∧
        (drain (flipped.setSwitchValue position !isOn)).switches =
          s.switches.set position (some !isOn) ∧
        (drain (flipped.setSwitchValue position !isOn)).items.map ATCSettingsItem.key =
          s.items.map ATCSettingsItem.key ∧
        (drain (flipped.setSwitchValue position !isOn)).mainQueue = [] := by
    rw [stays, drain_of_agree agree]
    exact ⟨.unchanged _ differs rfl h.agree.symm, rfl, rfl, rfl⟩
  cases here : s.toggles[position]? with
  | none =>
    refine idle (by simp [here]) ?_
    have there : flipped.toggles[position]? = none := here
    simp [System.setSwitchValue, there]
  | some row =>
    have there : flipped.toggles[position]? = some row := here
    by_cases shows : row.switchValue = isOn
    · have changes : (!isOn) ≠ row.switchValue := by simp [shows]
      have drained : drain (flipped.setSwitchValue position !isOn) =
          didToggleSelection (changedRow flipped position row isOn) position := by
        rw [setSwitchValue_of_ne there changes]
        simp [drain, changedRow, flipped, h.idle]
      obtain ⟨switches, mainQueue, keys⟩ :=
        didToggleSelection_frame (changedRow flipped position row isOn) position
      rw [drained]
      exact ⟨changedRow_effect agree there shows, switches, keys, mainQueue⟩
    · have stays : (!isOn) = row.switchValue := by
        revert shows
        cases isOn <;> cases row.switchValue <;> simp
      refine idle ?_ ?_
      · intro other isOther
        rw [here, Option.some.injEq] at isOther
        rw [← isOther]
        exact shows
      · rw [stays]
        exact setSwitchValue_self there

end Effects

end FinanciaApp.Guarantees
