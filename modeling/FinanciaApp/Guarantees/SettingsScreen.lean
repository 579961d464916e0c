import FinanciaApp.Library.Runs
import FinanciaApp.Guarantees.SettingsRows

/-!
# The settings screen sends what its switches show

An event other than a toggle keeps the rows in agreement with the items; a toggle does
exactly if its action finds the toggled row. The switch on the screen is a third copy of
the value, which is taken when a cell is configured. Loading the settings again does not
configure the cells again.
-/

set_option autoImplicit false

namespace FinanciaApp.Guarantees

open Library Source Source.ATCSettingsViewController

/-! ## Steps -/

/-- No toggle turns a switch to the value of an earlier row that looks the same. -/
def TogglesItself (s : System) (e : Event) (_t : System) : Prop :=
  ∀ (position earlier : Nat) (isOn : Bool) (row other : SwitchRow), e = .toggle position →
    s.switches[position]? = some (some isOn) → s.toggles[position]? = some row →
    row.switchValue = isOn → earlier < position → s.toggles[earlier]? = some other →
    other ≠ { row with switchValue := !isOn }

/-- The settings that are loaded while a switch is on the screen have the value it shows. -/
def ShownAsStored (s : System) (e : Event) (_t : System) : Prop :=
  ∀ (user : ATCUser) (position : Nat) (item : ATCSettingsItem) (isOn value : Bool),
    e = .viewWillAppear → s.user = some user → s.items[position]? = some item →
    s.switches[position]? = some (some isOn) →
    storedValue user.settings item.key = some value → value = isOn

section Steps

variable {s t : System}

/-- What an event other than a toggle does to the items and to the switches. -/
inductive QuietEffect (s : System) : Event → System → Prop where
  | loaded (t : System) (user : ATCUser) (isUser : s.user = some user)
      (items : t.items = loaded user.settings s.items) (switches : t.switches = s.switches) :
      QuietEffect s .viewWillAppear t
  | noUser (t : System) (isNone : s.user = none) (items : t.items = s.items)
      (switches : t.switches = s.switches) : QuietEffect s .viewWillAppear t
  | configured (t : System) (position : Nat) (row : SwitchRow)
      (here : s.toggles[position]? = some row) (items : t.items = s.items)
      (switches : t.switches = s.switches.set position (some row.switchValue)) :
      QuietEffect s (.cellForRow position) t
  | ended (t : System) (position : Nat) (items : t.items = s.items)
      (switches : t.switches = s.switches.set position none) :
      QuietEffect s (.didEndDisplaying position) t
  | same (e : Event) (t : System) (notLoaded : e ≠ .viewWillAppear)
      (items : t.items = s.items) (switches : t.switches = s.switches) : QuietEffect s e t

/-- Working off the queue leaves items that agree with the rows as they are. -/
theorem betweenEvents_drain (handled : System)
    (distinct : (handled.items.map ATCSettingsItem.key).Nodup)
    (agree : itemValues handled = rowValues handled) :
    (drain handled).items = handled.items ∧ (drain handled).switches = handled.switches ∧
      BetweenEvents (drain handled) := by
  rw [drain_of_agree agree]
  exact ⟨rfl, rfl, distinct, rfl, agree⟩

theorem quiet_viewWillAppear (h : BetweenEvents s) :
    QuietEffect s .viewWillAppear (drain (viewWillAppear s)) ∧
      BetweenEvents (drain (viewWillAppear s)) := by
  cases isUser : s.user with
  | none =>
    have same : viewWillAppear s = s := by simp [viewWillAppear, isUser]
    obtain ⟨items, switches, between⟩ := betweenEvents_drain s h.distinct h.agree
    rw [same]
    exact ⟨.noUser _ isUser items switches, between⟩
  | some user =>
    have same : viewWillAppear s = user.settings.foldl loadSetting s := by
      simp [viewWillAppear, isUser]
    obtain ⟨items, agree, switches⟩ := loadSettings_spec h.distinct h.agree user.settings
    have distinct : ((user.settings.foldl loadSetting s).items.map ATCSettingsItem.key).Nodup := by
      rw [items, loaded_keys]
      exact h.distinct
    obtain ⟨items', switches', between⟩ := betweenEvents_drain _ distinct agree
    rw [same]
    exact ⟨.loaded _ user isUser (items'.trans items) (switches'.trans switches), between⟩

theorem quiet_configureCell (h : BetweenEvents s) (position : Nat) :
    QuietEffect s (.cellForRow position) (drain (configureCell s position)) ∧
      BetweenEvents (drain (configureCell s position)) := by
  cases here : s.toggles[position]? with
  | none =>
    have same : configureCell s position = s := by simp [configureCell, here]
    obtain ⟨items, switches, between⟩ := betweenEvents_drain s h.distinct h.agree
    rw [same]
    exact ⟨.same _ _ (by simp) items switches, between⟩
  | some row =>
    have configured : configureCell s position =
        { s with switches := s.switches.set position (some row.switchValue) } := by
      simp [configureCell, here]
    have agree : itemValues (configureCell s position) =
        rowValues (configureCell s position) := by
      rw [configured]
      exact h.agree
    have distinct : ((configureCell s position).items.map ATCSettingsItem.key).Nodup := by
      rw [configured]
      exact h.distinct
    obtain ⟨items, switches, between⟩ := betweenEvents_drain _ distinct agree
    refine ⟨.configured _ position row here (items.trans ?_) (switches.trans ?_), between⟩
    · rw [configured]
    · rw [configured]

theorem handleSaveButton_frame (s : System) :
    (handleSaveButton s).items = s.items ∧ (handleSaveButton s).toggles = s.toggles ∧
      (handleSaveButton s).switches = s.switches := by
  unfold handleSaveButton
  split <;> exact ⟨rfl, rfl, rfl⟩

theorem quiet_step (h : BetweenEvents s) {e : Event} (quiet : ∀ position, e ≠ .toggle position)
    (taken : step s e = some t) : QuietEffect s e t ∧ BetweenEvents t := by
  obtain ⟨handled, isHandled, rfl⟩ := Option.map_eq_some_iff.mp taken
  cases e with
  | toggle position => exact absurd rfl (quiet position)
  | viewWillAppear =>
    cases isHandled
    exact quiet_viewWillAppear h
  | cellForRow position =>
    cases isHandled
    exact quiet_configureCell h position
  | didEndDisplaying position =>
    cases isHandled
    obtain ⟨items, switches, between⟩ := betweenEvents_drain
      { s with switches := s.switches.set position none } h.distinct h.agree
    exact ⟨.ended _ position items switches, between⟩
  | tapSave =>
    cases isHandled
    obtain ⟨items, toggles, switches⟩ := handleSaveButton_frame s
    have agree : itemValues (handleSaveButton s) = rowValues (handleSaveButton s) := by
      rw [itemValues, rowValues, items, toggles]
      exact h.agree
    obtain ⟨items', switches', between⟩ := betweenEvents_drain _ (items ▸ h.distinct) agree
    exact ⟨.same _ _ (by simp) (items'.trans items) (switches'.trans switches), between⟩
  | userSettings settings =>
    cases isHandled
    obtain ⟨items, switches, between⟩ := betweenEvents_drain
      { s with user := s.user.map fun user => { user with settings := settings } }
      h.distinct h.agree
    exact ⟨.same _ _ (by simp) items switches, between⟩

theorem toggle_shown {position : Nat} (taken : step s (.toggle position) = some t) :
    ∃ isOn, s.switches[position]? = some (some isOn) := by
  obtain ⟨handled, isHandled, -⟩ := Option.map_eq_some_iff.mp taken
  simp only [handle, toggleSwitch] at isHandled
  split at isHandled
  · rename_i isOn shown
    exact ⟨isOn, shown⟩
  · cases isHandled

/-- After a toggle the rows agree with the items exactly if it found itself. -/
theorem agree_iff_togglesItself (h : BetweenEvents s) {position : Nat} {isOn : Bool}
    (shown : s.switches[position]? = some (some isOn))
    (effect : ToggleEffect s.toggles (itemValues s) position isOn t) :
    itemValues t = rowValues t ↔ TogglesItself s (.toggle position) t := by
  cases effect with
  | unchanged differs items rows =>
    refine iff_of_true (items.trans rows.symm) ?_
    intro position' earlier isOn' row other isToggle shown' here shows
    cases isToggle
    cases shown.symm.trans shown'
    exact absurd shows (differs row here)
  | itself row here first items rows =>
    refine iff_of_true (items.trans rows.symm) ?_
    intro position' earlier isOn' row' other isToggle shown' here' shows before isOther
    cases isToggle
    cases shown.symm.trans shown'
    cases here.symm.trans here'
    exact first earlier other before isOther
  | another row here shows earlier before equal items rows =>
    refine iff_of_false ?_ ?_
    · intro agree
      have old : (itemValues s)[position]? = some isOn := by
        rw [value_of_row h.agree here, shows]
      have bound := (List.getElem?_eq_some_iff.mp old).1
      have new : (itemValues s)[position]? = some !isOn := by
        rw [← items, agree, rows]
        exact List.getElem?_set_self bound
      have clash := Option.some.inj (old.symm.trans new)
      simp at clash
    · intro itself
      exact itself position earlier isOn row _ rfl shown here shows before equal rfl

theorem not_toggle_or (e : Event) : (∃ position, e = .toggle position) ∨
    ∀ position, e ≠ .toggle position := by
  cases e with
  | toggle position => exact .inl ⟨position, rfl⟩
  | _ => exact .inr (by simp)

theorem togglesItself_of_quiet {e : Event} (quiet : ∀ position, e ≠ .toggle position) :
    TogglesItself s e t :=
  fun position _ _ _ _ isToggle => absurd isToggle (quiet position)

theorem shownAsStored_of_ne {e : Event} (notLoaded : e ≠ .viewWillAppear) :
    ShownAsStored s e t :=
  fun _ _ _ _ _ isLoad => absurd isLoad notLoaded

theorem rowsSaved_step_iff (s : System) (e : Event) (t : System) (h : BetweenEvents s)
    (taken : step s e = some t) : RowsSaved s e t ↔ TogglesItself s e t := by
  rcases not_toggle_or e with ⟨position, rfl⟩ | quiet
  · obtain ⟨isOn, shown⟩ := toggle_shown taken
    obtain ⟨effect, -, keys, -⟩ := toggleSwitch_effect h shown taken
    rw [rowsSaved_iff (keys ▸ h.distinct)]
    exact agree_iff_togglesItself h shown effect
  · have between := (quiet_step h quiet taken).2
    rw [rowsSaved_iff between.distinct]
    exact iff_of_true between.agree (togglesItself_of_quiet quiet)

theorem betweenEvents_step (s : System) (e : Event) (t : System) (h : BetweenEvents s)
    (taken : step s e = some t) (itself : TogglesItself s e t) : BetweenEvents t := by
  rcases not_toggle_or e with ⟨position, rfl⟩ | quiet
  · obtain ⟨isOn, shown⟩ := toggle_shown taken
    obtain ⟨effect, -, keys, mainQueue⟩ := toggleSwitch_effect h shown taken
    exact ⟨keys ▸ h.distinct, mainQueue, (agree_iff_togglesItself h shown effect).mpr itself⟩
  · exact (quiet_step h quiet taken).2

/-- A switch that is on the screen after one was set is that one, or was there before. -/
theorem shown_of_set {switches : List (Option Bool)} {position place : Nat} {set : Option Bool}
    {isOn : Bool} (there : (switches.set position set)[place]? = some (some isOn)) :
    (position = place ∧ set = some isOn) ∨
      (position ≠ place ∧ switches[place]? = some (some isOn)) := by
  by_cases same : position = place
  · subst same
    have inside : position < switches.length := by
      simpa using (List.getElem?_eq_some_iff.mp there).1
    rw [List.getElem?_set_self inside, Option.some.injEq] at there
    exact .inl ⟨rfl, there⟩
  · rw [List.getElem?_set_ne same] at there
    exact .inr ⟨same, there⟩

/-- Where the switches show the items, a toggle that finds itself keeps it so, and one that
finds another row does not. -/
theorem showsItems_toggle_iff (h : BetweenEvents s) (shows : ShowsItems s) {position : Nat}
    (taken : step s (.toggle position) = some t) :
    ShowsItems t ↔ TogglesItself s (.toggle position) t := by
  obtain ⟨isOn, shown⟩ := toggle_shown taken
  obtain ⟨effect, switches, -, -⟩ := toggleSwitch_effect h shown taken
  have agrees := agree_iff_togglesItself h shown effect
  cases effect with
  | unchanged differs items rows =>
    refine iff_of_true ?_ (agrees.mp (items.trans rows.symm))
    intro place value shownValue found there
    rw [items] at found
    rw [switches] at there
    rcases shown_of_set there with ⟨rfl, -⟩ | ⟨-, stays⟩
    · obtain ⟨row, here, rowValue⟩ : ∃ row, s.toggles[position]? = some row ∧
          row.switchValue = value := by
        rw [h.agree] at found
        simpa [rowValues] using found
      have old := shows position _ isOn (value_of_row h.agree here) shown
      exact absurd old (differs row here)
    · exact shows place value shownValue found stays
  | itself row here first items rows =>
    refine iff_of_true ?_ (agrees.mp (items.trans rows.symm))
    intro place value shownValue found there
    rw [items] at found
    rw [switches] at there
    rcases shown_of_set there with ⟨rfl, turned⟩ | ⟨different, stays⟩
    · have inside : position < (itemValues s).length := by
        simpa using (List.getElem?_eq_some_iff.mp found).1
      rw [List.getElem?_set_self inside, Option.some.injEq] at found
      exact found.symm.trans (Option.some.inj turned)
    · rw [List.getElem?_set_ne different] at found
      exact shows place value shownValue found stays
  | another row here rowShows earlier before equal items rows =>
    refine iff_of_false ?_ ?_
    · intro stillShows
      have old : (itemValues t)[position]? = some isOn := by
        rw [items, value_of_row h.agree here, rowShows]
      have turned : t.switches[position]? = some (some !isOn) := by
        rw [switches]
        exact List.getElem?_set_self (List.getElem?_eq_some_iff.mp shown).1
      have clash := stillShows position isOn (!isOn) old turned
      simp at clash
    · intro itself
      exact itself position earlier isOn row _ rfl shown here rowShows before equal rfl

theorem showsItems_quiet_iff (h : BetweenEvents s) (shows : ShowsItems s) {e : Event}
    (effect : QuietEffect s e t) : ShowsItems t ↔ ShownAsStored s e t := by
  have kept (items : t.items = s.items) (switches : ∀ (position : Nat) (isOn : Bool),
      t.switches[position]? = some (some isOn) → s.switches[position]? = some (some isOn)) :
      ShowsItems t := by
    intro position value isOn found there
    rw [itemValues, items] at found
    exact shows position value isOn found (switches position isOn there)
  cases effect with
  | loaded _ user isUser items switches =>
    constructor
    · intro stillShows user' position item isOn value _ isUser' there shown stored
      cases isUser.symm.trans isUser'
      refine stillShows position value isOn ?_ (by rw [switches, shown])
      simp [itemValues, items, loaded, there, stored]
    · intro asStored position value isOn found there
      rw [switches] at there
      obtain ⟨item, isItem, isValue⟩ : ∃ item, s.items[position]? = some item ∧
          (storedValue user.settings item.key).getD item.value = value := by
        simpa [itemValues, items, loaded] using found
      cases stored : storedValue user.settings item.key with
      | none =>
        rw [stored] at isValue
        exact shows position value isOn (by simp [itemValues, isItem, ← isValue]) there
      | some storedValue =>
        rw [stored] at isValue
        exact isValue.symm.trans
          (asStored user position item isOn _ rfl isUser isItem there stored)
  | noUser _ isNone items switches =>
    refine iff_of_true (kept items (by simp [switches])) ?_
    intro user position item isOn value _ isUser
    cases isNone.symm.trans isUser
  | configured _ position row here items switches =>
    refine iff_of_true ?_ (shownAsStored_of_ne (by simp))
    intro place value isOn found there
    rw [itemValues, items] at found
    rw [switches] at there
    rcases shown_of_set there with ⟨rfl, configured⟩ | ⟨-, stays⟩
    · have rowValue : some value = some row.switchValue :=
        found.symm.trans (value_of_row h.agree here)
      exact Option.some.inj (rowValue.trans configured)
    · exact shows place value isOn found stays
  | ended _ position items switches =>
    refine iff_of_true (kept items ?_) (shownAsStored_of_ne (by simp))
    intro place isOn there
    rw [switches] at there
    rcases shown_of_set there with ⟨-, gone⟩ | ⟨-, stays⟩
    · cases gone
    · exact stays
  | same _ _ notLoaded items switches =>
    exact iff_of_true (kept items (by simp [switches])) (shownAsStored_of_ne notLoaded)

theorem switchesSaved_step_iff (s : System) (e : Event) (t : System)
    (h : BetweenEvents s ∧ ShowsItems s) (taken : step s e = some t) :
    SwitchesSaved s e t ↔ TogglesItself s e t ∧ ShownAsStored s e t := by
  obtain ⟨between, shows⟩ := h
  rcases not_toggle_or e with ⟨position, rfl⟩ | quiet
  · obtain ⟨isOn, shown⟩ := toggle_shown taken
    obtain ⟨-, -, keys, -⟩ := toggleSwitch_effect between shown taken
    have notLoaded : ShownAsStored s (.toggle position) t := shownAsStored_of_ne (by simp)
    rw [switchesSaved_iff (keys ▸ between.distinct), showsItems_toggle_iff between shows taken]
    exact (and_iff_left notLoaded).symm
  · obtain ⟨effect, after⟩ := quiet_step between quiet taken
    rw [switchesSaved_iff after.distinct, showsItems_quiet_iff between shows effect]
    exact (and_iff_right (togglesItself_of_quiet quiet)).symm

theorem showsItems_step (s : System) (e : Event) (t : System)
    (h : BetweenEvents s ∧ ShowsItems s) (taken : step s e = some t)
    (met : TogglesItself s e t ∧ ShownAsStored s e t) : BetweenEvents t ∧ ShowsItems t := by
  have between := betweenEvents_step s e t h.1 taken met.1
  have saved := (switchesSaved_step_iff s e t h taken).mpr met
  exact ⟨between, (switchesSaved_iff between.distinct).mp saved⟩

end Steps

/-! ## Runs -/

section Runs

variable (user : Option ATCUser) (sections : List ATCSettingsSection) (hasProfileUpdater : Bool)

/-- The rows are made from the items, so the two agree before any setting is loaded. -/
theorem betweenEvents_viewDidLoad
    (distinct : ((sections.flatMap ATCSettingsSection.options).map ATCSettingsItem.key).Nodup) :
    BetweenEvents (viewDidLoad user sections hasProfileUpdater) where
  distinct := distinct
  idle := rfl
  agree := by
    simp only [itemValues, rowValues, viewDidLoad, List.map_flatMap, List.map_map]
    rfl

/-- No cell has been configured. -/
theorem showsItems_viewDidLoad : ShowsItems (viewDidLoad user sections hasProfileUpdater) := by
  intro position value isOn _ there
  have member := List.mem_of_getElem? there
  simp [viewDidLoad] at member

/-- The save button sends the items, if there is a user and an updater. -/
theorem handleSaveButton_sent {es : List Event} {t : System}
    (reached : run step (viewDidLoad user sections hasProfileUpdater) es = some t) :
    (handleSaveButton t).sent = t.sent ++
      if user.isSome && hasProfileUpdater then [userSettingsJSON t.items] else [] := by
  have same : canSave t = (user.isSome && hasProfileUpdater) :=
    run_invariant (fun s => canSave s = (user.isSome && hasProfileUpdater))
      (fun s e t kept taken => (canSave_step taken).trans kept) rfl reached
  rw [← same, canSave, handleSaveButton]
  split
  · rfl
  · rw [List.append_nil]

/-- For all sections whose items have distinct keys and every run: each item's key is sent with
the value of its row exactly when no toggle finds an earlier row than its own, and with the
value of the switch on the screen exactly when, besides, no loaded setting differs from the
switch that is on the screen. What is sent is `userSettingsJSON`. -/
theorem settings_sent_as_shown_iff
    (distinct : ((sections.flatMap ATCSettingsSection.options).map ATCSettingsItem.key).Nodup)
    (es : List Event) :
    (AlongRun step RowsSaved (viewDidLoad user sections hasProfileUpdater) es ↔
      AlongRun step TogglesItself (viewDidLoad user sections hasProfileUpdater) es) ∧
    (AlongRun step SwitchesSaved (viewDidLoad user sections hasProfileUpdater) es ↔
      AlongRun step (fun s e t => TogglesItself s e t ∧ ShownAsStored s e t)
        (viewDidLoad user sections hasProfileUpdater) es) ∧
    ∀ t, run step (viewDidLoad user sections hasProfileUpdater) es = some t →
      (handleSaveButton t).sent = t.sent ++
        if user.isSome && hasProfileUpdater then [userSettingsJSON t.items] else [] := by
  have start := betweenEvents_viewDidLoad user sections hasProfileUpdater distinct
  refine ⟨?_, ?_, fun t reached => handleSaveButton_sent user sections hasProfileUpdater reached⟩
  · exact alongRun_iff_of_invariant BetweenEvents rowsSaved_step_iff betweenEvents_step start
  · exact alongRun_iff_of_invariant (fun s => BetweenEvents s ∧ ShowsItems s)
      switchesSaved_step_iff showsItems_step
      ⟨start, showsItems_viewDidLoad user sections hasProfileUpdater⟩

end Runs

/-- Two sections with an item each; both items have the same display name. -/
def emailSections : List ATCSettingsSection :=
  [⟨[⟨"Email", "news_email", false⟩]⟩, ⟨[⟨"Email", "chat_email", false⟩]⟩]


def settingsUser : ATCUser :=
  ATCUser.new "1" none none none "" "" none none none false none none false none "" true []

/-- Both switches are turned on, the upper one first. -/
def turnBothOn : List Event := [.cellForRow 0, .cellForRow 1, .toggle 0, .toggle 1]

/-- The lower switch alone is turned on: it is sent as it is shown. -/
theorem lower_switch_saved :
    AlongRun step SwitchesSaved (viewDidLoad (some settingsUser) emailSections true)
      [.cellForRow 1, .toggle 1] := by
  obtain ⟨-, saved, -⟩ :=
    settings_sent_as_shown_iff (some settingsUser) emailSections true (by decide)
      [.cellForRow 1, .toggle 1]
  refine saved.mpr ?_
  intro shown configured
  cases configured
  refine ⟨⟨togglesItself_of_quiet (by simp), shownAsStored_of_ne (by simp)⟩, ?_⟩
  intro turned toggled
  refine ⟨⟨?_, shownAsStored_of_ne (by simp)⟩, trivial⟩
  intro position earlier isOn row other isToggle shownThere here shows before isOther equal
  cases isToggle
  obtain rfl : earlier = 0 := by omega
  cases here
  cases isOther
  cases shows
  simp [convert] at equal

/-- The second toggle finds the first row again, and `chat_email` stays off. -/
theorem equal_row_keeps_setting_off :
    ¬ ∀ (user : ATCUser) (sections : List ATCSettingsSection),
      ((sections.flatMap ATCSettingsSection.options).map ATCSettingsItem.key).Nodup →
        ∀ es, AlongRun step SwitchesSaved (viewDidLoad (some user) sections true) es := by
  intro claim
  have along := claim settingsUser emailSections (by decide) turnBothOn
  have saved := ((((along _ rfl).2 _ rfl).2 _ rfl).2 _ rfl).1
  have sent := saved 1 ⟨"Email", "chat_email", false⟩ true (by decide) (by decide)
  exact absurd sent (by decide)

end FinanciaApp.Guarantees
