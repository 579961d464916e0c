import FinanciaApp.Guarantees.DateRangePickerTaps

/-!
# What the date range picker shows of the selection

`CalendarDateRangePickerViewController.swift:91-171` and `CalendarDateRangePickerCell.swift`.
A change of the selection reloads the grid, and a cell is reset before it shows an item. So at
any time every cell on screen shows the selection as it is: the circles stand at the start and
at the end, and the background is filled from the middle of the start to the middle of the end,
with a gap before the first and after the last day of a month in between.
-/

set_option autoImplicit false

namespace FinanciaApp.Guarantees

open Library Source Source.CalendarDateRangePicker

def fillsLeft (look : PickerLook) : Bool :=
  look.highlightedBackground || look.halfBackgroundView = some .left

def fillsRight (look : PickerLook) : Bool :=
  look.highlightedBackground || look.halfBackgroundView = some .right

/-- The item of a day shows the selection. -/
structure ShowsSelection (picker : CalendarDateRangePicker) (day : CivilDate)
    (look : PickerLook) : Prop where
  label : look.label = .day day.day
  selected : look.selectedView = true ↔
    picker.selectedStartDate.map Date.day = some day ∨
      picker.selectedEndDate.map Date.day = some day
  textColor : look.textColor =
    if look.selectedView then .white
    else if day < picker.minimumDate.day then .disabledColor
    else .defaultTextColor
  left : fillsLeft look = true ↔ ∃ start finish, picker.selectedStartDate = some start ∧
    picker.selectedEndDate = some finish ∧ start.day < day ∧ day ≤ finish.day ∧
    (day.day = 1 → day = finish.day)
  right : fillsRight look = true ↔ ∃ start finish, picker.selectedStartDate = some start ∧
    picker.selectedEndDate = some finish ∧ start.day ≤ day ∧ day < finish.day ∧
    (day.day = monthLength day.month → day = start.day)

/-- An item without a day shows nothing of the selection. -/
def isPlain (look : PickerLook) : Prop :=
  look.textColor = .defaultTextColor ∧ look.selectedView = false ∧
    fillsLeft look = false ∧ fillsRight look = false

variable {picker next : CalendarDateRangePicker}

/-- With a complete range the backgrounds are about that range. -/
theorem showsSelection_of_range {start finish : Date}
    (hasStart : picker.selectedStartDate = some start)
    (hasEnd : picker.selectedEndDate = some finish) {day : CivilDate} {look : PickerLook}
    (label : look.label = .day day.day)
    (selected : look.selectedView = true ↔ start.day = day ∨ finish.day = day)
    (textColor : look.textColor =
      if look.selectedView then .white
      else if day < picker.minimumDate.day then .disabledColor
      else .defaultTextColor)
    (left : fillsLeft look = true ↔
      start.day < day ∧ day ≤ finish.day ∧ (day.day = 1 → day = finish.day))
    (right : fillsRight look = true ↔ start.day ≤ day ∧ day < finish.day ∧
      (day.day = monthLength day.month → day = start.day)) :
    ShowsSelection picker day look := by
  refine ⟨label, ?_, textColor, ?_, ?_⟩
  · simpa only [hasStart, hasEnd, Option.map_some, Option.some.injEq] using selected
  · rw [left, hasStart, hasEnd]
    exact ⟨fun h => ⟨start, finish, rfl, rfl, h⟩, fun ⟨_, _, isStart, isEnd, h⟩ => by
      cases isStart
      cases isEnd
      exact h⟩
  · rw [right, hasStart, hasEnd]
    exact ⟨fun h => ⟨start, finish, rfl, rfl, h⟩, fun ⟨_, _, isStart, isEnd, h⟩ => by
      cases isStart
      cases isEnd
      exact h⟩

/-- With no complete range there is no background. -/
theorem showsSelection_of_noRange (noEnd : picker.selectedEndDate = none) {day : CivilDate}
    {look : PickerLook} (label : look.label = .day day.day)
    (selected : look.selectedView = true ↔ picker.selectedStartDate.map Date.day = some day)
    (textColor : look.textColor =
      if look.selectedView then .white
      else if day < picker.minimumDate.day then .disabledColor
      else .defaultTextColor)
    (left : fillsLeft look = false) (right : fillsRight look = false) :
    ShowsSelection picker day look := by
  refine ⟨label, ?_, textColor, ?_, ?_⟩
  · rw [selected, noEnd]
    simp
  · rw [left, noEnd]
    simp
  · rw [right, noEnd]
    simp

/-- The marks that `marked` leaves on an item that has none. -/
theorem showsSelection_marked (ordered : OrderedSelection picker) (date : Date)
    (look : PickerLook) (label : look.label = .day date.day.day)
    (textColor : look.textColor =
      if date.day < picker.minimumDate.day then .disabledColor else .defaultTextColor)
    (noCircle : look.selectedView = false) (noBackground : look.highlightedBackground = false)
    (noHalf : look.halfBackgroundView = none) :
    ShowsSelection picker date.day (picker.marked date date.day.day look) := by
  have long := monthLength_ge date.day.month
  have noLeft : fillsLeft look = false := by simp [fillsLeft, noBackground, noHalf]
  have noRight : fillsRight look = false := by simp [fillsRight, noBackground, noHalf]
  have uncircled : look.textColor =
      if look.selectedView then .white
      else if date.day < picker.minimumDate.day then .disabledColor
      else .defaultTextColor := by
    rw [noCircle, textColor]
    rfl
  unfold marked
  cases hasEnd : picker.selectedEndDate with
  | none =>
    cases hasStart : picker.selectedStartDate with
    | none =>
      refine showsSelection_of_noRange hasEnd label ?_ uncircled noLeft noRight
      simp [noCircle, hasStart]
    | some start =>
      simp only [areSameDay, decide_eq_true_eq]
      split_ifs with atStart
      · refine showsSelection_of_noRange hasEnd label ?_ rfl noLeft noRight
        simp [PickerLook.select, hasStart, atStart]
      · refine showsSelection_of_noRange hasEnd label ?_ uncircled noLeft noRight
        simp [noCircle, hasStart, Ne.symm atStart]
  | some finish =>
    obtain ⟨start, hasStart, later⟩ := ordered.2 finish hasEnd
    simp only [hasStart, isBefore, areSameDay, Bool.and_eq_true, decide_eq_true_eq]
    split_ifs with between first last atStart atEnd
    · -- in between, the first of its month
      refine showsSelection_of_range hasStart hasEnd label ?_ uncircled ?_ ?_
      · simp [PickerLook.highlightRight, noCircle, between.1.ne, between.2.ne']
      · simp [fillsLeft, PickerLook.highlightRight, noBackground, first, between.2.ne]
      · have notLast : 1 ≠ monthLength date.day.month := by omega
        simp [fillsRight, PickerLook.highlightRight, first, between.1.le, between.2, notLast]
    · -- in between, the last of its month
      have lastOfMonth : date.day.day = monthLength date.day.month := last
      refine showsSelection_of_range hasStart hasEnd label ?_ uncircled ?_ ?_
      · simp [PickerLook.highlightLeft, noCircle, between.1.ne, between.2.ne']
      · simp [fillsLeft, PickerLook.highlightLeft, first, between.1, between.2.le]
      · simp [fillsRight, PickerLook.highlightLeft, noBackground, lastOfMonth, between.1.ne']
    · have notLast : date.day.day ≠ monthLength date.day.month := last
      refine showsSelection_of_range hasStart hasEnd label ?_ uncircled ?_ ?_
      · simp [PickerLook.highlight, noCircle, between.1.ne, between.2.ne']
      · simp [fillsLeft, PickerLook.highlight, first, between.1, between.2.le]
      · simp [fillsRight, PickerLook.highlight, notLast, between.1.le, between.2]
    · refine showsSelection_of_range hasStart hasEnd label ?_ rfl ?_ ?_
      · simp [PickerLook.highlightRight, PickerLook.select, atStart]
      · simp [fillsLeft, PickerLook.highlightRight, PickerLook.select, noBackground, atStart]
      · simp [fillsRight, PickerLook.highlightRight, PickerLook.select, atStart, later]
    · refine showsSelection_of_range hasStart hasEnd label ?_ rfl ?_ ?_
      · simp [PickerLook.highlightLeft, PickerLook.select, atEnd]
      · simp [fillsLeft, PickerLook.highlightLeft, PickerLook.select, atEnd, later]
      · simp [fillsRight, PickerLook.highlightLeft, PickerLook.select, noBackground, atEnd]
    · -- before the start or after the end
      refine showsSelection_of_range hasStart hasEnd label ?_ uncircled ?_ ?_
      · simp [noCircle, Ne.symm atStart, Ne.symm atEnd]
      · rw [noLeft]
        simp only [Bool.false_eq_true, false_iff]
        intro filled
        obtain ⟨afterStart, toEnd, -⟩ := filled
        exact between ⟨afterStart, lt_of_le_of_ne toEnd atEnd⟩
      · rw [noRight]
        simp only [Bool.false_eq_true, false_iff]
        intro filled
        obtain ⟨fromStart, beforeEnd, -⟩ := filled
        exact between ⟨lt_of_le_of_ne fromStart (Ne.symm atStart), beforeEnd⟩

theorem lookAt_plain {path : IndexPath} (noDay : shownDate picker path = none) :
    isPlain (lookAt picker path) := by
  unfold shownDate CalendarDateRangePicker.dayOfMonth at noDay
  unfold lookAt CalendarDateRangePicker.cellForItemAt
  split_ifs at noDay ⊢
  · exact ⟨rfl, rfl, rfl, rfl⟩
  · exact ⟨rfl, rfl, rfl, rfl⟩
  · cases noDay

theorem lookAt_showsSelection (ordered : OrderedSelection picker) {path : IndexPath}
    (there : picker.has path = true) {date : Date} (isDay : shownDate picker path = some date) :
    ShowsSelection picker date.day (lookAt picker path) := by
  obtain ⟨dayOfMonth, isItem, rfl⟩ := Option.map_eq_some_iff.mp isDay
  obtain ⟨first, item⟩ := (dayOfMonth_eq_some picker path dayOfMonth).mp isItem
  have inItems : path.item < picker.numberOfItemsInSection path.section_ := by
    unfold has at there
    rw [Bool.and_eq_true, decide_eq_true_eq, decide_eq_true_eq] at there
    exact there.2
  rw [numberOfItems_eq] at inItems
  have sameDay := (getDate_day picker path.section_ dayOfMonth first (by omega)).2
  have sameItem : path.item - (7 + picker.blankItems path.section_) + 1 = dayOfMonth := by omega
  unfold lookAt CalendarDateRangePicker.cellForItemAt
  simp only [sameItem]
  rw [if_neg (by omega), if_neg (by omega)]
  have marked := showsSelection_marked ordered (picker.getDate dayOfMonth path.section_)
    (if isBefore (picker.getDate dayOfMonth path.section_) picker.minimumDate then
      ({ PickerLook.new.reset with label := .day dayOfMonth } : PickerLook).disable
      else { PickerLook.new.reset with label := .day dayOfMonth })
  rw [sameDay] at marked
  unfold isBefore at marked ⊢
  by_cases before : (picker.getDate dayOfMonth path.section_).day < picker.minimumDate.day
  · simp only [before, decide_true, if_true] at marked ⊢
    exact marked rfl rfl rfl rfl rfl
  · simp only [before, decide_false, Bool.false_eq_true, if_false] at marked ⊢
    exact marked trivial rfl rfl rfl rfl

theorem has_congr (minimum : next.minimumDate = picker.minimumDate)
    (maximum : next.maximumDate = picker.maximumDate) : next.has = picker.has := by
  cases picker
  cases next
  cases minimum
  cases maximum
  rfl

/-- Only items of the grid come on screen. -/
theorem step_visible {e : Event} (h : step picker e = some next) :
    ∀ entry ∈ next.visible, entry ∈ picker.visible ∨ picker.has entry.1 = true := by
  cases e with
  | cellForItemAt path ref =>
    simp only [step] at h
    split_ifs at h with taken
    all_goals
      cases h
      intro entry isShown
      rcases List.mem_cons.mp isShown with rfl | old
      · simp only [Bool.or_eq_true, Bool.not_eq_true', not_or, Bool.not_eq_false] at taken
        exact Or.inr taken.1
      · exact Or.inl old
  | didEndDisplaying path =>
    simp only [step, Option.map_eq_some_iff] at h
    obtain ⟨ref, -, rfl⟩ := h
    exact fun entry isShown => Or.inl (List.mem_of_mem_filter isShown)
  | didSelectItemAt path =>
    simp only [step, Option.map_eq_some_iff] at h
    obtain ⟨ref, -, rfl⟩ := h
    intro entry isShown
    rcases (didSelectItemAt_cells picker _).2 with same | ⟨gone, -⟩
    · rw [same] at isShown
      exact Or.inl isShown
    · rw [gone] at isShown
      cases isShown
  | didTapDone =>
    simp only [step] at h
    split_ifs at h
    cases h
    unfold CalendarDateRangePicker.didTapDone
    split
    · exact fun entry isShown => Or.inl isShown
    · exact fun entry isShown => Or.inl isShown
  | didTapCancel =>
    cases h
    exact fun entry isShown => Or.inl isShown

theorem visible_has_step {e : Event} (there : ∀ entry ∈ picker.visible, picker.has entry.1 = true)
    (h : step picker e = some next) : ∀ entry ∈ next.visible, next.has entry.1 = true := by
  obtain ⟨minimum, maximum, -⟩ := step_selection h
  rw [has_congr minimum maximum]
  intro entry isShown
  exact (step_visible h entry isShown).elim (there entry) id

/-- From a selection that is ordered, every cell on screen shows the selection as it is now,
whatever its object showed before: the item of a day has its circle and its background, an item
without a day has none. -/
theorem cells_show_selection (now : Date) (minimumDate maximumDate start finish : Option Date)
    (given : OrderedSelection (viewDidLoad now minimumDate maximumDate start finish))
    (es : List Event) (picker : CalendarDateRangePicker)
    (h : run step (viewDidLoad now minimumDate maximumDate start finish) es = some picker)
    (path : IndexPath) (ref : ℕ) (shown : picker.visible.lookup path = some ref) :
    ∃ look, picker.cells[ref]?.map CalendarDateRangePickerCell.look = some look ∧
      match shownDate picker path with
      | none => isPlain look
      | some date => ShowsSelection picker date.day look := by
  have kept := tapsKept_run now minimumDate maximumDate start finish given h
  have there : ∀ entry ∈ picker.visible, picker.has entry.1 = true :=
    run_invariant (fun picker => ∀ entry ∈ picker.visible, picker.has entry.1 = true)
      (fun _ _ _ there h' => visible_has_step there h')
      (fun entry isShown => absurd isShown List.not_mem_nil) h
  refine ⟨lookAt picker path, kept.cells.looks (path, ref) (mem_of_lookup shown), ?_⟩
  cases isDay : shownDate picker path with
  | none => exact lookAt_plain isDay
  | some date =>
    exact lookAt_showsSelection kept.ordered (there (path, ref) (mem_of_lookup shown)) isDay

/-- With the range from the twentieth of January to the tenth of April. -/
def rangePicker : CalendarDateRangePicker :=
  viewDidLoad (midnight twentiethOfJanuary) none none (some (midnight twentiethOfJanuary))
    (some (midnight tenthOfApril))

def firstOfFebruary : CivilDate := .firstOf (12 * 2024 + 1)

/-- A cell that showed a day of January comes back for the first of February. -/
def reusedForFebruary : List Event :=
  [.cellForItemAt ⟨0, 27⟩ 0, .didEndDisplaying ⟨0, 27⟩, .cellForItemAt ⟨1, 11⟩ 0]

theorem cells_show_selection_february : ∃ picker look,
    run step rangePicker reusedForFebruary = some picker ∧
    picker.cells[0]?.map CalendarDateRangePickerCell.look = some look ∧
    ShowsSelection picker firstOfFebruary look := by
  have given : OrderedSelection rangePicker := by
    refine ⟨fun start isStart => ?_, fun finish isEnd => ?_⟩
    · cases isStart
      decide
    · cases isEnd
      exact ⟨_, rfl, by decide⟩
  have reached : run step rangePicker reusedForFebruary =
      some ((run step rangePicker reusedForFebruary).getD rangePicker) := rfl
  obtain ⟨look, isLook, shows_⟩ :=
    cells_show_selection _ _ _ _ _ given _ _ reached ⟨1, 11⟩ 0 rfl
  exact ⟨_, look, reached, isLook, shows_⟩

end FinanciaApp.Guarantees
