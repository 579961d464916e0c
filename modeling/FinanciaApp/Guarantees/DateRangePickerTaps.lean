import FinanciaApp.Guarantees.DateRangePickerGrid

/-!
# What taps on the date range picker select

`CalendarDateRangePickerViewController.swift:61-70,91-171`. A cell keeps its date when it is
reused for a weekday or a blank item, since `reset` leaves the date and only an item with a day
sets it. So a tap beside the days selects the day that the cell showed last, if it ever showed
one. Whatever cells are tapped, the selected end is after the selected start, which is not
before the minimum, and only such ranges are handed over; the button that does so is on from the
first complete range, also while the next one is incomplete.
-/

set_option autoImplicit false

namespace FinanciaApp.Guarantees

open Library Source Source.CalendarDateRangePicker

/-- The start is not before the minimum, and an end is after the start. -/
def OrderedSelection (picker : CalendarDateRangePicker) : Prop :=
  (∀ start, picker.selectedStartDate = some start → picker.minimumDate.day ≤ start.day) ∧
    ∀ finish, picker.selectedEndDate = some finish →
      ∃ start, picker.selectedStartDate = some start ∧ start.day < finish.day

def isComplete (picker : CalendarDateRangePicker) : Bool :=
  picker.selectedStartDate.isSome && picker.selectedEndDate.isSome

section Selection

variable {picker next : CalendarDateRangePicker}

/-- A step keeps the bounds; only a tap on a cell changes the selection. -/
theorem step_selection {e : Event} (h : step picker e = some next) :
    next.minimumDate = picker.minimumDate ∧ next.maximumDate = picker.maximumDate ∧
    ((next.selectedStartDate = picker.selectedStartDate ∧
        next.selectedEndDate = picker.selectedEndDate ∧
        next.isDoneEnabled = picker.isDoneEnabled) ∨
      ∃ date : Date, picker.minimumDate.day ≤ date.day ∧
        ((picker.selectedStartDate = none ∧ next.selectedStartDate = some date ∧
            next.selectedEndDate = picker.selectedEndDate ∧
            next.isDoneEnabled = picker.isDoneEnabled) ∨
          (∃ start, picker.selectedStartDate = some start ∧ picker.selectedEndDate = none ∧
            start.day < date.day ∧ next.selectedStartDate = some start ∧
            next.selectedEndDate = some date ∧ next.isDoneEnabled = true) ∨
          (next.selectedStartDate = some date ∧ next.selectedEndDate = none ∧
            next.isDoneEnabled = picker.isDoneEnabled))) := by
  cases e with
  | cellForItemAt path ref =>
    simp only [step] at h
    split_ifs at h
    all_goals
      cases h
      exact ⟨rfl, rfl, Or.inl ⟨rfl, rfl, rfl⟩⟩
  | didEndDisplaying path =>
    simp only [step, Option.map_eq_some_iff] at h
    obtain ⟨ref, -, rfl⟩ := h
    exact ⟨rfl, rfl, Or.inl ⟨rfl, rfl, rfl⟩⟩
  | didSelectItemAt path =>
    simp only [step, Option.map_eq_some_iff] at h
    obtain ⟨ref, -, rfl⟩ := h
    cases picker.cells[ref]?.bind CalendarDateRangePickerCell.date with
    | none => exact ⟨rfl, rfl, Or.inl ⟨rfl, rfl, rfl⟩⟩
    | some date =>
      simp only [CalendarDateRangePicker.didSelectItemAt, isBefore, decide_eq_true_eq]
      split_ifs with before
      · exact ⟨rfl, rfl, Or.inl ⟨rfl, rfl, rfl⟩⟩
      · have fromMinimum := not_lt.mp before
        cases hasStart : picker.selectedStartDate with
        | none => exact ⟨rfl, rfl, Or.inr ⟨date, fromMinimum, Or.inl ⟨rfl, rfl, rfl, rfl⟩⟩⟩
        | some start =>
          cases hasEnd : picker.selectedEndDate with
          | none =>
            by_cases later : start.day < date.day
            · simp only [if_pos later]
              exact ⟨rfl, rfl, Or.inr ⟨date, fromMinimum, Or.inr (Or.inl
                ⟨start, rfl, trivial, later, rfl, rfl, rfl⟩)⟩⟩
            · simp only [if_neg later]
              exact ⟨rfl, rfl, Or.inr ⟨date, fromMinimum, Or.inr (Or.inr
                ⟨rfl, rfl, rfl⟩)⟩⟩
          | some finish =>
            exact ⟨rfl, rfl, Or.inr ⟨date, fromMinimum, Or.inr (Or.inr ⟨rfl, rfl, rfl⟩)⟩⟩
  | didTapDone =>
    simp only [step] at h
    split_ifs at h
    cases h
    unfold CalendarDateRangePicker.didTapDone
    split
    · exact ⟨rfl, rfl, Or.inl ⟨rfl, rfl, rfl⟩⟩
    · exact ⟨rfl, rfl, Or.inl ⟨rfl, rfl, rfl⟩⟩
  | didTapCancel =>
    cases h
    exact ⟨rfl, rfl, Or.inl ⟨rfl, rfl, rfl⟩⟩

theorem orderedSelection_step {e : Event} (ordered : OrderedSelection picker)
    (h : step picker e = some next) : OrderedSelection next := by
  obtain ⟨minimum, -, same | ⟨date, fromMinimum, first | range | again⟩⟩ := step_selection h
  · obtain ⟨start, finish, -⟩ := same
    unfold OrderedSelection
    rw [minimum, start, finish]
    exact ordered
  · obtain ⟨noStart, start, finish, -⟩ := first
    unfold OrderedSelection
    rw [minimum, start, finish]
    refine ⟨fun other same => ?_, fun other isEnd => ?_⟩
    · cases same
      exact fromMinimum
    · -- an end needs a start, and there was none
      obtain ⟨old, isOld, -⟩ := ordered.2 other isEnd
      rw [noStart] at isOld
      cases isOld
  · obtain ⟨old, isStart, -, later, start, finish, -⟩ := range
    unfold OrderedSelection
    rw [minimum, start, finish]
    refine ⟨fun other same => ?_, fun other isEnd => ?_⟩
    · cases same
      exact ordered.1 old isStart
    · cases isEnd
      exact ⟨old, rfl, later⟩
  · obtain ⟨start, finish, -⟩ := again
    unfold OrderedSelection
    rw [minimum, start, finish]
    refine ⟨fun other same => ?_, fun other isEnd => ?_⟩
    · cases same
      exact fromMinimum
    · cases isEnd

/-- A step hands over at most the selected range. -/
theorem step_picked {e : Event} (h : step picker e = some next) :
    next.picked = picker.picked ∨ ∃ start finish, picker.selectedStartDate = some start ∧
      picker.selectedEndDate = some finish ∧ next.picked = picker.picked ++ [(start, finish)] := by
  cases e with
  | cellForItemAt path ref =>
    simp only [step] at h
    split_ifs at h
    all_goals
      cases h
      exact Or.inl rfl
  | didEndDisplaying path =>
    simp only [step, Option.map_eq_some_iff] at h
    obtain ⟨ref, -, rfl⟩ := h
    exact Or.inl rfl
  | didSelectItemAt path =>
    simp only [step, Option.map_eq_some_iff] at h
    obtain ⟨ref, -, rfl⟩ := h
    left
    unfold CalendarDateRangePicker.didSelectItemAt
    split
    · rfl
    · split_ifs
      · rfl
      · simp only [reloadData]
        split
        · rfl
        · split_ifs <;> rfl
        · rfl
  | didTapDone =>
    simp only [step] at h
    split_ifs at h
    cases h
    unfold CalendarDateRangePicker.didTapDone
    split
    · rename_i start finish isStart isEnd
      exact Or.inr ⟨start, finish, isStart, isEnd, rfl⟩
    · exact Or.inl rfl
  | didTapCancel =>
    cases h
    exact Or.inl rfl

/-- The button is on after a step exactly when it was on or the step completed a range. -/
theorem isDoneEnabled_step {e : Event} (ordered : OrderedSelection picker)
    (on : isComplete picker = true → picker.isDoneEnabled = true) (h : step picker e = some next) :
    next.isDoneEnabled = true ↔ picker.isDoneEnabled = true ∨ isComplete next = true := by
  unfold isComplete at on ⊢
  obtain ⟨-, -, same | ⟨date, -, first | range | again⟩⟩ := step_selection h
  · obtain ⟨start, finish, enabled⟩ := same
    rw [start, finish, enabled]
    exact ⟨Or.inl, fun h => h.elim id on⟩
  · obtain ⟨noStart, start, finish, enabled⟩ := first
    cases hasEnd : picker.selectedEndDate with
    | none => simp [start, finish, enabled, hasEnd]
    | some old =>
      obtain ⟨other, isOther, -⟩ := ordered.2 old hasEnd
      rw [noStart] at isOther
      cases isOther
  · obtain ⟨old, isStart, -, later, start, finish, enabled⟩ := range
    simp [start, finish, enabled]
  · obtain ⟨start, finish, enabled⟩ := again
    simp [finish, enabled]

end Selection

/-- The date that an item stands for: none for a weekday and a blank item. -/
def shownDate (picker : CalendarDateRangePicker) (path : IndexPath) : Option Date :=
  (picker.dayOfMonth path).map fun dayOfMonth => picker.getDate dayOfMonth path.section_

/-- The date that a cell showed last in the events of the past. -/
def lastShown (picker : CalendarDateRangePicker) (ref : ℕ) (past : List Event) : Option Date :=
  past.foldl (fun date e =>
    match e with
    | .cellForItemAt path other =>
      if other = ref then (shownDate picker path).or date else date
    | _ => date) none

theorem lastShown_concat (picker : CalendarDateRangePicker) (ref : ℕ) (past : List Event)
    (e : Event) : lastShown picker ref (past ++ [e]) =
      match e with
      | .cellForItemAt path other =>
        if other = ref then (shownDate picker path).or (lastShown picker ref past)
        else lastShown picker ref past
      | _ => lastShown picker ref past := by
  simp only [lastShown, List.foldl_append, List.foldl_cons, List.foldl_nil]

section Cells

variable {picker next : CalendarDateRangePicker}

theorem shownDate_congr (same : next.minimumDate = picker.minimumDate) :
    shownDate next = shownDate picker := by
  cases picker
  cases next
  cases same
  rfl

theorem cellForItemAt_date (path : IndexPath) (cell : CalendarDateRangePickerCell) :
    (picker.cellForItemAt path cell).date = (shownDate picker path).or cell.date := by
  unfold CalendarDateRangePicker.cellForItemAt shownDate CalendarDateRangePicker.dayOfMonth
  split_ifs <;> rfl

/-- What a cell shows of an item does not depend on what it showed before. -/
theorem cellForItemAt_look (path : IndexPath) (cell other : CalendarDateRangePickerCell) :
    (picker.cellForItemAt path cell).look = (picker.cellForItemAt path other).look := by
  unfold CalendarDateRangePicker.cellForItemAt PickerLook.reset
  split_ifs <;> rfl

/-- What an item shows on a new cell. -/
def lookAt (picker : CalendarDateRangePicker) (path : IndexPath) : PickerLook :=
  (picker.cellForItemAt path ⟨none, .new⟩).look

theorem lookAt_congr (minimum : next.minimumDate = picker.minimumDate)
    (start : next.selectedStartDate = picker.selectedStartDate)
    (finish : next.selectedEndDate = picker.selectedEndDate) : lookAt next = lookAt picker := by
  cases picker
  cases next
  cases minimum
  cases start
  cases finish
  rfl

/-- The date of the cell with a reference. -/
def dateOf (picker : CalendarDateRangePicker) (ref : ℕ) : Option Date :=
  picker.cells[ref]?.bind CalendarDateRangePickerCell.date

/-- Every cell is on screen under one path or waits, once; each has the date it showed last,
and on screen it shows its item. -/
structure CellsKept (loaded : CalendarDateRangePicker) (past : List Event)
    (picker : CalendarDateRangePicker) : Prop where
  minimum : picker.minimumDate = loaded.minimumDate
  refs : (picker.visible.map Prod.snd ++ picker.reusable).Perm (List.range picker.cells.length)
  paths : (picker.visible.map Prod.fst).Nodup
  dates : ∀ ref, dateOf picker ref = lastShown loaded ref past
  shown : ∀ entry ∈ picker.visible, (shownDate loaded entry.1).isSome = true →
    dateOf picker entry.2 = shownDate loaded entry.1
  looks : ∀ entry ∈ picker.visible,
    picker.cells[entry.2]?.map CalendarDateRangePickerCell.look = some (lookAt picker entry.1)

theorem CellsKept.nodup {loaded : CalendarDateRangePicker} {past : List Event}
    (kept : CellsKept loaded past picker) :
    (picker.visible.map Prod.snd ++ picker.reusable).Nodup :=
  kept.refs.nodup_iff.mpr List.nodup_range

theorem mem_of_lookup {path : IndexPath} {ref : ℕ} {visible : List (IndexPath × ℕ)}
    (h : visible.lookup path = some ref) : (path, ref) ∈ visible := by
  induction visible with
  | nil => cases h
  | cons entry visible ih =>
    rw [List.lookup_cons] at h
    by_cases same : path = entry.1
    · rw [beq_iff_eq.mpr same] at h
      cases h
      rw [same]
      exact List.mem_cons_self
    · rw [beq_false_of_ne same] at h
      exact List.mem_cons_of_mem entry (ih h)

theorem lookup_eq_none {path : IndexPath} {visible : List (IndexPath × ℕ)}
    (h : visible.lookup path = none) : path ∉ visible.map Prod.fst := by
  induction visible with
  | nil => simp
  | cons entry visible ih =>
    rw [List.lookup_cons] at h
    by_cases same : path = entry.1
    · rw [beq_iff_eq.mpr same] at h
      cases h
    · rw [beq_false_of_ne same] at h
      simp only [List.map_cons, List.mem_cons, same, false_or]
      exact ih h

/-- Taking a path away takes one reference away. -/
theorem perm_filter_ne {path : IndexPath} {ref : ℕ} {visible : List (IndexPath × ℕ)}
    (paths : (visible.map Prod.fst).Nodup) (there : visible.lookup path = some ref) :
    ((visible.filter fun shown => shown.1 ≠ path).map Prod.snd ++ [ref]).Perm
      (visible.map Prod.snd) := by
  induction visible with
  | nil => cases there
  | cons entry visible ih =>
    obtain ⟨apart, paths⟩ := List.nodup_cons.mp paths
    rw [List.lookup_cons] at there
    by_cases same : path = entry.1
    · rw [beq_iff_eq.mpr same] at there
      cases there
      have others : visible.filter (fun shown => shown.1 ≠ path) = visible := by
        refine List.filter_eq_self.mpr fun other isIn => ?_
        simp only [ne_eq, decide_not, Bool.not_eq_true', decide_eq_false_iff_not]
        intro again
        exact apart (List.mem_map.mpr ⟨other, isIn, again.trans same⟩)
      rw [List.filter_cons_of_neg (by simp [same]), others]
      exact List.perm_append_singleton _ _
    · rw [beq_false_of_ne same] at there
      rw [List.filter_cons_of_pos (by simpa using Ne.symm same)]
      exact (ih paths there).cons entry.2

/-- A cell comes on screen: the one with the reference is configured, the others stay. -/
theorem cellsKept_shown {loaded : CalendarDateRangePicker} {past : List Event}
    (kept : CellsKept loaded past picker) {path : IndexPath} {ref : ℕ}
    {cell : CalendarDateRangePickerCell} {cells : List CalendarDateRangePickerCell}
    {reusable : List ℕ} (free : picker.visible.lookup path = none)
    (date : cell.date = dateOf picker ref)
    (configured : cells[ref]? = some (picker.cellForItemAt path cell))
    (others : ∀ other, other ≠ ref → cells[other]? = picker.cells[other]?)
    (apart : ref ∉ picker.visible.map Prod.snd)
    (refs : (ref :: (picker.visible.map Prod.snd ++ reusable)).Perm (List.range cells.length)) :
    CellsKept loaded (past ++ [.cellForItemAt path ref])
      { picker with
        cells := cells
        visible := (path, ref) :: picker.visible
        reusable := reusable } := by
  have sameShown : shownDate picker = shownDate loaded := shownDate_congr kept.minimum
  have dateAt : ∀ other, cells[other]?.bind CalendarDateRangePickerCell.date =
      if ref = other then (shownDate loaded path).or (dateOf picker other)
      else dateOf picker other := by
    intro other
    by_cases same : ref = other
    · rw [if_pos same, ← same, configured, Option.bind_some, cellForItemAt_date, sameShown, date]
    · rw [if_neg same, others other (Ne.symm same)]
      rfl
  have notRef : ∀ entry ∈ picker.visible, entry.2 ≠ ref := fun entry there same =>
    apart (List.mem_map.mpr ⟨entry, there, same⟩)
  refine ⟨kept.minimum, refs, ?_, fun other => ?_, ?_, ?_⟩
  · exact List.nodup_cons.mpr ⟨lookup_eq_none free, kept.paths⟩
  · rw [lastShown_concat, dateOf, dateAt other]
    simp only [kept.dates]
  · intro entry there isDay
    rw [dateOf, dateAt]
    rcases List.mem_cons.mp there with rfl | old
    · obtain ⟨day, isShown⟩ := Option.isSome_iff_exists.mp isDay
      simp only [if_true, isShown, Option.some_or]
    · rw [if_neg (Ne.symm (notRef entry old))]
      exact kept.shown entry old isDay
  · intro entry there
    rcases List.mem_cons.mp there with rfl | old
    · simp only [configured, Option.map_some]
      exact congrArg some (cellForItemAt_look path cell ⟨none, .new⟩)
    · rw [others entry.2 (notRef entry old)]
      exact kept.looks entry old

theorem cellsKept_cellForItemAt {loaded : CalendarDateRangePicker} {past : List Event}
    (kept : CellsKept loaded past picker) {path : IndexPath} {ref : ℕ}
    (h : step picker (.cellForItemAt path ref) = some next) :
    CellsKept loaded (past ++ [.cellForItemAt path ref]) next := by
  have inRange : ∀ other ∈ picker.visible.map Prod.snd ++ picker.reusable,
      other < picker.cells.length := fun other there =>
    List.mem_range.mp (kept.refs.mem_iff.mp there)
  simp only [step] at h
  split_ifs at h with taken isNew waits
  · cases h
    simp only [Bool.or_eq_true, not_or, Bool.not_eq_true, Option.isSome_eq_false_iff,
      Option.isNone_iff_eq_none] at taken
    subst isNew
    refine cellsKept_shown kept taken.2 ?_ List.getElem?_concat_length (fun other apart => ?_)
      (fun there => ?_) ?_
    · simp [dateOf]
    · rcases Nat.lt_or_gt_of_ne apart with old | beyond
      · exact List.getElem?_append_left old
      · rw [List.getElem?_eq_none (by simp; omega), List.getElem?_eq_none (by omega)]
    · exact Nat.lt_irrefl _ (inRange _ (List.mem_append_left _ there))
    · rw [List.length_append, List.length_singleton, List.range_succ]
      exact (kept.refs.cons _).trans (List.perm_append_singleton _ _).symm
  · cases h
    simp only [Bool.or_eq_true, not_or, Bool.not_eq_true, Option.isSome_eq_false_iff,
      Option.isNone_iff_eq_none] at taken
    have distinct := kept.nodup
    have old : ref < picker.cells.length := inRange ref (List.mem_append_right _ waits)
    obtain ⟨cell, isCell⟩ : ∃ cell, picker.cells[ref]? = some cell :=
      ⟨picker.cells[ref], List.getElem?_eq_getElem old⟩
    have date : cell.date = dateOf picker ref := by simp [dateOf, isCell]
    refine cellsKept_shown kept taken.2 date ?_ (fun other apart => ?_) (fun there => ?_) ?_
    · rw [List.getElem?_modify_eq, isCell]
      rfl
    · exact List.getElem?_modify_ne _ _ (Ne.symm apart)
    · exact (List.nodup_append.mp distinct).2.2 ref there ref waits rfl
    · rw [List.length_modify]
      refine List.Perm.trans ?_ kept.refs
      exact (List.perm_middle.symm).trans ((List.perm_cons_erase waits).symm.append_left _)

/-- A step that leaves the cells alone and takes entries off the screen. -/
theorem cellsKept_of_sublist {loaded : CalendarDateRangePicker} {past : List Event} {e : Event}
    (kept : CellsKept loaded past picker) (minimum : next.minimumDate = picker.minimumDate)
    (cells : next.cells = picker.cells) (sub : next.visible.Sublist picker.visible)
    (refs : (next.visible.map Prod.snd ++ next.reusable).Perm
      (picker.visible.map Prod.snd ++ picker.reusable))
    (same : next.visible ≠ [] → next.selectedStartDate = picker.selectedStartDate ∧
      next.selectedEndDate = picker.selectedEndDate)
    (silent : ∀ ref, lastShown loaded ref (past ++ [e]) = lastShown loaded ref past) :
    CellsKept loaded (past ++ [e]) next := by
  have dates : dateOf next = dateOf picker := by
    funext ref
    rw [dateOf, cells]
    rfl
  refine ⟨minimum.trans kept.minimum, ?_, ?_, fun ref => ?_, ?_, ?_⟩
  · rw [cells]
    exact refs.trans kept.refs
  · exact kept.paths.sublist (sub.map Prod.fst)
  · rw [dates, silent]
    exact kept.dates ref
  · intro entry there
    rw [dates]
    exact kept.shown entry (sub.subset there)
  · intro entry there
    obtain ⟨start, finish⟩ := same (List.ne_nil_of_mem there)
    rw [cells, lookAt_congr minimum start finish]
    exact kept.looks entry (sub.subset there)

theorem didSelectItemAt_cells (picker : CalendarDateRangePicker) (date : Option Date) :
    (picker.didSelectItemAt date).cells = picker.cells ∧
      (picker.didSelectItemAt date = picker ∨
        ((picker.didSelectItemAt date).visible = [] ∧
          (picker.didSelectItemAt date).reusable =
            picker.reusable ++ picker.visible.map Prod.snd)) := by
  unfold CalendarDateRangePicker.didSelectItemAt
  split
  · exact ⟨rfl, Or.inl rfl⟩
  · split_ifs
    · exact ⟨rfl, Or.inl rfl⟩
    · simp only [reloadData]
      split
      · exact ⟨rfl, Or.inr ⟨trivial, rfl⟩⟩
      · split_ifs <;> exact ⟨rfl, Or.inr ⟨trivial, rfl⟩⟩
      · exact ⟨rfl, Or.inr ⟨trivial, rfl⟩⟩

theorem cellsKept_step {loaded : CalendarDateRangePicker} {past : List Event} {e : Event}
    (kept : CellsKept loaded past picker) (h : step picker e = some next) :
    CellsKept loaded (past ++ [e]) next := by
  have minimum := (step_selection h).1
  cases e with
  | cellForItemAt path ref => exact cellsKept_cellForItemAt kept h
  | didEndDisplaying path =>
    simp only [step, Option.map_eq_some_iff] at h
    obtain ⟨ref, shown, rfl⟩ := h
    refine cellsKept_of_sublist kept rfl rfl List.filter_sublist ?_ (fun _ => ⟨rfl, rfl⟩)
      fun other => lastShown_concat loaded other past _
    have moved := (perm_filter_ne kept.paths shown).append_right picker.reusable
    refine List.Perm.trans ?_ moved
    rw [List.append_assoc]
    exact (List.perm_append_comm).append_left _
  | didSelectItemAt path =>
    simp only [step, Option.map_eq_some_iff] at h
    obtain ⟨ref, shown, rfl⟩ := h
    obtain ⟨cells, same | ⟨gone, waiting⟩⟩ :=
      didSelectItemAt_cells picker (picker.cells[ref]?.bind CalendarDateRangePickerCell.date)
    · rw [same]
      exact cellsKept_of_sublist kept rfl rfl (List.Sublist.refl _) (List.Perm.refl _)
        (fun _ => ⟨rfl, rfl⟩) fun other => lastShown_concat loaded other past _
    · refine cellsKept_of_sublist kept minimum cells ?_ ?_ ?_
        fun other => lastShown_concat loaded other past _
      · rw [gone]
        exact List.nil_sublist _
      · rw [gone, waiting]
        simp only [List.map_nil, List.nil_append]
        exact List.perm_append_comm
      · rw [gone]
        exact fun absurd_ => absurd rfl absurd_
  | didTapDone =>
    simp only [step] at h
    split_ifs at h
    cases h
    unfold CalendarDateRangePicker.didTapDone at minimum ⊢
    split
    · exact cellsKept_of_sublist kept rfl rfl (List.Sublist.refl _) (List.Perm.refl _)
        (fun _ => ⟨rfl, rfl⟩) fun other => lastShown_concat loaded other past _
    · exact cellsKept_of_sublist kept rfl rfl (List.Sublist.refl _) (List.Perm.refl _)
        (fun _ => ⟨rfl, rfl⟩) fun other => lastShown_concat loaded other past _
  | didTapCancel =>
    cases h
    exact cellsKept_of_sublist kept rfl rfl (List.Sublist.refl _) (List.Perm.refl _)
      (fun _ => ⟨rfl, rfl⟩) fun other => lastShown_concat loaded other past _

end Cells

theorem cellsKept_start (loaded : CalendarDateRangePicker) (noCells : loaded.cells = [])
    (noVisible : loaded.visible = []) (noReusable : loaded.reusable = []) :
    CellsKept loaded [] loaded := by
  constructor
  · rfl
  · rw [noCells, noVisible, noReusable]
    exact List.Perm.refl _
  · rw [noVisible]
    exact List.nodup_nil
  · intro ref
    rw [dateOf, noCells]
    rfl
  · rw [noVisible]
    exact fun entry there => absurd there List.not_mem_nil
  · rw [noVisible]
    exact fun entry there => absurd there List.not_mem_nil

/-- Some state of the run so far had a complete range. -/
def WasComplete (loaded : CalendarDateRangePicker) (past : List Event) : Prop :=
  ∃ earlier, earlier <+: past ∧
    ∃ picker, run step loaded earlier = some picker ∧ isComplete picker = true

theorem wasComplete_concat {loaded next : CalendarDateRangePicker} {past : List Event} {e : Event}
    (h : run step loaded (past ++ [e]) = some next) :
    WasComplete loaded (past ++ [e]) ↔ WasComplete loaded past ∨ isComplete next = true := by
  constructor
  · intro ⟨earlier, isPrefix, picker, reached, complete⟩
    rcases List.prefix_concat_iff.mp isPrefix with rfl | before
    · rw [h] at reached
      cases reached
      exact Or.inr complete
    · exact Or.inl ⟨earlier, before, picker, reached, complete⟩
  · intro h'
    rcases h' with ⟨earlier, isPrefix, picker, reached, complete⟩ | complete
    · exact ⟨earlier, isPrefix.trans (List.prefix_append past [e]), picker, reached, complete⟩
    · exact ⟨past ++ [e], List.prefix_refl _, next, h, complete⟩

/-- What a run keeps of the picker that was loaded. -/
structure TapsKept (loaded : CalendarDateRangePicker) (past : List Event)
    (picker : CalendarDateRangePicker) : Prop where
  reached : run step loaded past = some picker
  ordered : OrderedSelection picker
  picked : ∀ range ∈ picker.picked,
    loaded.minimumDate.day ≤ range.1.day ∧ range.1.day < range.2.day
  done : picker.isDoneEnabled = true ↔ WasComplete loaded past
  cells : CellsKept loaded past picker

theorem tapsKept_step {loaded picker next : CalendarDateRangePicker} {past : List Event}
    {e : Event} (kept : TapsKept loaded past picker) (h : step picker e = some next) :
    TapsKept loaded (past ++ [e]) next := by
  have reached : run step loaded (past ++ [e]) = some next :=
    (run_concat_eq_some _ _ _ _).mpr ⟨picker, kept.reached, h⟩
  refine ⟨reached, orderedSelection_step kept.ordered h, ?_, ?_, cellsKept_step kept.cells h⟩
  · intro range there
    rcases step_picked h with same | ⟨start, finish, isStart, isEnd, added⟩
    · exact kept.picked range (same ▸ there)
    · rw [added, List.mem_append, List.mem_singleton] at there
      rcases there with old | rfl
      · exact kept.picked range old
      · obtain ⟨other, isOther, later⟩ := kept.ordered.2 finish isEnd
        rw [isStart] at isOther
        cases isOther
        rw [← kept.cells.minimum]
        exact ⟨kept.ordered.1 start isStart, later⟩
  · have on : isComplete picker = true → picker.isDoneEnabled = true := fun complete =>
      kept.done.mpr ⟨past, List.prefix_refl _, picker, kept.reached, complete⟩
    rw [isDoneEnabled_step kept.ordered on h, kept.done, wasComplete_concat reached]

theorem tapsKept_run (now : Date) (minimumDate maximumDate start finish : Option Date)
    (given : OrderedSelection (viewDidLoad now minimumDate maximumDate start finish))
    {es : List Event} {picker : CalendarDateRangePicker}
    (h : run step (viewDidLoad now minimumDate maximumDate start finish) es = some picker) :
    TapsKept (viewDidLoad now minimumDate maximumDate start finish) es picker := by
  have atStart : TapsKept (viewDidLoad now minimumDate maximumDate start finish) []
      (viewDidLoad now minimumDate maximumDate start finish) := by
    refine ⟨rfl, given, fun range there => absurd there List.not_mem_nil, ?_,
      cellsKept_start _ rfl rfl rfl⟩
    constructor
    · exact fun on => ⟨[], List.prefix_refl _, _, rfl, on⟩
    · intro ⟨earlier, isPrefix, other, reached, complete⟩
      cases List.prefix_nil.mp isPrefix
      cases reached
      exact complete
  exact run_history (TapsKept _) (fun _ _ _ _ kept h' => tapsKept_step kept h') atStart h

end FinanciaApp.Guarantees
