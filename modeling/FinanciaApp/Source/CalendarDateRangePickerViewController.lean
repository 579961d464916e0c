import FinanciaApp.Library.Runs
import FinanciaApp.Library.Weekdays
import FinanciaApp.Source.DateExtensions

/-!
# The date range picker

`Core/ThirdParty/CalendarDateRangePickerViewController/CalendarDateRangePickerViewController.swift`
and `CalendarDateRangePickerCell.swift`, in the Gregorian calendar and without time zones.
Cells are objects that the collection view reuses: the state lists them all, with those that
are on screen under their index paths and those that wait to be dequeued. Colors that never
change, sizes and the titles of the sections are not modelled; a weekday label stands for the
letter of its weekday.
-/

set_option autoImplicit false

namespace FinanciaApp.Source

open Library

/-- The number of whole months of `dateComponents([.month], from:to:)`. -/
def Date.months (start finish : Date) : ℤ :=
  let months := finish.day.month - start.day.month
  if start ≤ finish then
    if start.adding .month months ≤ finish then months else months - 1
  else
    if finish ≤ start.adding .month months then months else months + 1

structure IndexPath where
  section_ : ℕ
  item : ℕ
deriving DecidableEq, Repr

inductive PickerLabel where
  | weekday (weekday : ℕ)
  | blank
  | day (dayOfMonth : ℕ)
deriving DecidableEq, Repr

inductive PickerTextColor where
  | defaultTextColor
  | disabledColor
  | white
deriving DecidableEq, Repr

inductive HalfBackground where
  | left
  | right
deriving DecidableEq, Repr

/-- What a cell shows. -/
structure PickerLook where
  label : PickerLabel
  textColor : PickerTextColor
  highlightedBackground : Bool
  selectedView : Bool
  halfBackgroundView : Option HalfBackground
  roundHighlightView : Bool
deriving DecidableEq, Repr

namespace PickerLook

/-- A new cell. -/
def new : PickerLook := ⟨.blank, .defaultTextColor, false, false, none, false⟩

def reset (look : PickerLook) : PickerLook :=
  { look with
    highlightedBackground := false
    textColor := .defaultTextColor
    selectedView := false
    halfBackgroundView := none
    roundHighlightView := false }

def select (look : PickerLook) : PickerLook :=
  { look with selectedView := true, textColor := .white }

def highlightRight (look : PickerLook) : PickerLook :=
  { look with halfBackgroundView := some .right, roundHighlightView := true }

def highlightLeft (look : PickerLook) : PickerLook :=
  { look with halfBackgroundView := some .left, roundHighlightView := true }

def highlight (look : PickerLook) : PickerLook :=
  { look with highlightedBackground := true }

def disable (look : PickerLook) : PickerLook :=
  { look with textColor := .disabledColor }

end PickerLook

structure CalendarDateRangePickerCell where
  date : Option Date
  look : PickerLook

def areSameDay (dateA dateB : Date) : Bool := dateA.day = dateB.day

def isBefore (dateA dateB : Date) : Bool := dateA.day < dateB.day

structure CalendarDateRangePicker where
  minimumDate : Date
  maximumDate : Date
  selectedStartDate : Option Date
  selectedEndDate : Option Date
  isDoneEnabled : Bool
  cells : List CalendarDateRangePickerCell
  visible : List (IndexPath × ℕ)
  reusable : List ℕ
  picked : List (Date × Date)
  cancelled : ℕ

namespace CalendarDateRangePicker

/-- `viewDidLoad` at the time `now`, with what the app has set before. -/
def viewDidLoad (now : Date) (minimumDate maximumDate selectedStartDate selectedEndDate :
    Option Date) : CalendarDateRangePicker :=
  let minimumDate := minimumDate.getD now
  { minimumDate := minimumDate
    maximumDate := maximumDate.getD (minimumDate.adding .year 3)
    selectedStartDate := selectedStartDate
    selectedEndDate := selectedEndDate
    isDoneEnabled := selectedStartDate.isSome && selectedEndDate.isSome
    cells := []
    visible := []
    reusable := []
    picked := []
    cancelled := 0 }

variable (picker : CalendarDateRangePicker)

theorem midnight_lt_day : (0 : ℚ) < 86400 := by
  norm_num

theorem midnight_nonneg : (0 : ℚ) ≤ 0 :=
  le_rfl

def midnight (day : CivilDate) : Date := ⟨day, 0, midnight_nonneg, midnight_lt_day⟩

/-- Midnight at the first of the month of a day. -/
def firstOfMonth (day : CivilDate) : Date := midnight (.firstOf day.month)

def getFirstDate : Date := firstOfMonth picker.minimumDate.day

def getFirstDateForSection (section_ : ℕ) : Date := picker.getFirstDate.adding .month section_

def getWeekday (date : Date) : ℕ := date.day.weekday

def getNumberOfDaysInMonth (date : Date) : ℕ := monthLength date.day.month

/-- The components of a day that the month does not have run on into the next ones. -/
def getDate (dayOfMonth section_ : ℕ) : Date :=
  (firstOfMonth (picker.getFirstDateForSection section_).day).adding .day (dayOfMonth - 1 : ℕ)

def numberOfSections : ℤ := picker.minimumDate.months picker.maximumDate + 1

def blankItems (section_ : ℕ) : ℕ := getWeekday (picker.getFirstDateForSection section_) - 1

def numberOfItemsInSection (section_ : ℕ) : ℕ :=
  7 + picker.blankItems section_ +
    getNumberOfDaysInMonth (picker.getFirstDateForSection section_)

def has (path : IndexPath) : Bool :=
  (path.section_ : ℤ) < picker.numberOfSections &&
    path.item < picker.numberOfItemsInSection path.section_

/-- The day of the month of an item below the weekdays and the blank items. -/
def dayOfMonth (path : IndexPath) : Option ℕ :=
  if path.item < 7 then none
  else if path.item < 7 + picker.blankItems path.section_ then none
  else some (path.item - (7 + picker.blankItems path.section_) + 1)

/-- The marks of a day in the selected range. -/
def marked (date : Date) (dayOfMonth : ℕ) (look : PickerLook) : PickerLook :=
  match picker.selectedStartDate, picker.selectedEndDate with
  | some start, some finish =>
    if isBefore start date && isBefore date finish then
      if dayOfMonth = 1 then look.highlightRight
      else if dayOfMonth = getNumberOfDaysInMonth date then look.highlightLeft
      else look.highlight
    else if areSameDay date start then look.select.highlightRight
    else if areSameDay date finish then look.select.highlightLeft
    else look
  | some start, none => if areSameDay date start then look.select else look
  | none, some finish => if areSameDay date finish then look.select.highlightLeft else look
  | none, none => look

/-- `collectionView(_:cellForItemAt:)`, on the cell that is dequeued. Only an item with a day
sets the date. -/
def cellForItemAt (path : IndexPath) (cell : CalendarDateRangePickerCell) :
    CalendarDateRangePickerCell :=
  let look := cell.look.reset
  if path.item < 7 then
    { cell with look := { look with label := .weekday (path.item + 1) } }
  else if path.item < 7 + picker.blankItems path.section_ then
    { cell with look := { look with label := .blank } }
  else
    let dayOfMonth := path.item - (7 + picker.blankItems path.section_) + 1
    let date := picker.getDate dayOfMonth path.section_
    let look := { look with label := .day dayOfMonth }
    let look := if isBefore date picker.minimumDate then look.disable else look
    { date := some date, look := picker.marked date dayOfMonth look }

/-- The cells on screen go back to wait for `cellForItemAt`. -/
def reloadData : CalendarDateRangePicker :=
  { picker with visible := [], reusable := picker.reusable ++ picker.visible.map Prod.snd }

/-- `collectionView(_:didSelectItemAt:)` with the date of the cell that is tapped. -/
def didSelectItemAt (date : Option Date) : CalendarDateRangePicker :=
  match date with
  | none => picker
  | some date =>
    if isBefore date picker.minimumDate then
      picker
    else
      let selected :=
        match picker.selectedStartDate, picker.selectedEndDate with
        | none, _ => { picker with selectedStartDate := some date }
        | some start, none =>
          if isBefore start date then
            { picker with selectedEndDate := some date, isDoneEnabled := true }
          else
            { picker with selectedStartDate := some date }
        | some _, some _ =>
          { picker with selectedStartDate := some date, selectedEndDate := none }
      selected.reloadData

def didTapDone : CalendarDateRangePicker :=
  match picker.selectedStartDate, picker.selectedEndDate with
  | some start, some finish => { picker with picked := picker.picked ++ [(start, finish)] }
  | _, _ => picker

def didTapCancel : CalendarDateRangePicker :=
  { picker with cancelled := picker.cancelled + 1 }

/-- What UIKit and the user do. A cell comes on screen as a new object, whose reference is the
next one, or as one that waits; a tap is on a cell on screen. -/
inductive Event where
  | cellForItemAt (path : IndexPath) (ref : ℕ)
  | didEndDisplaying (path : IndexPath)
  | didSelectItemAt (path : IndexPath)
  | didTapDone
  | didTapCancel
deriving DecidableEq

def step (picker : CalendarDateRangePicker) (e : Event) : Option CalendarDateRangePicker :=
  match e with
  | .cellForItemAt path ref =>
    if !picker.has path || (picker.visible.lookup path).isSome then
      none
    else if ref = picker.cells.length then
      some { picker with
        cells := picker.cells ++ [picker.cellForItemAt path ⟨none, .new⟩]
        visible := (path, ref) :: picker.visible }
    else if ref ∈ picker.reusable then
      some { picker with
        cells := picker.cells.modify ref (picker.cellForItemAt path)
        visible := (path, ref) :: picker.visible
        reusable := picker.reusable.erase ref }
    else
      none
  | .didEndDisplaying path =>
    (picker.visible.lookup path).map fun ref =>
      { picker with
        visible := picker.visible.filter fun shown => shown.1 ≠ path
        reusable := picker.reusable ++ [ref] }
  | .didSelectItemAt path =>
    (picker.visible.lookup path).map fun ref =>
      picker.didSelectItemAt (picker.cells[ref]?.bind CalendarDateRangePickerCell.date)
  | .didTapDone => if picker.isDoneEnabled then some picker.didTapDone else none
  | .didTapCancel => some picker.didTapCancel

end CalendarDateRangePicker

end FinanciaApp.Source
