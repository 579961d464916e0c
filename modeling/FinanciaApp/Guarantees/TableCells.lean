import FinanciaApp.Guarantees.OptionGroups

/-!
# What the cells of a table show

A cell is configured again when its row is among those a tap changes. The one change that no cell
hears of is the one that setting `alwaysSelectsOneOption` makes to the first option of a section.

* `cells_show_accessories`: in every run a cell shows the accessory its row has, or the row is
  the first one of a section whose flag was set in the run.
-/

set_option autoImplicit false

namespace FinanciaApp.Guarantees

open Library Source Source.QuickTableViewController

section Cells

/-- The cells on the screen show the accessories of their rows, except for the first rows of the
sections whose `alwaysSelectsOneOption` was set. -/
def ShowAccessories (past : List Event) (s : Table) : Prop :=
  ∀ indexPath shown, s.cells indexPath = some shown →
    ∃ row, rowAt s.tableContents indexPath = some row ∧
      (shown = row.accessoryType s.options.isSelected ∨
        indexPath.row = 0 ∧ .setAlwaysSelectsOneOption indexPath.section_ true ∈ past)

theorem accessoryType_congr {row : Row} {before after : RowRef → Bool}
    (same : ∀ ref, row = .optionRow ref → after ref = before ref) :
    row.accessoryType after = row.accessoryType before := by
  cases row with
  | optionRow ref => simp only [Row.accessoryType, same ref rfl]
  | tapActionRow _ _ | navigationRow _ _ _ | switchRow _ => rfl

/-- A cell that is configured again shows the accessory of its row. -/
theorem configured_eq_some {s : Table} {indexPath : TableIndexPath} {shown : AccessoryType}
    (now : s.configured indexPath = some shown) :
    ∃ row, rowAt s.tableContents indexPath = some row ∧
      shown = row.accessoryType s.options.isSelected := by
  unfold Table.configured at now
  split at now
  · obtain ⟨row, here, rfl⟩ := Option.map_eq_some_iff.mp now
    exact ⟨row, here, rfl⟩
  · cases now

/-- A row that a tap in a radio section does not reload keeps its accessory. -/
theorem accessory_of_not_toggled {s : Table} (distinct : Distinct s.tableContents)
    {indexPath : TableIndexPath} {options : List RowRef} {keeps : Bool} {option : RowRef}
    (here : s.tableContents[indexPath.section_]? = some (.radioSection options keeps))
    (isOption : options[indexPath.row]? = some option) {other : TableIndexPath} {row : Row}
    (atOther : rowAt s.tableContents other = some row)
    (notReloaded : other ∉ (s.options.toggle options keeps option).2.map fun row =>
      TableIndexPath.mk indexPath.section_ row) :
    row.accessoryType (s.options.toggle options keeps option).1.isSelected =
      row.accessoryType s.options.isSelected := by
  apply accessoryType_congr
  intro ref isRef
  subst isRef
  by_cases same : other.section_ = indexPath.section_
  · have inRows : options[other.row]? = some ref := by
      rw [rowAt_of_section (same ▸ here)] at atOther
      simpa [Section.rows] using atOther
    by_contra changes
    apply notReloaded
    rw [← same]
    refine List.mem_map_of_mem ?_
    exact (OptionRows.mem_toggle_indexes s.options (nodup_of_distinct distinct here) keeps
      option inRows).mpr changes
  · have outside : ref ∉ options := by
      intro there
      obtain ⟨row, atRow⟩ := (mem_options_iff here ref).mp there
      have samePath := distinct other ⟨indexPath.section_, row⟩ ref atOther atRow
      exact same (by rw [samePath])
    have different : ref ≠ option := by
      intro isOption'
      exact outside (isOption' ▸ List.mem_of_getElem? isOption)
    rw [OptionRows.toggle_isSelected]
    cases s.options.isSelected option <;> cases keeps <;> simp [different, outside]

theorem show_step {past : List Event} {s t : Table} {e : Event}
    (distinct : Distinct s.tableContents) (before : ShowAccessories past s)
    (taken : step s e = some t) : ShowAccessories (past ++ [e]) t := by
  have older {indexPath : TableIndexPath} :
      .setAlwaysSelectsOneOption indexPath.section_ true ∈ past →
        .setAlwaysSelectsOneOption indexPath.section_ true ∈ past ++ [e] :=
    List.mem_append_left [e]
  intro indexPath shown there
  cases step_cases taken with
  | toggled here isOption =>
    simp only [Table.reloadRows] at there
    split at there
    · obtain ⟨row, atPath, now⟩ := configured_eq_some there
      exact ⟨row, atPath, .inl now⟩
    · rename_i notReloaded
      obtain ⟨row, atPath, shows⟩ := before indexPath shown there
      have kept := accessory_of_not_toggled distinct here isOption atPath notReloaded
      refine ⟨row, atPath, shows.imp (fun now => now.trans kept.symm) ?_⟩
      exact fun stale => ⟨stale.1, older stale.2⟩
  | flipped here isOption =>
    obtain ⟨row, atPath, now⟩ := configured_eq_some there
    exact ⟨row, atPath, .inl now⟩
  | tapped _ _ | accessoryTapped _ | ranBlock _ =>
    obtain ⟨row, atPath, shows⟩ := before indexPath shown there
    exact ⟨row, atPath, shows.imp_right fun stale => ⟨stale.1, older stale.2⟩⟩
  | @firstSelected index first rest kept here off =>
    obtain ⟨row, atPath, shows⟩ := before indexPath shown there
    refine ⟨row, (rowAt_set_flag true here indexPath).trans atPath, ?_⟩
    by_cases isFirst : row = .optionRow first
    · subst isFirst
      have atFirst : rowAt s.tableContents ⟨index, 0⟩ = some (.optionRow first) := by
        simp [rowAt, here, Section.rows]
      cases distinct indexPath ⟨index, 0⟩ first atPath atFirst
      exact .inr ⟨rfl, List.mem_append_right past (List.mem_singleton_self _)⟩
    · have kept : row.accessoryType (s.options.setIsSelected first true).isSelected =
          row.accessoryType s.options.isSelected := by
        apply accessoryType_congr
        intro ref isOption
        rw [OptionRows.setIsSelected_isSelected, Function.update_of_ne]
        intro same
        exact isFirst (same ▸ isOption)
      refine shows.imp (fun now => now.trans kept.symm) ?_
      exact fun stale => ⟨stale.1, older stale.2⟩
  | flagSet here _ =>
    obtain ⟨row, atPath, shows⟩ := before indexPath shown there
    rw [← rowAt_set_flag _ here] at atPath
    exact ⟨row, atPath, shows.imp_right fun stale => ⟨stale.1, older stale.2⟩⟩
  | @configured path row here =>
    by_cases same : indexPath = path
    · subst same
      simp only [Function.update_self] at there
      exact ⟨row, here, .inl (Option.some.inj there).symm⟩
    · simp only [Function.update_of_ne same] at there
      obtain ⟨other, atPath, shows⟩ := before indexPath shown there
      exact ⟨other, atPath, shows.imp_right fun stale => ⟨stale.1, older stale.2⟩⟩
  | endedDisplaying path =>
    by_cases same : indexPath = path
    · subst same
      simp only [Function.update_self] at there
      cases there
    · simp only [Function.update_of_ne same] at there
      obtain ⟨other, atPath, shows⟩ := before indexPath shown there
      exact ⟨other, atPath, shows.imp_right fun stale => ⟨stale.1, older stale.2⟩⟩

/-- In every run a cell shows the accessory its row has, or the row is the first one of a section
whose `alwaysSelectsOneOption` was set in the run. -/
theorem cells_show_accessories {s t : Table} {es : List Event}
    (distinct : Distinct s.tableContents) (fresh : ShowAccessories [] s)
    (reached : run step s es = some t) : ShowAccessories es t := by
  have both : Distinct t.tableContents ∧ ShowAccessories ([] ++ es) t := by
    apply run_history (fun past m => Distinct m.tableContents ∧ ShowAccessories past m) _
      ⟨distinct, fresh⟩ reached
    intro past m e n before taken
    exact ⟨distinct_step before.1 taken, show_step before.1 before.2 taken⟩
  exact both.2

/-- The sample table before its cells are configured. -/
def hiddenTable : Table := { sampleTable with cells := fun _ => none }

theorem cells_show_accessories_sample : ∃ t,
    run step hiddenTable [.cellForRowAt ⟨1, 0⟩, .cellForRowAt ⟨1, 1⟩, .didSelectRowAt ⟨1, 0⟩] =
      some t ∧
    ShowAccessories
      [.cellForRowAt ⟨1, 0⟩, .cellForRowAt ⟨1, 1⟩, .didSelectRowAt ⟨1, 0⟩] t := by
  have distinct : Distinct hiddenTable.tableContents := sampleTable_distinct
  have fresh : ShowAccessories [] hiddenTable := by
    intro indexPath shown there
    cases there
  obtain ⟨t, reached⟩ := Option.isSome_iff_exists.mp (show (run step hiddenTable
    [.cellForRowAt ⟨1, 0⟩, .cellForRowAt ⟨1, 1⟩, .didSelectRowAt ⟨1, 0⟩]).isSome from by decide)
  exact ⟨t, reached, cells_show_accessories distinct fresh reached⟩

end Cells

end FinanciaApp.Guarantees
