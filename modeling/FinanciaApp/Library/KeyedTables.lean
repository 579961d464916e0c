import Mathlib.Data.List.Perm.Basic
import Mathlib.Data.List.Nodup

/-!
# Updating the rows of a table by their keys

`setFirst key value` writes a value into the first row with the key and fails where there is
none; `setAll` makes a list of such updates one after the other. Updates never change the
keys, so they succeed exactly where every key is there (`isSome_setAll_iff`). With distinct
keys in the table each row ends with the latest value for its key (`setAll_eq`), and updates
with distinct keys that are those of the table leave the updates themselves (`setAll_perm`).
-/

set_option autoImplicit false

namespace FinanciaApp.Library

universe u v

variable {κ : Type u} {ν : Type v} [DecidableEq κ]

def setFirst (key : κ) (value : ν) : List (κ × ν) → Option (List (κ × ν))
  | [] => none
  | row :: rows =>
    if row.1 = key then some ((key, value) :: rows)
    else (setFirst key value rows).map fun rest => row :: rest

def setAll (updates table : List (κ × ν)) : Option (List (κ × ν)) :=
  updates.foldlM (fun table update => setFirst update.1 update.2 table) table

/-- The latest value for the key, if there is an update for it. -/
def latest (updates : List (κ × ν)) (key : κ) (value : ν) : ν :=
  updates.foldl (fun value update => if update.1 = key then update.2 else value) value

section One

variable (key : κ) (value : ν)

theorem setFirst_append {before after : List (κ × ν)} (old : ν)
    (apart : ∀ row ∈ before, row.1 ≠ key) :
    setFirst key value (before ++ (key, old) :: after) =
      some (before ++ (key, value) :: after) := by
  induction before with
  | nil => exact if_pos rfl
  | cons row before ih =>
    rw [List.cons_append, setFirst, if_neg (apart row List.mem_cons_self),
      ih fun other there => apart other (List.mem_cons_of_mem row there)]
    rfl

theorem keys_setFirst {table next : List (κ × ν)} (h : setFirst key value table = some next) :
    next.map Prod.fst = table.map Prod.fst := by
  induction table generalizing next with
  | nil => cases h
  | cons row rows ih =>
    rw [setFirst] at h
    split_ifs at h with same
    · cases h
      rw [List.map_cons, List.map_cons, same]
    · obtain ⟨rest, isRest, rfl⟩ := Option.map_eq_some_iff.mp h
      rw [List.map_cons, List.map_cons, ih isRest]

theorem isSome_setFirst_iff (table : List (κ × ν)) :
    (setFirst key value table).isSome = true ↔ key ∈ table.map Prod.fst := by
  induction table with
  | nil => simp [setFirst]
  | cons row rows ih =>
    rw [setFirst]
    split_ifs with same
    · simp [same]
    · rw [Option.isSome_map, ih, List.map_cons, List.mem_cons]
      exact ⟨.inr, fun h => h.resolve_left fun isRow => same isRow.symm⟩

theorem setFirst_eq {table next : List (κ × ν)} (distinct : (table.map Prod.fst).Nodup)
    (h : setFirst key value table = some next) :
    next = table.map fun row => (row.1, if key = row.1 then value else row.2) := by
  induction table generalizing next with
  | nil => cases h
  | cons row rows ih =>
    rw [List.map_cons, List.nodup_cons] at distinct
    rw [setFirst] at h
    split_ifs at h with same
    · cases h
      subst same
      rw [List.map_cons, if_pos rfl]
      have untouched : ∀ other ∈ rows, (other.1, if row.1 = other.1 then value else other.2) =
          other := by
        intro other there
        rw [if_neg fun isOther => distinct.1 (List.mem_map.mpr ⟨other, there, isOther.symm⟩)]
      rw [List.map_congr_left untouched, List.map_id']
    · obtain ⟨rest, isRest, rfl⟩ := Option.map_eq_some_iff.mp h
      rw [List.map_cons, if_neg (Ne.symm same), ih distinct.2 isRest]

end One

theorem setAll_cons (update : κ × ν) (updates table : List (κ × ν)) :
    setAll (update :: updates) table =
      (setFirst update.1 update.2 table).bind fun next => setAll updates next := rfl

theorem keys_setAll {updates table next : List (κ × ν)} (h : setAll updates table = some next) :
    next.map Prod.fst = table.map Prod.fst := by
  induction updates generalizing table with
  | nil =>
    cases h
    rfl
  | cons update updates ih =>
    rw [setAll_cons] at h
    obtain ⟨between, first, rest⟩ := Option.bind_eq_some_iff.mp h
    rw [ih rest, keys_setFirst _ _ first]

/-- Updates succeed exactly where every key is in the table. -/
theorem isSome_setAll_iff (updates table : List (κ × ν)) :
    (setAll updates table).isSome = true ↔
      ∀ update ∈ updates, update.1 ∈ table.map Prod.fst := by
  induction updates generalizing table with
  | nil => exact iff_of_true rfl fun update there => absurd there List.not_mem_nil
  | cons update updates ih =>
    rw [setAll_cons, List.forall_mem_cons, ← isSome_setFirst_iff update.1 update.2]
    cases first : setFirst update.1 update.2 table with
    | none => exact iff_of_false nofun nofun
    | some next =>
      rw [Option.bind_some, ih, keys_setFirst _ _ first]
      exact (and_iff_right rfl).symm

/-- With distinct keys every row ends with the latest value for its key. -/
theorem setAll_eq {updates table next : List (κ × ν)} (distinct : (table.map Prod.fst).Nodup)
    (h : setAll updates table = some next) :
    next = table.map fun row => (row.1, latest updates row.1 row.2) := by
  induction updates generalizing table with
  | nil =>
    cases h
    exact (List.map_id' _).symm
  | cons update updates ih =>
    rw [setAll_cons] at h
    obtain ⟨between, first, rest⟩ := Option.bind_eq_some_iff.mp h
    rw [ih (by rw [keys_setFirst _ _ first]; exact distinct) rest,
      setFirst_eq _ _ distinct first, List.map_map]
    rfl

theorem latest_of_not_mem {updates : List (κ × ν)} {key : κ} (value : ν)
    (absent : key ∉ updates.map Prod.fst) : latest updates key value = value := by
  induction updates generalizing value with
  | nil => rfl
  | cons update updates ih =>
    rw [List.map_cons, List.mem_cons, not_or] at absent
    rw [latest, List.foldl_cons, if_neg (Ne.symm absent.1)]
    exact ih value absent.2

theorem latest_of_mem {updates : List (κ × ν)} (distinct : (updates.map Prod.fst).Nodup)
    {update : κ × ν} (there : update ∈ updates) (value : ν) :
    latest updates update.1 value = update.2 := by
  induction updates generalizing value with
  | nil => cases there
  | cons first updates ih =>
    rw [List.map_cons, List.nodup_cons] at distinct
    rw [latest, List.foldl_cons]
    rcases List.mem_cons.mp there with rfl | later
    · rw [if_pos rfl]
      exact latest_of_not_mem _ distinct.1
    · exact ih distinct.2 later _

/-- Updates with the keys of the table, each once, replace all of its values. -/
theorem setAll_perm {updates table next : List (κ × ν)}
    (distinct : (table.map Prod.fst).Nodup)
    (same : (updates.map Prod.fst).Perm (table.map Prod.fst))
    (h : setAll updates table = some next) : next.Perm updates := by
  have distinctUpdates : (updates.map Prod.fst).Nodup := same.nodup_iff.mpr distinct
  have nodupNext : next.Nodup := List.Nodup.of_map Prod.fst (by rwa [keys_setAll h])
  apply (List.perm_ext_iff_of_nodup nodupNext (List.Nodup.of_map Prod.fst distinctUpdates)).mpr
  intro update
  rw [setAll_eq distinct h]
  constructor
  · intro there
    obtain ⟨row, inTable, rfl⟩ := List.mem_map.mp there
    obtain ⟨update, inUpdates, isKey⟩ :=
      List.mem_map.mp (same.mem_iff.mpr (List.mem_map_of_mem inTable))
    rw [← isKey, latest_of_mem distinctUpdates inUpdates]
    exact inUpdates
  · intro there
    obtain ⟨row, inTable, isKey⟩ := List.mem_map.mp (same.mem_iff.mp (List.mem_map_of_mem there))
    refine List.mem_map.mpr ⟨row, inTable, ?_⟩
    rw [isKey, latest_of_mem distinctUpdates there]

end FinanciaApp.Library
