import Mathlib.Data.List.Induction
import Mathlib.Data.List.Nodup
import Mathlib.Logic.Function.Basic

/-!
# The disk store

`Core/Helpers/ATCDiskPersistenceStore.swift`. Archiving is a parameter: `archivedData`
and `unarchiveObject` over any type of data, with `RoundTrips` for the lists of
persistable objects. Whatever else is written, `retrieve` answers `nil` for it unless it
is unarchived as such a list.

`stored` is the list that the operations work on. `remove_spec` says what the loop of
`remove`, which keeps the index of the last match, makes of it.
-/

set_option autoImplicit false

namespace FinanciaApp.Source

universe u v w x

/-- `protocol ATCPersistable: class { var diffIdentifier: String {get} }`. `Identifier` is
the type of Swift strings up to the canonical equivalence that `==` decides. -/
class ATCPersistable (P : Type u) (Identifier : outParam (Type v)) where
  diffIdentifier : P → Identifier

/-- A root object: a list of persistable objects, or anything else. -/
inductive RootObject (P : Type u) (Other : Type w) where
  | persistables (objects : List P)
  | other (value : Other)

/-- `NSKeyedArchiver.archivedData` and `NSKeyedUnarchiver.unarchiveObject`. -/
structure KeyedArchiving (P : Type u) (Other : Type w) (Data : Type x) where
  archivedData : RootObject P Other → Data
  unarchiveObject : Data → Option (RootObject P Other)

/-- Unarchiving an archived list of persistable objects returns an equal list. -/
def KeyedArchiving.RoundTrips {P : Type u} {Other : Type w} {Data : Type x}
    (archiving : KeyedArchiving P Other Data) : Prop :=
  ∀ objects, archiving.unarchiveObject (archiving.archivedData (.persistables objects)) =
    some (.persistables objects)

/-- The data of the standard user defaults. -/
abbrev StandardDefaults (Data : Type x) := String → Option Data

namespace ATCDiskPersistenceStore

open ATCPersistable

variable {P : Type u} {Identifier : Type v} {Other : Type w} {Data : Type x}
variable [DecidableEq Identifier] [ATCPersistable P Identifier]
variable (archiving : KeyedArchiving P Other Data) (key : String)

def write (object : RootObject P Other) (standard : StandardDefaults Data) :
    StandardDefaults Data :=
  Function.update standard key (some (archiving.archivedData object))

def retrieve (standard : StandardDefaults Data) : Option (List P) :=
  match standard key with
  | some data =>
    match archiving.unarchiveObject data with
    | some (.persistables objects) => some objects
    | _ => none
  | none => none

def append (object : P) (standard : StandardDefaults Data) : StandardDefaults Data :=
  let arrayToWrite := match retrieve archiving key standard with
    | some existingData => existingData ++ [object]
    | none => [object]
  write archiving key (.persistables arrayToWrite) standard

/-- The loop of `remove`. -/
def removeIndex (object : P) (array : List P) : Int :=
  array.zipIdx.foldl (fun index (entry : P × Nat) =>
    if diffIdentifier entry.1 = diffIdentifier object then (entry.2 : Int) else index) (-1)

def remove (object : P) (standard : StandardDefaults Data) : StandardDefaults Data :=
  match retrieve archiving key standard with
  | some array =>
    let index := removeIndex object array
    if index ≠ -1 then
      write archiving key (.persistables (array.eraseIdx index.toNat)) standard
    else
      standard
  | none => standard

def contains (object : P) (standard : StandardDefaults Data) : Bool :=
  match retrieve archiving key standard with
  | some array => array.any fun obj => diffIdentifier obj = diffIdentifier object
  | none => false

/-- The stored objects. -/
def stored (standard : StandardDefaults Data) : List P := (retrieve archiving key standard).getD []

theorem removeIndex_concat (object : P) (array : List P) (last : P) :
    removeIndex object (array ++ [last]) =
      if diffIdentifier last = diffIdentifier object then (array.length : Int)
      else removeIndex object array := by
  simp [removeIndex, List.zipIdx_append]

/-- The loop finds the last match. -/
theorem removeIndex_spec (object : P) (array : List P) :
    (diffIdentifier object ∉ array.map diffIdentifier ∧ removeIndex object array = -1) ∨
      ∃ before found after, array = before ++ found :: after ∧
        diffIdentifier found = diffIdentifier object ∧
        diffIdentifier object ∉ after.map diffIdentifier ∧
        removeIndex object array = before.length := by
  induction array using List.reverseRecOn with
  | nil => exact .inl ⟨List.not_mem_nil, rfl⟩
  | append_singleton array last ih =>
    rw [removeIndex_concat]
    by_cases matches' : diffIdentifier last = diffIdentifier object
    · exact .inr ⟨array, last, [], rfl, matches', List.not_mem_nil, if_pos matches'⟩
    · rw [if_neg matches']
      rcases ih with ⟨absent, index⟩ | ⟨before, found, after, rfl, isObject, absent, index⟩
      · refine .inl ⟨?_, index⟩
        simp only [List.map_append, List.mem_append, List.map_singleton, List.mem_singleton,
          not_or]
        exact ⟨absent, Ne.symm matches'⟩
      · refine .inr ⟨before, found, after ++ [last], by simp, isObject, ?_, index⟩
        simp only [List.map_append, List.mem_append, List.map_singleton, List.mem_singleton,
          not_or]
        exact ⟨absent, Ne.symm matches'⟩

section Stored

variable {archiving key}

theorem retrieve_write (roundTrips : archiving.RoundTrips) (standard : StandardDefaults Data)
    (objects : List P) :
    retrieve archiving key (write archiving key (.persistables objects) standard) =
      some objects := by
  simp only [retrieve, write, Function.update_self, roundTrips objects]

theorem stored_write (roundTrips : archiving.RoundTrips) (standard : StandardDefaults Data)
    (objects : List P) :
    stored archiving key (write archiving key (.persistables objects) standard) = objects := by
  rw [stored, retrieve_write roundTrips, Option.getD_some]

theorem contains_iff (object : P) (standard : StandardDefaults Data) :
    contains archiving key object standard = true ↔
      diffIdentifier object ∈ (stored archiving key standard).map diffIdentifier := by
  rw [contains, stored]
  cases retrieve archiving key standard with
  | none => simp
  | some array => simp

/-- `remove` leaves the store alone if there is no match, and takes out the last match
otherwise. -/
theorem remove_spec (roundTrips : archiving.RoundTrips) (standard : StandardDefaults Data)
    (object : P) :
    (diffIdentifier object ∉ (stored archiving key standard).map diffIdentifier ∧
        remove archiving key object standard = standard) ∨
      ∃ before found after, stored archiving key standard = before ++ found :: after ∧
        diffIdentifier found = diffIdentifier object ∧
        diffIdentifier object ∉ after.map diffIdentifier ∧
        stored archiving key (remove archiving key object standard) = before ++ after := by
  rw [remove, stored]
  cases retrieve archiving key standard with
  | none => exact .inl ⟨List.not_mem_nil, rfl⟩
  | some array =>
    rcases removeIndex_spec object array with
      ⟨absent, index⟩ | ⟨before, found, after, rfl, isObject, absent, index⟩
    · exact .inl ⟨absent, by simp [index]⟩
    · refine .inr ⟨before, found, after, rfl, isObject, absent, ?_⟩
      have isIndex : (before.length : Int) ≠ -1 := by omega
      simp only [index, if_pos isIndex, Int.toNat_natCast]
      rw [stored_write roundTrips, List.eraseIdx_append_of_length_le (Nat.le_refl _),
        Nat.sub_self, List.eraseIdx_cons_zero]

/-- The other objects stay, in their order. -/
theorem stored_remove_others (roundTrips : archiving.RoundTrips) (standard : StandardDefaults Data)
    (object : P) :
    (stored archiving key (remove archiving key object standard)).filter
        (fun obj => diffIdentifier obj ≠ diffIdentifier object) =
      (stored archiving key standard).filter
        fun obj => diffIdentifier obj ≠ diffIdentifier object := by
  rcases remove_spec roundTrips standard object with
    ⟨-, same⟩ | ⟨before, found, after, split, isObject, -, removed⟩
  · rw [same]
  · rw [removed, split, List.filter_append, List.filter_append,
      List.filter_cons_of_neg (by simpa using isObject)]

end Stored

/-- The calls that change a store. -/
inductive Event (P : Type u) (Other : Type w) where
  | write (object : RootObject P Other)
  | append (object : P)
  | remove (object : P)

/-- Calls never fail. -/
def step (standard : StandardDefaults Data) : Event P Other → Option (StandardDefaults Data)
  | .write object => some (write archiving key object standard)
  | .append object => some (append archiving key object standard)
  | .remove object => some (remove archiving key object standard)

end ATCDiskPersistenceStore

end FinanciaApp.Source
