import FinanciaApp.Library.Runs
import FinanciaApp.Source.AssetDetailsViewController

/-!
# Removal from the disk store

`remove` scans the whole array and takes out one match, the last. The other objects stay
in their order in any case; the removed object is gone exactly when it was stored at most
once, which an `append` of a stored object and a `write` can both break.
-/

set_option autoImplicit false

namespace FinanciaApp.Guarantees

open Library Source Source.ATCDiskPersistenceStore ATCPersistable

universe u v w x

section

variable {P : Type u} {Identifier : Type v} {Other : Type w} {Data : Type x}
variable [DecidableEq Identifier] [ATCPersistable P Identifier]
variable (archiving : KeyedArchiving P Other Data) (key : String)

/-- A removed object is not contained any more, and the objects with another identifier
are the ones stored before, in the same order. -/
def Removes (s : StandardDefaults Data) (e : Event P Other) (t : StandardDefaults Data) : Prop :=
  ∀ object, e = .remove object →
    contains archiving key object t = false ∧
      (stored archiving key t).filter (fun obj => diffIdentifier obj ≠ diffIdentifier object) =
        (stored archiving key s).filter fun obj => diffIdentifier obj ≠ diffIdentifier object

/-- The object to be removed is stored at most once. -/
def AtMostOneMatch (s : StandardDefaults Data) (e : Event P Other) : Prop :=
  ∀ object, e = .remove object →
    ((stored archiving key s).map diffIdentifier).count (diffIdentifier object) ≤ 1

variable {archiving} {key}

/-- `remove` takes out one object with the identifier, if there is one. -/
theorem count_remove (roundTrips : archiving.RoundTrips) (object : P)
    (s : StandardDefaults Data) :
    ((stored archiving key (remove archiving key object s)).map diffIdentifier).count
        (diffIdentifier object) =
      ((stored archiving key s).map diffIdentifier).count (diffIdentifier object) - 1 := by
  rcases remove_spec roundTrips s object with
    ⟨absent, same⟩ | ⟨before, found, after, split, isObject, -, removed⟩
  · rw [same, List.count_eq_zero_of_not_mem absent]
  · rw [removed, split]
    simp only [List.map_append, List.map_cons, List.count_append, isObject, List.count_cons_self]
    omega

theorem removes_iff (roundTrips : archiving.RoundTrips) (s : StandardDefaults Data)
    (e : Event P Other) (t : StandardDefaults Data) (taken : step archiving key s e = some t) :
    Removes archiving key s e t ↔ AtMostOneMatch archiving key s e := by
  cases e with
  | write object => exact iff_of_true (fun _ h => by cases h) (fun _ h => by cases h)
  | append object => exact iff_of_true (fun _ h => by cases h) (fun _ h => by cases h)
  | remove object =>
    cases taken
    have gone : contains archiving key object (remove archiving key object s) = false ↔
        ((stored archiving key s).map diffIdentifier).count (diffIdentifier object) ≤ 1 := by
      rw [← Bool.not_eq_true, contains_iff, ← List.count_eq_zero, count_remove roundTrips]
      omega
    constructor
    · intro removes object' same
      cases same
      exact gone.mp (removes object rfl).1
    · intro once object' same
      cases same
      exact ⟨gone.mpr (once object rfl), stored_remove_others roundTrips s object⟩

/-- Along every sequence of calls, every removed object is gone and the others stay
exactly when every object to be removed was stored at most once. -/
theorem removes_iff_at_most_one_match (roundTrips : archiving.RoundTrips)
    (standard : StandardDefaults Data) (es : List (Event P Other)) :
    AlongRun (step archiving key) (Removes archiving key) standard es ↔
      AlongRun (step archiving key) (fun s e _ => AtMostOneMatch archiving key s e) standard es :=
  alongRun_iff_of_step (removes_iff roundTrips) standard es

end

/-- Two appends of one asset and its removal. -/
def appendedTwice : List (Event (ATCFinanceAsset String) Unit) :=
  [.append .bitcoin, .append .bitcoin, .remove .bitcoin]

theorem removes_iff_at_most_one_match_assets :
    AlongRun (step ATCFinanceAsset.archiving "assets") (Removes ATCFinanceAsset.archiving "assets")
        (fun _ => none) appendedTwice ↔
      AlongRun (step ATCFinanceAsset.archiving "assets")
        (fun s e _ => AtMostOneMatch ATCFinanceAsset.archiving "assets" s e)
        (fun _ => none) appendedTwice :=
  removes_iff_at_most_one_match ATCFinanceAsset.archiving_roundTrips _ _

/-- An object that was appended twice is still contained after its removal. -/
theorem removed_twice_appended_still_contained :
    ¬ ∀ es : List (Event (ATCFinanceAsset String) Unit),
      AlongRun (step ATCFinanceAsset.archiving "assets")
        (Removes ATCFinanceAsset.archiving "assets") (fun _ => none) es := by
  intro claim
  have along := claim appendedTwice
  have removes := ((((along _ rfl).2 _ rfl).2 _ rfl).1 .bitcoin rfl).1
  exact absurd removes (by decide)

end FinanciaApp.Guarantees
