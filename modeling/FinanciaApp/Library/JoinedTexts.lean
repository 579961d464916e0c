import Mathlib.Data.List.Basic

/-!
# Joined texts and their last Characters

* `join_map_append`: a separator after each of several texts is one between them and one at the end.
* `Segmentation`: how a text is cut into what a user sees as Characters.
* `dropLast_dropLast_iff`: two Characters dropped are a separator of two scalars where each
  of these is a Character of its own.
-/

set_option autoImplicit false

namespace FinanciaApp.Library

theorem join_map_append (separator : String) {texts : List String} (some_text : texts ≠ []) :
    String.join (texts.map fun text => text ++ separator) =
      separator.intercalate texts ++ separator := by
  induction texts with
  | nil => exact absurd rfl some_text
  | cons text texts ih =>
    rw [List.map_cons, String.join_cons]
    cases texts with
    | nil => rw [List.map_nil, String.join_nil, String.append_empty, String.intercalate_singleton]
    | cons next texts =>
      rw [ih (List.cons_ne_nil _ _), String.intercalate_cons_cons, String.append_assoc,
        String.append_assoc, String.append_assoc]

/-- Characters of at least one scalar each, that make up the text. -/
structure Segmentation where
  characters : String → List (List Char)
  flatten_characters : ∀ text, (characters text).flatten = text.toList
  nil_not_mem : ∀ text, [] ∉ characters text

namespace Segmentation

/-- Every scalar is a Character. -/
def scalars : Segmentation where
  characters := fun text => text.toList.map fun scalar => [scalar]
  flatten_characters := fun text => by
    rw [← List.flatMap_def, List.flatMap_singleton']
  nil_not_mem := fun text member => by
    obtain ⟨scalar, -, equal⟩ := List.mem_map.mp member
    cases equal

variable (segmentation : Segmentation)

def count (text : String) : Nat := (segmentation.characters text).length

/-- The text without its last Character. -/
def dropLast (text : String) : String :=
  String.ofList (segmentation.characters text).dropLast.flatten

def lastCharacter (text : String) : Option (List Char) := (segmentation.characters text).getLast?

variable {segmentation}

theorem characters_eq_nil_iff (text : String) :
    segmentation.characters text = [] ↔ text = "" := by
  have flatten := segmentation.flatten_characters text
  constructor
  · intro none_left
    rw [none_left, List.flatten_nil] at flatten
    exact String.toList_eq_nil_iff.mp flatten.symm
  · intro empty
    rw [empty] at flatten ⊢
    cases found : segmentation.characters "" with
    | nil => rfl
    | cons character characters =>
      rw [found, List.flatten_cons] at flatten
      have first := (List.append_eq_nil_iff.mp flatten).1
      exact absurd (found ▸ first ▸ List.mem_cons_self) (segmentation.nil_not_mem "")

theorem count_eq_zero_iff (text : String) : segmentation.count text = 0 ↔ text = "" :=
  List.length_eq_zero_iff.trans (characters_eq_nil_iff text)

theorem dropLast_empty : segmentation.dropLast "" = "" := by
  rw [dropLast, (characters_eq_nil_iff "").mpr rfl]
  rfl

theorem exists_lastCharacter {text : String} (nonempty : text ≠ "") :
    ∃ last, segmentation.lastCharacter text = some last ∧ last ≠ [] := by
  have some_left : segmentation.characters text ≠ [] := fun none_left =>
    nonempty ((characters_eq_nil_iff text).mp none_left)
  refine ⟨_, List.getLast?_eq_some_getLast some_left, fun empty => ?_⟩
  exact segmentation.nil_not_mem text (empty ▸ List.getLast_mem some_left)

/-- The text is what `dropLast` leaves, and the last Character. -/
theorem toList_of_lastCharacter {text : String} {last : List Char}
    (found : segmentation.lastCharacter text = some last) :
    text.toList = (segmentation.dropLast text).toList ++ last := by
  obtain ⟨before, equal⟩ := List.getLast?_eq_some_iff.mp found
  rw [← segmentation.flatten_characters, dropLast, String.toList_ofList, equal,
    List.dropLast_concat, List.flatten_append, List.flatten_singleton]

theorem pair_eq_append {first second : Char} {before last : List Char}
    (beforeNonempty : before ≠ []) (lastNonempty : last ≠ [])
    (equal : [first, second] = before ++ last) : before = [first] ∧ last = [second] := by
  match before, equal with
  | [], _ => exact absurd rfl beforeNonempty
  | [_], equal =>
    cases equal
    exact ⟨rfl, rfl⟩
  | _ :: _ :: rest, equal =>
    have none_left := (List.cons.inj (List.cons.inj equal).2).2
    exact absurd (List.append_eq_nil_iff.mp none_left.symm).2 lastNonempty

/-- A last scalar is dropped alone where it is a Character. -/
theorem dropLast_append_eq {text : String} {scalar : Char}
    (alone : segmentation.lastCharacter (text ++ String.ofList [scalar]) = some [scalar]) :
    segmentation.dropLast (text ++ String.ofList [scalar]) = text := by
  have cut := toList_of_lastCharacter alone
  rw [String.toList_append, String.toList_ofList] at cut
  exact String.toList_inj.mp (List.append_cancel_right cut).symm

theorem dropLast_dropLast_iff {text : String} (nonempty : text ≠ "") (first second : Char) :
    segmentation.dropLast (segmentation.dropLast (text ++ String.ofList [first, second])) = text ↔
      segmentation.lastCharacter (text ++ String.ofList [first, second]) = some [second] ∧
      segmentation.lastCharacter (text ++ String.ofList [first]) = some [first] := by
  have both : text ++ String.ofList [first, second] =
      text ++ String.ofList [first] ++ String.ofList [second] := by
    rw [String.append_assoc, ← String.ofList_append, List.singleton_append]
  constructor
  · intro dropped
    have whole_nonempty : text ++ String.ofList [first, second] ≠ "" := fun empty =>
      nonempty (String.append_eq_empty_iff.mp empty).1
    obtain ⟨last, lastFound, lastNonempty⟩ := exists_lastCharacter whole_nonempty
    have lastCut := toList_of_lastCharacter lastFound
    have rest_nonempty : segmentation.dropLast (text ++ String.ofList [first, second]) ≠ "" := by
      intro empty
      rw [empty, dropLast_empty] at dropped
      exact nonempty dropped.symm
    obtain ⟨before, beforeFound, beforeNonempty⟩ := exists_lastCharacter rest_nonempty
    have beforeCut := toList_of_lastCharacter beforeFound
    rw [dropped] at beforeCut
    -- the two Characters make up the two scalars, and neither is empty
    rw [beforeCut, String.toList_append, String.toList_ofList, List.append_assoc] at lastCut
    have scalars : [first, second] = before ++ last := List.append_cancel_left lastCut
    obtain ⟨rfl, rfl⟩ := pair_eq_append beforeNonempty lastNonempty scalars
    have rest : segmentation.dropLast (text ++ String.ofList [first, second]) =
        text ++ String.ofList [first] := by
      rw [← String.toList_inj, beforeCut, String.toList_append, String.toList_ofList]
    exact ⟨lastFound, rest ▸ beforeFound⟩
  · intro ⟨lastAlone, firstAlone⟩
    rw [both] at lastAlone ⊢
    rw [dropLast_append_eq lastAlone, dropLast_append_eq firstAlone]

end Segmentation

end FinanciaApp.Library
