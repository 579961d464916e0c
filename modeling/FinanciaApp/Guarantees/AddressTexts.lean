import FinanciaApp.Source.ATCAddress

/-!
# The texts of an address

Every field but an empty one is followed by a separator. `description` then drops two Characters,
though not from a short text, and `fullAddress` counts on a postal code at the end.
-/

set_option autoImplicit false

namespace FinanciaApp.Guarantees

open Library Source ATCAddress Segmentation

/-- The fields that are neither `nil` nor empty. -/
def nonEmptyFields (fields : List (Option String)) : List String :=
  (fields.filterMap id).filter fun field => field ≠ ""

def joinedFields (fields : List (Option String)) : String :=
  ", ".intercalate (nonEmptyFields fields)

/-- The fields of `description`, in its order. -/
def describedFields (a : ATCAddress) : List (Option String) :=
  [a.name, a.line1, a.line2, a.city, a.postalCode, a.country, a.phone, a.email]

/-- The fields of `fullAddress`, in its order. -/
def fullAddressFields (a : ATCAddress) : List (Option String) :=
  [a.line1, a.line2, a.city, a.postalCode]

section Separators

variable (segmentation : Segmentation)

theorem isEmptyString_iff (str : Option String) :
    isEmptyString segmentation str = true ↔ str.getD "" = "" := by
  cases str with
  | none => exact iff_of_true rfl rfl
  | some text =>
    rw [isEmptyString, Option.isNone_some, Bool.false_or, decide_eq_true_iff, Option.map_some,
      Option.getD_some, Option.getD_some, Nat.le_zero, count_eq_zero_iff]

/-- A field among the others that are not empty. -/
theorem nonEmptyFields_cons (field : Option String) (fields : List (Option String)) :
    nonEmptyFields (field :: fields) =
      if field.getD "" = "" then nonEmptyFields fields
      else field.getD "" :: nonEmptyFields fields := by
  cases field with
  | none => rfl
  | some text =>
    change (text :: fields.filterMap id).filter (fun field => field ≠ "") = _
    rw [List.filter_cons, Option.getD_some]
    by_cases empty : text = ""
    · rw [if_pos empty, if_neg (by simpa using empty)]
      rfl
    · rw [if_neg empty, if_pos (by simpa using empty)]
      rfl

theorem nonEmptyFields_append (fields others : List (Option String)) :
    nonEmptyFields (fields ++ others) = nonEmptyFields fields ++ nonEmptyFields others := by
  rw [nonEmptyFields, List.filterMap_append, List.filter_append]
  rfl

theorem separated_eq (str : Option String) :
    separated segmentation str = if str.getD "" = "" then "" else str.getD "" ++ ", " := by
  rw [separated]
  exact if_congr (isEmptyString_iff segmentation str) rfl rfl

/-- The summands, one after the other. -/
theorem join_separated (fields : List (Option String)) :
    String.join (fields.map (separated segmentation)) =
      String.join ((nonEmptyFields fields).map fun field => field ++ ", ") := by
  induction fields with
  | nil => rfl
  | cons field fields ih =>
    rw [List.map_cons, String.join_cons, ih, separated_eq, nonEmptyFields_cons]
    split
    · rw [String.empty_append]
    · rw [List.map_cons, String.join_cons]

theorem nonEmptyFields_eq_nil_iff (fields : List (Option String)) :
    nonEmptyFields fields = [] ↔ ∀ field ∈ fields, field.getD "" = "" := by
  induction fields with
  | nil => exact iff_of_true rfl nofun
  | cons field fields ih =>
    rw [nonEmptyFields_cons, List.forall_mem_cons, ← ih]
    by_cases empty : field.getD "" = ""
    · rw [if_pos empty, and_iff_right empty]
    · rw [if_neg empty]
      exact iff_of_false (List.cons_ne_nil _ _) fun all => empty all.1

/-- The summands are the joined fields with one more separator. -/
theorem join_separated_eq {fields : List (Option String)}
    (some_field : nonEmptyFields fields ≠ []) :
    String.join (fields.map (separated segmentation)) = joinedFields fields ++ ", " := by
  rw [join_separated, join_map_append ", " some_field, joinedFields]

theorem joinedFields_ne_empty {fields : List (Option String)}
    (some_field : nonEmptyFields fields ≠ []) : joinedFields fields ≠ "" := by
  have nonempty : ∀ field ∈ nonEmptyFields fields, field ≠ "" := by
    intro field member
    simpa using (List.mem_filter.mp member).2
  rw [joinedFields]
  cases found : nonEmptyFields fields with
  | nil => exact absurd found some_field
  | cons field rest =>
    have first : field ≠ "" := nonempty field (found ▸ List.mem_cons_self)
    cases rest with
    | nil => rwa [String.intercalate_singleton]
    | cons next rest =>
      rw [String.intercalate_cons_cons]
      intro empty
      exact first (String.append_eq_empty_iff.mp (String.append_eq_empty_iff.mp empty).1).1

end Separators

theorem append_separator_ne (text : String) : text ++ ", " ≠ text := by
  intro equal
  have scalars := congrArg String.toList equal
  rw [String.toList_append] at scalars
  exact List.cons_ne_nil _ _ (List.append_right_eq_self.mp scalars)

/-- No field, or at least four Characters with the last separator, of which its comma and its space
are two. -/
def DescriptionTrimmed (segmentation : Segmentation) (a : ATCAddress) : Prop :=
  (∀ field ∈ describedFields a, field.getD "" = "") ∨
  (4 ≤ segmentation.count (joinedFields (describedFields a) ++ ", ") ∧
    segmentation.lastCharacter (joinedFields (describedFields a) ++ ", ") = some [' '] ∧
    segmentation.lastCharacter (joinedFields (describedFields a) ++ ",") = some [','])

theorem description_iff (segmentation : Segmentation) (a : ATCAddress) :
    description segmentation a = joinedFields (describedFields a) ↔
      DescriptionTrimmed segmentation a := by
  have address : separated segmentation a.name ++ separated segmentation a.line1 ++
      separated segmentation a.line2 ++ separated segmentation a.city ++
      separated segmentation a.postalCode ++ separated segmentation a.country ++
      separated segmentation a.phone ++ separated segmentation a.email =
      String.join ((describedFields a).map (separated segmentation)) := by
    simp only [describedFields, List.map_cons, List.map_nil, String.join_cons, String.join_nil,
      String.append_assoc, String.append_empty]
  rw [description, address, DescriptionTrimmed, ← nonEmptyFields_eq_nil_iff]
  by_cases empty : nonEmptyFields (describedFields a) = []
  · rw [join_separated, empty, joinedFields, empty, List.map_nil, String.join_nil,
      String.intercalate_nil]
    have few : segmentation.count "" < 4 := by
      rw [(count_eq_zero_iff "").mpr rfl]
      decide
    exact iff_of_true (if_pos few) (.inl rfl)
  · rw [join_separated_eq segmentation empty, or_iff_right empty]
    by_cases few : segmentation.count (joinedFields (describedFields a) ++ ", ") < 4
    · rw [if_pos few]
      exact iff_of_false (append_separator_ne _) fun trimmed =>
        absurd trimmed.1 (Nat.not_le.mpr few)
    · rw [if_neg few, and_iff_right (Nat.not_lt.mp few)]
      exact dropLast_dropLast_iff (joinedFields_ne_empty empty) ',' ' '

/-- The separator is missing behind the postal code only. -/
def FullAddressEnds (a : ATCAddress) : Prop :=
  a.postalCode.getD "" ≠ "" ∨
    (a.line1.getD "" = "" ∧ a.line2.getD "" = "" ∧ a.city.getD "" = "")

theorem joinedFields_append_postalCode (fields : List (Option String)) {postalCode : Option String}
    (given : postalCode.getD "" ≠ "") (segmentation : Segmentation) :
    String.join (fields.map (separated segmentation)) ++ postalCode.getD "" =
      joinedFields (fields ++ [postalCode]) := by
  have split : nonEmptyFields (fields ++ [postalCode]) =
      nonEmptyFields fields ++ [postalCode.getD ""] := by
    rw [nonEmptyFields_append, nonEmptyFields_cons, if_neg given]
    rfl
  rw [joinedFields, split]
  by_cases empty : nonEmptyFields fields = []
  · rw [join_separated, empty, List.map_nil, String.join_nil, List.nil_append,
      String.intercalate_singleton, String.empty_append]
  · rw [join_separated_eq segmentation empty,
      String.intercalate_append_of_ne_nil empty (List.cons_ne_nil _ _),
      String.intercalate_singleton, joinedFields]

theorem fullAddress_iff (segmentation : Segmentation) (a : ATCAddress) :
    fullAddress segmentation a = joinedFields (fullAddressFields a) ↔ FullAddressEnds a := by
  have front : separated segmentation a.line1 ++ separated segmentation a.line2 ++
      separated segmentation a.city =
      String.join ([a.line1, a.line2, a.city].map (separated segmentation)) := by
    simp only [List.map_cons, List.map_nil, String.join_cons, String.join_nil,
      String.append_assoc, String.append_empty]
  have whole : fullAddressFields a = [a.line1, a.line2, a.city] ++ [a.postalCode] := rfl
  rw [fullAddress, front, whole, FullAddressEnds, String.append_empty]
  by_cases given : a.postalCode.getD "" = ""
  · rw [if_pos ((isEmptyString_iff segmentation _).mpr given), String.append_empty,
      or_iff_right (not_not.mpr given)]
    have same : joinedFields ([a.line1, a.line2, a.city] ++ [a.postalCode]) =
        joinedFields [a.line1, a.line2, a.city] := by
      rw [joinedFields, nonEmptyFields_append, nonEmptyFields_cons a.postalCode, if_pos given]
      exact congrArg ", ".intercalate (List.append_nil _)
    have none_left := nonEmptyFields_eq_nil_iff [a.line1, a.line2, a.city]
    rw [same]
    by_cases empty : nonEmptyFields [a.line1, a.line2, a.city] = []
    · have all := none_left.mp empty
      refine iff_of_true ?_ ⟨all _ (by simp), all _ (by simp), all _ (by simp)⟩
      rw [join_separated, joinedFields, empty]
      rfl
    · rw [join_separated_eq segmentation empty]
      refine iff_of_false (append_separator_ne _) fun ⟨line1, line2, city⟩ => empty ?_
      refine none_left.mpr fun field member => ?_
      simp only [List.mem_cons, List.not_mem_nil, or_false] at member
      rcases member with rfl | rfl | rfl
      · exact line1
      · exact line2
      · exact city
  · rw [if_neg (mt (isEmptyString_iff segmentation _).mp given)]
    exact iff_of_true (joinedFields_append_postalCode _ given segmentation) (.inl given)

/-- Both texts are the joined fields, for every way to cut them into Characters. -/
theorem address_texts_iff (segmentation : Segmentation) (a : ATCAddress) :
    (description segmentation a = joinedFields (describedFields a) ∧
        fullAddress segmentation a = joinedFields (fullAddressFields a)) ↔
      DescriptionTrimmed segmentation a ∧ FullAddressEnds a :=
  and_congr (description_iff segmentation a) (fullAddress_iff segmentation a)

/-- An address with a name only. -/
def named (name : String) : ATCAddress :=
  ⟨none, none, some name, none, none, none, none, none, none, none, none, none, none⟩

/-- An address with a city only. -/
def inCity (city : String) : ATCAddress :=
  ⟨none, none, none, none, none, some city, none, none, none, none, none, none, none⟩

/-- A short description keeps its separator, and so does a full address without a postal code. -/
theorem separators_left_dangling :
    ¬(∀ segmentation a, description segmentation a = joinedFields (describedFields a) ∧
      fullAddress segmentation a = joinedFields (fullAddressFields a)) ∧
    description Segmentation.scalars (named "A") = "A, " ∧
    fullAddress Segmentation.scalars (inCity "Austin") = "Austin, " := by
  have short : description Segmentation.scalars (named "A") = "A, " := by decide +kernel
  have noPostalCode : fullAddress Segmentation.scalars (inCity "Austin") = "Austin, " := by
    decide +kernel
  refine ⟨fun claimed => ?_, short, noPostalCode⟩
  have joined := (claimed Segmentation.scalars (named "A")).1
  rw [short] at joined
  exact absurd joined (by decide +kernel)

end FinanciaApp.Guarantees
