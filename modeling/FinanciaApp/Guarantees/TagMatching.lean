import FinanciaApp.Guarantees.LevenshteinScore
import FinanciaApp.Source.NSAttributedStringExtensions

/-!
# Matching a run of a message with a tag

A tag matches a text if the two are equal and not empty once both are trimmed: that is what
a score of 1 says. The text is then written anew as the tag and what is left of the text
without it. The tag has all that the text has but blanks, so the tag occurs once at most, and
what is written is the text exactly if the text begins with the tag.
-/

set_option autoImplicit false

namespace FinanciaApp.Guarantees

open Library Source Source.NSAttributedString

section Matching

variable {Character : Type} [DecidableEq Character] (alphabet : Alphabet Character)

/-- The same text up to surrounding whitespace, and some text. -/
def Matches (text tag : List Character) : Prop :=
  trimmed alphabet.isWhitespaceOrNewline text = trimmed alphabet.isWhitespaceOrNewline tag ∧
    trimmed alphabet.isWhitespaceOrNewline text ≠ []

instance (text tag : List Character) : Decidable (Matches alphabet text tag) :=
  inferInstanceAs (Decidable (_ ∧ _))

/-- The tag that is chosen for a text. -/
def chosenTag (allTagUsers : List (List Character)) (text : List Character) :
    Option (List Character) :=
  allTagUsers.find? fun tag => Matches alphabet text tag

theorem score_eq_one_iff (text tag : List Character) :
    levenshteinDistanceScore alphabet.lowercased (trimmed alphabet.isWhitespaceOrNewline)
        text tag false true = some (.number 1) ↔ Matches alphabet text tag := by
  rw [levenshteinDistanceScore_eq]
  simp only [normalised, Bool.false_eq_true, if_false, if_true, Matches]
  generalize trimmed alphabet.isWhitespaceOrNewline text = first
  generalize trimmed alphabet.isWhitespaceOrNewline tag = second
  rw [Option.some.injEq]
  split
  · rename_i empty
    have none : first = [] := by
      rw [Nat.max_eq_zero_iff] at empty
      exact List.length_eq_zero_iff.mp empty.1
    simp [none]
  · rename_i nonempty
    rw [Score.number.injEq, similarity_eq_one_iff nonempty]
    refine ⟨fun same => ⟨same, ?_⟩, And.left⟩
    rintro rfl
    subst same
    exact nonempty rfl

theorem filterM_some {α : Type} (p : α → Bool) (xs : List α) :
    (xs.filterM fun x => some (p x)) = some (xs.filter p) := by
  have auxiliary (kept : List α) : List.filterAuxM (fun x => some (p x)) xs kept =
      some ((xs.filter p).reverse ++ kept) := by
    induction xs generalizing kept with
    | nil => rfl
    | cons x xs ih =>
      rw [List.filterAuxM, Option.bind_eq_bind, Option.bind_some, ih, List.filter_cons]
      cases p x <;> simp
  rw [List.filterM, auxiliary]
  simp

/-- Filtering the tags never traps. -/
theorem filterTagUser_eq (allTagUsers : List (List Character)) (text : List Character) :
    filterTagUser alphabet allTagUsers text = some (chosenTag alphabet allTagUsers text) := by
  have decides (tag : List Character) :
      (levenshteinDistanceScore alphabet.lowercased (trimmed alphabet.isWhitespaceOrNewline)
          text tag false true).map (fun score => decide (score = .number 1)) =
        some (decide (Matches alphabet text tag)) := by
    have computed := levenshteinDistanceScore_eq alphabet.lowercased
      (trimmed alphabet.isWhitespaceOrNewline) text tag false true
    have isOne := score_eq_one_iff alphabet text tag
    rw [computed] at isOne ⊢
    rw [Option.map_some, Option.some.injEq, decide_eq_decide, ← isOne, Option.some.injEq]
  simp only [filterTagUser, decides, filterM_some, Option.map_some, chosenTag,
    List.head?_filter]

theorem matches_of_chosenTag {allTagUsers : List (List Character)} {text tag : List Character}
    (chosen : chosenTag alphabet allTagUsers text = some tag) : Matches alphabet text tag := by
  have found := List.find?_some (p := fun tag => decide (Matches alphabet text tag)) chosen
  exact of_decide_eq_true found

variable {alphabet} {text tag : List Character}

omit [DecidableEq Character] in
theorem tag_ne_nil (same : Matches alphabet text tag) : tag ≠ [] := by
  rintro rfl
  exact same.2 same.1

omit [DecidableEq Character] in
/-- A text that the tag matches has no more than the tag but blanks. -/
theorem filter_eq_of_matches (same : Matches alphabet text tag) :
    text.filter (fun c => !alphabet.isWhitespaceOrNewline c) =
      tag.filter fun c => !alphabet.isWhitespaceOrNewline c := by
  rw [← filter_trimmed text, same.1, filter_trimmed]

/-- Next to an occurrence of the tag there are only blanks, and no other occurrence. -/
theorem replaceAll_beside_tag (same : Matches alphabet text tag)
    {before after : List Character} (split : text = before ++ tag ++ after) :
    replaceAll tag [] after = after := by
  apply replaceAll_of_absent
  intro found
  have kept := filter_eq_of_matches same
  rw [split, List.filter_append, List.filter_append] at kept
  have lengths := congrArg List.length kept
  rw [List.length_append, List.length_append] at lengths
  have blank : after.filter (fun c => !alphabet.isWhitespaceOrNewline c) = [] := by
    apply List.eq_nil_of_length_eq_zero
    omega
  have noText : tag.filter (fun c => !alphabet.isWhitespaceOrNewline c) = [] :=
    List.eq_nil_of_infix_nil (blank ▸ found.filter _)
  rw [← filter_eq_of_matches same, ← trimmed_eq_nil_iff] at noText
  exact same.2 noText

/-- The tag and what is left of the text without it. -/
def rewritten (tag text : List Character) : List Character := tag ++ replaceAll tag [] text

theorem length_le_rewritten (same : Matches alphabet text tag) :
    text.length ≤ (rewritten tag text).length := by
  rcases replaceAll_cases [] (tag_ne_nil same) text with ⟨-, kept⟩ | ⟨before, after, split, kept⟩
  · rw [rewritten, kept, List.length_append]
    omega
  · rw [rewritten, kept, replaceAll_beside_tag same split, split]
    simp only [List.length_append, List.length_nil]
    omega

/-- The text is written as it was exactly if the tag stands at its beginning. -/
theorem rewritten_eq_iff (same : Matches alphabet text tag) :
    rewritten tag text = text ↔ tag <+: text := by
  constructor
  · intro kept
    exact ⟨_, kept⟩
  · rintro ⟨rest, split⟩
    have atFront : text = [] ++ tag ++ rest := by rw [List.nil_append, split]
    have beside := replaceAll_beside_tag same atFront
    rw [rewritten, ← split, replaceAll_target [] (tag_ne_nil same), beside, List.nil_append]

end Matching

end FinanciaApp.Guarantees
