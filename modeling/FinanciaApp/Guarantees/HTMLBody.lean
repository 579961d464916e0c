import FinanciaApp.Library.MarkedUp
import FinanciaApp.Source.HTMLString

/-!
# The markup in the HTML of a message

After the third replacement no `<` is left. Each later one adds literals or no `<` at all,
and its target neither has a `<` nor begins inside of a literal, so it cannot take one apart.
The last two run over the span as well, which has neither a newline nor two blanks in a row.
-/

set_option autoImplicit false

namespace FinanciaApp.Guarantees

open Library Source.HTMLString

/-- The markup that the body may have. -/
def bodyLiterals : List (List Char) := [fontTag.toList, fontEnd.toList, "<br>".toList]

theorem begins_bodyLiterals : ∀ literal ∈ bodyLiterals, literal.head? = some '<' := by
  decide

/-- A replacement whose target begins with a scalar that no literal has. -/
theorem markedUp_replacingOccurrences {target replacement : String} {first : Char}
    {rest string : List Char} (isTarget : target.toList = first :: rest)
    (absent : '<' ∉ target.toList) (notInLiteral : ∀ literal ∈ bodyLiterals, first ∉ literal)
    (added : MarkedUp '<' bodyLiterals replacement.toList)
    (marked : MarkedUp '<' bodyLiterals string) :
    MarkedUp '<' bodyLiterals (replacingOccurrences target replacement string) := by
  unfold replacingOccurrences
  refine MarkedUp.replaceAll begins_bodyLiterals ?_ absent ?_ added marked
  · rw [isTarget]
    exact List.cons_ne_nil _ _
  · intro literal member ys
    rw [isTarget]
    exact replaceAll_append_of_notMem _ (notInLiteral literal member) ys

/-- Behind the third replacement nothing begins with `<`. -/
theorem notMem_escaped (string : List Char) :
    '<' ∉ replacingOccurrences "<" "&lt;" string := by
  have target : "<".toList = ['<'] := rfl
  rw [replacingOccurrences, target, replaceAll_singleton, List.mem_flatMap]
  rintro ⟨scalar, -, member⟩
  split at member
  · exact absurd member (by decide)
  · rename_i other
    exact other (List.mem_singleton.mp member).symm

theorem markedUp_modifiedFont (string : List Char) :
    MarkedUp '<' bodyLiterals (modifiedFont string) := by
  have tags : MarkedUp '<' bodyLiterals fontTag.toList := .of_literal (by decide)
  have ends : MarkedUp '<' bodyLiterals fontEnd.toList := .of_literal (by decide)
  have escaped : MarkedUp '<' bodyLiterals (replacingOccurrences "<" "&lt;"
      (replacingOccurrences fontEnd stringTag2
        (replacingOccurrences fontTag stringTag1 string))) :=
    .of_notMem (notMem_escaped _)
  refine markedUp_replacingOccurrences (by rfl) (by decide) (by decide) ends ?_
  exact markedUp_replacingOccurrences (by rfl) (by decide) (by decide) tags escaped

theorem markedUp_htmlBody (string : List Char) : MarkedUp '<' bodyLiterals (htmlBody string) := by
  have breaks : MarkedUp '<' bodyLiterals "<br>".toList := .of_literal (by decide)
  have lines : MarkedUp '<' bodyLiterals
      (replacingOccurrences "\n" "<br>" (modifiedFont string)) :=
    markedUp_replacingOccurrences (by rfl) (by decide) (by decide) breaks
      (markedUp_modifiedFont string)
  -- the blank in the font tag stands alone
  have isolated : ∀ literal ∈ bodyLiterals, ¬ [' ', ' '] <:+: literal := by decide
  have last : ∀ literal ∈ bodyLiterals, literal.getLast? ≠ some ' ' := by decide
  unfold htmlBody modifiedSpaces
  refine MarkedUp.replaceAll begins_bodyLiterals (by decide) (by decide) ?_ ?_ lines
  · intro literal member ys
    exact replaceAll_pair_append _ (isolated literal member) (last literal member) ys
  · exact .of_notMem (by decide)

/-! ## The span -/

theorem exists_digitChar {c : Char} {n : Nat} (member : c ∈ Nat.toDigits 16 n) :
    ∃ digit < 16, c = Nat.digitChar digit := by
  induction n using Nat.strong_induction_on with
  | h n ih =>
    by_cases small : n < 16
    · rw [Nat.toDigits_of_lt_base small] at member
      exact ⟨n, small, List.mem_singleton.mp member⟩
    · have large : 16 ≤ n := Nat.le_of_not_lt small
      rw [Nat.toDigits_of_base_le (by omega) large, List.mem_append] at member
      rcases member with earlier | last
      · exact ih (n / 16) (by omega) earlier
      · exact ⟨n % 16, Nat.mod_lt n (by omega), List.mem_singleton.mp last⟩

/-- The color has no blank and no newline. -/
theorem ne_of_mem_toHexString {c : Char} {rgb : Nat} (member : c ∈ toHexString rgb) :
    c ≠ ' ' ∧ c ≠ '\n' := by
  have digits : ∀ digit < 16, Nat.digitChar digit ≠ ' ' ∧ Nat.digitChar digit ≠ '\n' := by
    decide
  simp only [toHexString, List.mem_cons, List.mem_append, List.mem_replicate] at member
  rcases member with rfl | ⟨-, rfl⟩ | isDigit
  · decide
  · decide
  · obtain ⟨digit, bound, rfl⟩ := exists_digitChar isDigit
    exact digits digit bound

theorem replaceAll_newline_spanBegin (textColor : Nat) (replacement string : List Char) :
    replaceAll ['\n'] replacement (spanBegin textColor ++ string) =
      spanBegin textColor ++ replaceAll ['\n'] replacement string := by
  have noNewline : '\n' ∉ toHexString textColor := fun member =>
    (ne_of_mem_toHexString member).2 rfl
  unfold spanBegin
  rw [List.append_assoc, List.append_assoc, replaceAll_append_of_notMem _ (by decide),
    replaceAll_append_of_notMem _ noNewline, replaceAll_append_of_notMem _ (by decide),
    List.append_assoc, List.append_assoc]

theorem replaceAll_blanks_spanBegin (textColor : Nat) (replacement string : List Char) :
    replaceAll [' ', ' '] replacement (spanBegin textColor ++ string) =
      spanBegin textColor ++ replaceAll [' ', ' '] replacement string := by
  have noBlank : ' ' ∉ toHexString textColor := fun member =>
    (ne_of_mem_toHexString member).1 rfl
  unfold spanBegin
  rw [List.append_assoc, List.append_assoc, replaceAll_pair_append _ (by decide) (by decide),
    replaceAll_append_of_notMem _ noBlank, replaceAll_pair_append _ (by decide) (by decide),
    List.append_assoc, List.append_assoc]

/-- The replacements in the span are those in the input. -/
theorem modifiedSpaces_span (textColor : Nat) (string : List Char) :
    modifiedSpaces (spanBegin textColor ++ modifiedFont string ++ spanEnd) =
      spanBegin textColor ++ htmlBody string ++ spanEnd := by
  have newline : "\n".toList = ['\n'] := rfl
  have blanks : "  ".toList = [' ', ' '] := rfl
  have noNewline : ∀ c ∈ ['\n'], c ∉ spanEnd := List.forall_mem_singleton.mpr (by decide)
  have noBlank : ∀ c ∈ [' ', ' '], c ∉ spanEnd :=
    List.forall_mem_cons.mpr ⟨by decide, List.forall_mem_singleton.mpr (by decide)⟩
  unfold htmlBody modifiedSpaces replacingOccurrences
  rw [newline, blanks, replaceAll_append_of_disjoint _ (by decide) noNewline,
    replaceAll_append_of_disjoint _ (by decide) noBlank, replaceAll_newline_spanBegin,
    replaceAll_blanks_spanBegin]

/-- For every text color and every input: the HTML is the span around the body, and in the
body every `<` begins a font tag, the end of one or a line break. -/
theorem html_has_only_markup (textColor : Nat) (string : List Char) :
    htmlToAttributedString textColor string =
        (if string.isEmpty then none
          else some (spanBegin textColor ++ htmlBody string ++ spanEnd)) ∧
      ∀ before after, htmlBody string = before ++ '<' :: after →
        ∃ literal ∈ bodyLiterals, literal <+: '<' :: after := by
  constructor
  · rw [htmlToAttributedString, modifiedSpaces_span]
  · intro before after split
    have single : ∀ literal ∈ bodyLiterals, '<' ∉ literal.tail := by decide
    exact (markedUp_htmlBody string).literal_at single split

end FinanciaApp.Guarantees
