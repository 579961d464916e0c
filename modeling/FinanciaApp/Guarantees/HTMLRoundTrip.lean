import FinanciaApp.Source.HTMLString

/-!
# Reading the HTML of a message back

Without font tags and placeholders in the input the seven replacements are one escaping of
`<`, newlines and pairs of blanks. The importer reads character references, so what comes
back is the input exactly if no `&` of the input begins one: the escaping leaves `&` alone.
-/

set_option autoImplicit false

namespace FinanciaApp.Guarantees

open Library Source.HTMLString

/-- What a character reference is made of, behind its `&`. -/
def isReferenceScalar (c : Char) : Bool := c.isAlphanum || c == '#' || c == ';'

/-- The character references of the importer, as HTML has them: `read` is given the scalars
behind `&` that can belong to a reference, and answers with the text that a reference stands
for and the number of scalars that belong to it. A reference is longer than its text. -/
structure CharacterReferences where
  read : List Char → Option (List Char × Nat)
  lt : ∀ more, read ("lt;".toList ++ more) = some (['<'], 3)
  nbsp : ∀ more, read ("nbsp;".toList ++ more) = some ([' '], 5)
  within : ∀ scalars text count, read scalars = some (text, count) → count ≤ scalars.length
  shorter : ∀ scalars text count, read scalars = some (text, count) → text.length ≤ count

/-- What the replacements escape. -/
def escape (c : Char) : List Char :=
  if c = '<' then "&lt;".toList else if c = '\n' then "<br>".toList else [c]

/-- The replacements in one pass. -/
def encode : List Char → List Char
  | [] => []
  | [c] => escape c
  | c :: d :: rest =>
    if c = ' ' ∧ d = ' ' then "&nbsp;&nbsp;".toList ++ encode rest
    else escape c ++ encode (d :: rest)

/-! ## The replacements are the escaping -/

/-- The input has neither a font tag nor one of the internal words. -/
structure PlainInput (string : List Char) : Prop where
  noFontTag : ¬ fontTag.toList <:+: string
  noFontEnd : ¬ fontEnd.toList <:+: string
  noStringTag1 : ¬ stringTag1.toList <:+: string
  noStringTag2 : ¬ stringTag2.toList <:+: string

/-- The third replacement. -/
def escapeLess (c : Char) : List Char := if c = '<' then "&lt;".toList else [c]

theorem not_infix_escapeLess {first : Char} {rest string : List Char}
    (absent : ¬ first :: rest <:+: string) (noFirst : first ∉ "&lt;".toList)
    (noAmpersand : '&' ∉ first :: rest) :
    ¬ first :: rest <:+: string.flatMap escapeLess := by
  refine fun found => absent (infix_of_infix_flatMap ?_ found)
  intro c
  unfold escapeLess
  split
  · exact .inr ⟨noFirst, '&', "lt;".toList, rfl, noAmpersand⟩
  · exact .inl rfl

theorem modifiedFont_of_plain {string : List Char} (plain : PlainInput string) :
    modifiedFont string = string.flatMap escapeLess := by
  have less : "<".toList = ['<'] := rfl
  have escaped : replacingOccurrences "<" "&lt;" string = string.flatMap escapeLess := by
    rw [replacingOccurrences, less, replaceAll_singleton]
    rfl
  have noTag1 : ¬ stringTag1.toList <:+: string.flatMap escapeLess :=
    not_infix_escapeLess plain.noStringTag1 (by decide) (by decide)
  have noTag2 : ¬ stringTag2.toList <:+: string.flatMap escapeLess :=
    not_infix_escapeLess plain.noStringTag2 (by decide) (by decide)
  have first : replacingOccurrences fontTag stringTag1 string = string :=
    replaceAll_of_absent _ plain.noFontTag
  have second : replacingOccurrences fontEnd stringTag2 string = string :=
    replaceAll_of_absent _ plain.noFontEnd
  unfold modifiedFont
  dsimp only
  rw [first, second, escaped]
  unfold replacingOccurrences
  rw [replaceAll_of_absent _ noTag1, replaceAll_of_absent _ noTag2]

theorem encode_blanks (rest : List Char) :
    encode (' ' :: ' ' :: rest) = "&nbsp;&nbsp;".toList ++ encode rest := by
  rw [encode, if_pos ⟨rfl, rfl⟩]

theorem encode_cons {c : Char} {rest : List Char} (single : ¬ [' ', ' '] <+: c :: rest) :
    encode (c :: rest) = escape c ++ encode rest := by
  cases rest with
  | nil => simp [encode]
  | cons d rest =>
    rw [encode, if_neg]
    rintro ⟨rfl, rfl⟩
    exact single ⟨rest, rfl⟩

theorem eq_of_pair {c : Char} {rest : List Char} (pair : [' ', ' '] <+: c :: rest) :
    ∃ following, c = ' ' ∧ rest = ' ' :: following := by
  obtain ⟨rfl, next⟩ := List.cons_prefix_cons.mp pair
  obtain ⟨following, split⟩ := next
  exact ⟨following, rfl, split.symm⟩

theorem escape_cases (c : Char) : escape c = [c] ∨ ∃ y ys, escape c = y :: ys ∧ y ∉ [' ', ' '] := by
  unfold escape
  split
  · exact .inr ⟨'&', "lt;".toList, rfl, by decide⟩
  · split
    · exact .inr ⟨'<', "br>".toList, rfl, by decide⟩
    · exact .inl rfl

/-- The last replacement steps over what it does not replace. -/
theorem replaceAll_blanks_escape {c : Char} {rest : List Char}
    (single : ¬ [' ', ' '] <+: c :: rest) (replacement : List Char) :
    replaceAll [' ', ' '] replacement (escape c ++ rest.flatMap escape) =
      escape c ++ replaceAll [' ', ' '] replacement (rest.flatMap escape) := by
  have noPrefix : ¬ [' ', ' '] <+: escape c ++ rest.flatMap escape := by
    rw [← List.flatMap_cons]
    exact fun found => single (prefix_of_prefix_flatMap escape_cases found)
  by_cases unchanged : escape c = [c]
  · rw [unchanged, List.singleton_append] at noPrefix ⊢
    exact replaceAll_cons _ noPrefix
  · have noBlank : ' ' ∉ escape c := by
      unfold escape at unchanged ⊢
      split
      · decide
      · split
        · decide
        · simp_all
    exact replaceAll_append_of_notMem _ noBlank _

theorem replaceAll_blanks_eq_encode (string : List Char) :
    replaceAll [' ', ' '] "&nbsp;&nbsp;".toList (string.flatMap escape) = encode string := by
  have twoBlanks : [' ', ' '] ≠ [] := List.cons_ne_nil _ _
  induction string using scan_induction twoBlanks with
  | nil => exact replaceAll_nil _
  | occurrence after ih =>
    have blanks : ([' ', ' '] ++ after).flatMap escape = [' ', ' '] ++ after.flatMap escape := rfl
    rw [blanks, replaceAll_target _ twoBlanks, ih]
    exact (encode_blanks after).symm
  | single c rest noPair ih =>
    rw [List.flatMap_cons, replaceAll_blanks_escape noPair, ih, encode_cons noPair]

theorem htmlBody_of_plain {string : List Char} (plain : PlainInput string) :
    htmlBody string = encode string := by
  have newline : "\n".toList = ['\n'] := rfl
  have blanks : "  ".toList = [' ', ' '] := rfl
  have both (c : Char) : (escapeLess c).flatMap (fun d =>
      if d = '\n' then "<br>".toList else [d]) = escape c := by
    unfold escapeLess escape
    split
    · rfl
    · rw [List.flatMap_singleton]
  unfold htmlBody modifiedSpaces replacingOccurrences
  rw [modifiedFont_of_plain plain, newline, blanks, replaceAll_singleton, List.flatMap_assoc]
  simp only [both]
  exact replaceAll_blanks_eq_encode string

/-! ## Decoding -/

section Decoding

variable (references : CharacterReferences)

/-- The text of an HTML body; `skip` scalars belong to what was read last. -/
def decodeFrom : Nat → List Char → List Char
  | _, [] => []
  | 0, c :: rest =>
    if c = '&' then
      match references.read (rest.takeWhile isReferenceScalar) with
      | some (text, count) => text ++ decodeFrom count rest
      | none => c :: decodeFrom 0 rest
    else if "<br>".toList.isPrefixOf (c :: rest) then
      '\n' :: decodeFrom 3 rest
    else
      c :: decodeFrom 0 rest
  | skip + 1, _ :: rest => decodeFrom skip rest

def decode (body : List Char) : List Char := decodeFrom references 0 body

/-- No `&` begins a character reference. -/
def NoReference (text : List Char) : Prop :=
  ∀ before after, text = before ++ '&' :: after →
    references.read (after.takeWhile isReferenceScalar) = none

variable {references}

theorem decodeFrom_skip (skip : Nat) (body : List Char) :
    decodeFrom references skip body = decode references (body.drop skip) := by
  induction skip generalizing body with
  | zero => rfl
  | succ skip ih =>
    cases body with
    | nil => rfl
    | cons c rest => exact ih rest

theorem decode_reference {rest text : List Char} {count : Nat}
    (found : references.read (rest.takeWhile isReferenceScalar) = some (text, count)) :
    decode references ('&' :: rest) = text ++ decode references (rest.drop count) := by
  rw [decode, decodeFrom, if_pos rfl, found]
  dsimp only
  rw [decodeFrom_skip]

theorem decode_ampersand {rest : List Char}
    (absent : references.read (rest.takeWhile isReferenceScalar) = none) :
    decode references ('&' :: rest) = '&' :: decode references rest := by
  rw [decode, decodeFrom, if_pos rfl, absent]
  rfl

theorem decode_less (rest : List Char) :
    decode references ("&lt;".toList ++ rest) = '<' :: decode references rest := by
  have scalars : ("lt;".toList ++ rest).takeWhile isReferenceScalar =
      "lt;".toList ++ rest.takeWhile isReferenceScalar :=
    List.takeWhile_append_of_pos (List.all_eq_true.mp (by decide))
  exact decode_reference (scalars ▸ references.lt _)

theorem decode_blank (rest : List Char) :
    decode references ("&nbsp;".toList ++ rest) = ' ' :: decode references rest := by
  have scalars : ("nbsp;".toList ++ rest).takeWhile isReferenceScalar =
      "nbsp;".toList ++ rest.takeWhile isReferenceScalar :=
    List.takeWhile_append_of_pos (List.all_eq_true.mp (by decide))
  exact decode_reference (scalars ▸ references.nbsp _)

theorem decode_break (rest : List Char) :
    decode references ("<br>".toList ++ rest) = '\n' :: decode references rest := rfl

theorem decode_text {c : Char} (noAmpersand : c ≠ '&') (noLess : c ≠ '<') (rest : List Char) :
    decode references (c :: rest) = c :: decode references rest := by
  have noBreak : "<br>".toList.isPrefixOf (c :: rest) = false := by
    simp [List.isPrefixOf, Ne.symm noLess]
  rw [decode, decodeFrom, if_neg noAmpersand, noBreak]
  rfl

/-- What is escaped comes back. -/
theorem decode_escape {c : Char} (noAmpersand : c ≠ '&') (rest : List Char) :
    decode references (escape c ++ rest) = c :: decode references rest := by
  unfold escape
  split
  · rename_i isLess
    rw [isLess]
    exact decode_less rest
  · rename_i noLess
    split
    · rename_i isNewline
      rw [isNewline]
      exact decode_break rest
    · exact decode_text noAmpersand noLess rest

/-! ## The round trip -/

theorem escape_of_isReferenceScalar {c : Char} (belongs : isReferenceScalar c) :
    escape c = [c] := by
  have notLess : c ≠ '<' := by
    rintro rfl
    exact absurd belongs (by decide)
  have notNewline : c ≠ '\n' := by
    rintro rfl
    exact absurd belongs (by decide)
  rw [escape, if_neg notLess, if_neg notNewline]

/-- The escaping keeps the scalars that can belong to a reference. -/
theorem encode_of_isReferenceScalar {c : Char} (belongs : isReferenceScalar c)
    (rest : List Char) : encode (c :: rest) = c :: encode rest := by
  have noPair : ¬ [' ', ' '] <+: c :: rest := by
    intro pair
    obtain ⟨rfl, -⟩ := List.cons_prefix_cons.mp pair
    exact absurd belongs (by decide)
  rw [encode_cons noPair, escape_of_isReferenceScalar belongs, List.singleton_append]

/-- It ends them where they ended. -/
theorem takeWhile_encode_of_not {c : Char} (other : ¬ isReferenceScalar c) (rest : List Char) :
    (encode (c :: rest)).takeWhile isReferenceScalar = [] := by
  by_cases pair : [' ', ' '] <+: c :: rest
  · obtain ⟨following, split⟩ := pair
    rw [← split]
    rfl
  · rw [encode_cons pair]
    unfold escape
    split
    · rfl
    · split
      · rfl
      · exact List.takeWhile_cons_of_neg other

theorem takeWhile_encode (string : List Char) :
    (encode string).takeWhile isReferenceScalar = string.takeWhile isReferenceScalar := by
  induction string with
  | nil => rfl
  | cons c rest ih =>
    by_cases belongs : isReferenceScalar c
    · rw [encode_of_isReferenceScalar belongs, List.takeWhile_cons_of_pos belongs,
        List.takeWhile_cons_of_pos belongs, ih]
    · rw [takeWhile_encode_of_not belongs, List.takeWhile_cons_of_neg belongs]

theorem drop_encode {string : List Char} {count : Nat}
    (within : count ≤ (string.takeWhile isReferenceScalar).length) :
    (encode string).drop count = encode (string.drop count) := by
  induction string generalizing count with
  | nil => simp [encode]
  | cons c rest ih =>
    cases count with
    | zero => rfl
    | succ count =>
      have belongs : isReferenceScalar c := by
        by_contra other
        rw [List.takeWhile_cons_of_neg other] at within
        cases within
      rw [List.takeWhile_cons_of_pos belongs, List.length_cons] at within
      rw [encode_of_isReferenceScalar belongs, List.drop_succ_cons, List.drop_succ_cons]
      exact ih (Nat.le_of_succ_le_succ within)

theorem noReference_cons_iff (c : Char) (rest : List Char) :
    NoReference references (c :: rest) ↔
      (c = '&' → references.read (rest.takeWhile isReferenceScalar) = none) ∧
        NoReference references rest := by
  constructor
  · intro none
    refine ⟨?_, ?_⟩
    · rintro rfl
      exact none [] rest rfl
    · intro before after split
      exact none (c :: before) after (by rw [split, List.cons_append])
  · rintro ⟨here, later⟩ before after split
    cases before with
    | nil =>
      obtain ⟨isAmpersand, rfl⟩ := List.cons_eq_cons.mp split
      exact here isAmpersand
    | cons first before => exact later before after (List.cons_eq_cons.mp split).2

theorem noReference_cons_of_ne {c : Char} (other : c ≠ '&') (rest : List Char) :
    NoReference references (c :: rest) ↔ NoReference references rest := by
  rw [noReference_cons_iff]
  exact and_iff_right fun isAmpersand => absurd isAmpersand other

variable (references) in
/-- Decoding what was escaped: nothing makes the text longer, and it comes back if no
reference was in it. -/
def Survives (string : List Char) : Prop :=
  (decode references (encode string)).length ≤ string.length ∧
    (decode references (encode string) = string ↔ NoReference references string)

theorem survives_nil : Survives references [] := by
  refine ⟨Nat.le_refl _, iff_of_true rfl ?_⟩
  intro before after split
  simp at split

theorem survives_blanks {rest : List Char} (later : Survives references rest) :
    Survives references (' ' :: ' ' :: rest) := by
  have blanks : decode references (encode (' ' :: ' ' :: rest)) =
      ' ' :: ' ' :: decode references (encode rest) := by
    rw [encode_blanks]
    exact (decode_blank _).trans (congrArg (' ' :: ·) (decode_blank _))
  unfold Survives
  rw [blanks, noReference_cons_of_ne (by decide), noReference_cons_of_ne (by decide), ← later.2]
  refine ⟨?_, by simp⟩
  exact Nat.add_le_add_right later.1 2

section Cons

variable {c : Char} {rest : List Char}

theorem survives_escaped (alone : ¬ [' ', ' '] <+: c :: rest) (noAmpersand : c ≠ '&')
    (later : Survives references rest) : Survives references (c :: rest) := by
  unfold Survives
  rw [encode_cons alone, decode_escape noAmpersand, noReference_cons_of_ne noAmpersand,
    ← later.2, List.cons_inj_right]
  exact ⟨Nat.succ_le_succ later.1, Iff.rfl⟩

theorem encode_ampersand (rest : List Char) : encode ('&' :: rest) = '&' :: encode rest := by
  apply encode_cons
  intro pair
  exact absurd (List.cons_prefix_cons.mp pair).1 (by decide)

theorem survives_ampersand
    (absent : references.read (rest.takeWhile isReferenceScalar) = none)
    (later : Survives references rest) : Survives references ('&' :: rest) := by
  have unread : references.read ((encode rest).takeWhile isReferenceScalar) = none := by
    rw [takeWhile_encode, absent]
  unfold Survives
  rw [encode_ampersand, decode_ampersand unread, noReference_cons_iff, ← later.2,
    List.cons_inj_right]
  exact ⟨Nat.succ_le_succ later.1, (and_iff_right fun _ => absent).symm⟩

/-- A reference makes the text shorter, and nothing after it makes up for that. -/
theorem survives_reference {text : List Char} {count : Nat}
    (found : references.read (rest.takeWhile isReferenceScalar) = some (text, count))
    (later : Survives references (rest.drop count)) : Survives references ('&' :: rest) := by
  have present : references.read ((encode rest).takeWhile isReferenceScalar) =
      some (text, count) := by
    rw [takeWhile_encode, found]
  have within := references.within _ _ _ found
  have textBound := references.shorter _ _ _ found
  have countBound := within.trans (List.takeWhile_prefix _).length_le
  have lost : (decode references (encode ('&' :: rest))).length ≤ rest.length := by
    have restBound := later.1
    rw [List.length_drop] at restBound
    rw [encode_ampersand, decode_reference present, drop_encode within, List.length_append]
    omega
  refine ⟨Nat.le_succ_of_le lost, iff_of_false ?_ ?_⟩
  · intro kept
    rw [kept, List.length_cons] at lost
    omega
  · intro none
    have absent := ((noReference_cons_iff '&' rest).mp none).1 rfl
    cases found.symm.trans absent

end Cons

theorem survives (string : List Char) : Survives references string := by
  induction length : string.length using Nat.strong_induction_on generalizing string with
  | h length' ih =>
    subst length
    cases string with
    | nil => exact survives_nil
    | cons c rest =>
      have later := ih _ (Nat.lt_succ_self _) rest rfl
      by_cases pair : [' ', ' '] <+: c :: rest
      · obtain ⟨following, rfl, rfl⟩ := eq_of_pair pair
        exact survives_blanks (ih _ (by simp only [List.length_cons]; omega) following rfl)
      · by_cases isAmpersand : c = '&'
        · subst isAmpersand
          cases found : references.read (rest.takeWhile isReferenceScalar) with
          | none => exact survives_ampersand found later
          | some reference =>
            have fewer : (rest.drop reference.2).length < rest.length + 1 := by
              rw [List.length_drop]
              omega
            exact survives_reference found (ih _ fewer _ rfl)
        · exact survives_escaped pair isAmpersand later

/-- For every input without font tags and internal words, and the character references of any
importer: the body is decoded to the input exactly if no `&` of the input begins a
reference. -/
theorem html_decodes_to_input_iff (string : List Char) (plain : PlainInput string) :
    decode references (htmlBody string) = string ↔ NoReference references string := by
  rw [htmlBody_of_plain plain]
  exact (survives string).2

end Decoding

/-- An importer that knows the references of HTML for `<`, `&` and the blank. -/
def basicReferences : CharacterReferences where
  read scalars :=
    if "lt;".toList <+: scalars then some (['<'], 3)
    else if "nbsp;".toList <+: scalars then some ([' '], 5)
    else if "amp;".toList <+: scalars then some (['&'], 4)
    else none
  lt more := if_pos (List.prefix_append _ _)
  nbsp more := by
    have other : ¬ "lt;".toList <+: "nbsp;".toList ++ more := by simp
    rw [if_neg other, if_pos (List.prefix_append _ _)]
  within scalars text count found := by
    split at found
    · rename_i isPrefix
      cases found
      exact isPrefix.length_le
    · split at found
      · rename_i isPrefix
        cases found
        exact isPrefix.length_le
      · split at found
        · rename_i isPrefix
          cases found
          exact isPrefix.length_le
        · cases found
  shorter scalars text count found := by
    split at found
    · cases found
      decide
    · split at found
      · cases found
        decide
      · split at found
        · cases found
          decide
        · cases found

theorem html_decodes_to_input_iff_less :
    decode basicReferences (htmlBody "a  < b\n".toList) = "a  < b\n".toList ↔
      NoReference basicReferences "a  < b\n".toList :=
  html_decodes_to_input_iff _ ⟨by decide, by decide, by decide, by decide⟩

/-- A reference that was typed is read as a reference. -/
theorem typed_reference_is_decoded :
    ¬ ∀ (references : CharacterReferences) (string : List Char), PlainInput string →
        decode references (htmlBody string) = string := by
  intro claim
  have same := claim basicReferences "&lt;".toList ⟨by decide, by decide, by decide, by decide⟩
  exact absurd same (by decide)

end FinanciaApp.Guarantees
