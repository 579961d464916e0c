import FinanciaApp.Guarantees.TagMatching

/-!
# The text of a message with its tags

The loop collects a run of blue Characters and writes it when the run is over. The Character
before a run is always the last one of the result, and was not inserted, so taking it back
takes no markup apart; only before a run at the very beginning there is none, and `@` stands
in for it (`fetchAttributedText_isSome_iff`). A run that matches a tag is written as the tag
and the rest of the run, which is the run itself exactly if it begins with the tag
(`fetched_text_iff`).
-/

set_option autoImplicit false

namespace FinanciaApp.Guarantees

open Library Source Source.NSAttributedString

variable {Character : Type}

/-- The result without the font tags that were inserted. -/
def withoutMarkup (written : List (Written Character)) : List Character :=
  (written.filter fun c => !c.inserted).map Written.character

@[simp] theorem withoutMarkup_nil : withoutMarkup ([] : List (Written Character)) = [] := rfl

@[simp] theorem withoutMarkup_append (first second : List (Written Character)) :
    withoutMarkup (first ++ second) = withoutMarkup first ++ withoutMarkup second := by
  simp [withoutMarkup]

@[simp] theorem withoutMarkup_plain (text : List Character) :
    withoutMarkup (plain text) = text := by
  simp [withoutMarkup, plain, List.filter_map, Function.comp_def]

@[simp] theorem withoutMarkup_tagged (alphabet : Alphabet Character) (tag : List Character) :
    withoutMarkup (tagged alphabet tag) = tag := by
  have inserted (literal : String) : withoutMarkup (markup alphabet literal) = [] := by
    simp [withoutMarkup, markup, List.filter_map, Function.comp_def]
  simp [tagged, inserted]

/-! ## The runs -/

/-- The run that is pending, if there is one. -/
def pendingRun (before : Option Character) (pending : List Character) :
    List (Option Character × List Character) :=
  if pending.isEmpty then [] else [(before, pending)]

/-- The maximal runs of blue Characters, each with the Character before it; `pending` has been
read already, behind `before`. -/
def runsFrom (before : Option Character) (pending : List Character) :
    List (Character × Bool) → List (Option Character × List Character)
  | [] => pendingRun before pending
  | (str, true) :: rest => runsFrom before (pending ++ [str]) rest
  | (str, false) :: rest => pendingRun before pending ++ runsFrom (some str) [] rest

/-- The Characters of a message with their colors. -/
def colored (attributed : NSAttributedString Character) : List (Character × Bool) :=
  attributed.string.zip attributed.isBlue

def runs (attributed : NSAttributedString Character) : List (Option Character × List Character) :=
  runsFrom none [] (colored attributed)

variable [DecidableEq Character] (alphabet : Alphabet Character)
  (allTagUsers : List (List Character))

/-! ## The loop as a recursion -/

/-- The rest of the loop; the run that is pending at the end is written. -/
def fetchFrom (all : List (Written Character)) (pending : List Character) :
    List (Character × Bool) → Option (List (Written Character))
  | [] => appendRun alphabet allTagUsers all pending
  | (str, true) :: rest => fetchFrom all (pending ++ [str]) rest
  | (str, false) :: rest =>
    (appendRun alphabet allTagUsers all pending).bind fun appended =>
      fetchFrom (appended ++ plain [str]) [] rest

section Position

variable {attributed : NSAttributedString Character} {before rest : List (Character × Bool)}
  {str : Character} {isBlue : Bool}

omit [DecidableEq Character] in
theorem color_at (split : colored attributed = before ++ (str, isBlue) :: rest) :
    attributed.isBlue[before.length]? = some isBlue := by
  have here : (colored attributed)[before.length]? = some (str, isBlue) := by
    rw [split, List.getElem?_append_right (Nat.le_refl _), Nat.sub_self]
    rfl
  exact (List.getElem?_zip_eq_some.mp here).2

omit [DecidableEq Character] in
theorem isLast_iff (split : colored attributed = before ++ (str, isBlue) :: rest) :
    before.length = attributed.string.length - 1 ↔ rest = [] := by
  have length := congrArg List.length split
  rw [colored, List.length_zip, Nat.min_eq_left attributed.hasUnits, List.length_append,
    List.length_cons] at length
  rw [length, ← List.length_eq_zero_iff]
  omega

end Position

/-- One turn that is not the last, and the last one, which writes the pending run. -/
theorem foldlM_fetchStep (attributed : NSAttributedString Character)
    (before rest : List (Character × Bool)) (split : colored attributed = before ++ rest)
    (more : rest ≠ []) (s : Fetched Character) :
    (((rest.map Prod.fst).zipIdx before.length).foldlM
        (fetchStep alphabet attributed allTagUsers) s).map Fetched.allSubstrings =
      fetchFrom alphabet allTagUsers s.allSubstrings s.isPreviousAttributedString rest := by
  induction rest generalizing before s with
  | nil => exact absurd rfl more
  | cons entry rest ih =>
    obtain ⟨str, isBlue⟩ := entry
    have color := color_at split
    have isLast := isLast_iff split
    rw [List.map_cons, List.zipIdx_cons, List.foldlM_cons]
    cases rest with
    | nil =>
      cases isBlue with
      | true =>
        simp only [fetchStep, color, Option.bind_eq_bind, Option.bind_some, if_true,
          if_pos (isLast.mpr rfl), fetchFrom]
        cases appendRun alphabet allTagUsers s.allSubstrings
          (s.isPreviousAttributedString ++ [str]) <;> rfl
      | false =>
        simp only [fetchStep, color, Option.bind_eq_bind, Option.bind_some,
          Bool.false_eq_true, if_false, fetchFrom]
        cases appendRun alphabet allTagUsers s.allSubstrings s.isPreviousAttributedString <;> rfl
    | cons following rest =>
      have notLast := isLast.not.mpr (List.cons_ne_nil following rest)
      have loop := ih (before ++ [(str, isBlue)]) (by simpa using split) (List.cons_ne_nil _ _)
      rw [List.length_append, List.length_singleton] at loop
      cases isBlue with
      | true =>
        simp only [fetchStep, color, Option.bind_eq_bind, Option.bind_some, if_true,
          if_neg notLast]
        rw [loop]
        rfl
      | false =>
        simp only [fetchStep, color, Option.bind_eq_bind, Option.bind_some,
          Bool.false_eq_true, if_false]
        rw [fetchFrom]
        cases appendRun alphabet allTagUsers s.allSubstrings s.isPreviousAttributedString with
        | none => rfl
        | some appended => exact loop ⟨appended ++ plain [str], []⟩

/-- No attribute is read out of range. -/
theorem fetchAttributedText_eq (attributed : NSAttributedString Character) :
    fetchAttributedText alphabet attributed allTagUsers =
      fetchFrom alphabet allTagUsers [] [] (colored attributed) := by
  have text : attributed.string = (colored attributed).map Prod.fst :=
    (List.map_fst_zip attributed.hasUnits).symm
  by_cases more : colored attributed = []
  · rw [fetchAttributedText, text, more]
    rfl
  · have loop := foldlM_fetchStep alphabet allTagUsers attributed [] (colored attributed) rfl more
      ⟨[], []⟩
    rw [← text] at loop
    exact loop

/-! ## What a finished run adds -/

/-- How a run is written that is not empty. -/
theorem appendRun_eq (all : List (Written Character)) {run : List Character}
    (nonempty : run ≠ []) :
    appendRun alphabet allTagUsers all run =
      let check := (all.getLast?.map Written.character).getD (alphabet.ofScalar '@') :: run
      match chosenTag alphabet allTagUsers run with
      | some tag => some (all ++ tagged alphabet tag ++ plain (replaceAll tag [] run))
      | none =>
        match chosenTag alphabet allTagUsers check with
        | some tag =>
          if all.isEmpty then none
          else some (all.dropLast ++ tagged alphabet tag ++ plain (replaceAll tag [] check))
        | none => some (all ++ plain run) := by
  have notEmpty : ¬ run.isEmpty = true := by simpa using nonempty
  cases chosen : chosenTag alphabet allTagUsers run with
  | some tag =>
    simp only [appendRun, if_neg notEmpty, filterTagUser_eq, chosen, Option.bind_eq_bind,
      Option.bind_some]
  | none =>
    cases borrowed : chosenTag alphabet allTagUsers
        ((all.getLast?.map Written.character).getD (alphabet.ofScalar '@') :: run) with
    | some tag =>
      simp only [appendRun, if_neg notEmpty, filterTagUser_eq, chosen, borrowed,
        Option.bind_eq_bind, Option.bind_some]
    | none =>
      simp only [appendRun, if_neg notEmpty, filterTagUser_eq, chosen, borrowed,
        Option.bind_eq_bind, Option.bind_some]

/-- The tag that is chosen for the run, or else for the run behind the Character before it,
stands at the beginning of the text it was chosen for. -/
def Verbatim (run : Option Character × List Character) : Prop :=
  match chosenTag alphabet allTagUsers run.2 with
  | some tag => tag <+: run.2
  | none => ∀ tag, chosenTag alphabet allTagUsers
      (run.1.getD (alphabet.ofScalar '@') :: run.2) = some tag →
        tag <+: run.1.getD (alphabet.ofScalar '@') :: run.2

/-- The result ends with the Character before the run, which was not inserted, and has at
least the length of the text so far. -/
def Anchored (before : Option Character) (consumed : List Character)
    (all : List (Written Character)) : Prop :=
  match before with
  | none => consumed = [] ∧ all = []
  | some last => ∃ text written, consumed = text ++ [last] ∧ all = written ++ plain [last] ∧
      text.length ≤ (withoutMarkup written).length

omit [DecidableEq Character] in
theorem length_le_of_anchored {before : Option Character} {consumed : List Character}
    {all : List (Written Character)} (anchored : Anchored before consumed all) :
    consumed.length ≤ (withoutMarkup all).length := by
  cases before with
  | none =>
    obtain ⟨rfl, -⟩ := anchored
    exact Nat.zero_le _
  | some last =>
    obtain ⟨text, written, rfl, rfl, shorter⟩ := anchored
    rw [withoutMarkup_append, withoutMarkup_plain, List.length_append, List.length_append]
    omega

/-- Two pieces that are not shorter each make up a text only if they are its pieces. -/
theorem append_eq_append_iff_of_le {α : Type} {xs xs' ys ys' : List α}
    (first : xs'.length ≤ xs.length) (second : ys'.length ≤ ys.length) :
    xs ++ ys = xs' ++ ys' ↔ xs = xs' ∧ ys = ys' := by
  constructor
  · intro same
    have lengths := congrArg List.length same
    rw [List.length_append, List.length_append] at lengths
    exact List.append_inj same (by omega)
  · rintro ⟨rfl, rfl⟩
    rfl

section WrittenRun

variable {consumed text tag : List Character} {head : List (Written Character)}

omit [DecidableEq Character] in
/-- A text that is written plainly is kept. -/
theorem plain_effect (shorter : consumed.length ≤ (withoutMarkup head).length)
    (text : List Character) :
    (consumed ++ text).length ≤ (withoutMarkup (head ++ plain text)).length ∧
    (withoutMarkup (head ++ plain text) = consumed ++ text ↔ withoutMarkup head = consumed) := by
  rw [withoutMarkup_append, withoutMarkup_plain, List.length_append, List.length_append,
    List.append_left_inj]
  exact ⟨Nat.add_le_add_right shorter _, Iff.rfl⟩

/-- A text that is written with the tag that it matches is kept if it begins with the tag. -/
theorem tagged_effect (shorter : consumed.length ≤ (withoutMarkup head).length)
    (same : Matches alphabet text tag) :
    (consumed ++ text).length ≤
        (withoutMarkup (head ++ tagged alphabet tag ++ plain (replaceAll tag [] text))).length ∧
    (withoutMarkup (head ++ tagged alphabet tag ++ plain (replaceAll tag [] text)) =
        consumed ++ text ↔
      withoutMarkup head = consumed ∧ tag <+: text) := by
  have result : withoutMarkup (head ++ tagged alphabet tag ++ plain (replaceAll tag [] text)) =
      withoutMarkup head ++ rewritten tag text := by
    simp [rewritten]
  rw [result, List.length_append, List.length_append,
    append_eq_append_iff_of_le shorter (length_le_rewritten same), rewritten_eq_iff same]
  exact ⟨Nat.add_le_add shorter (length_le_rewritten same), Iff.rfl⟩

/-- A run that no tag matches alone, behind a Character that was written plainly. -/
theorem borrowedRun_effect {last : Character} {pending : List Character}
    {appended : List (Written Character)}
    (shorter : text.length ≤ (withoutMarkup head).length) (nonempty : pending ≠ [])
    (unmatched : chosenTag alphabet allTagUsers pending = none)
    (written : appendRun alphabet allTagUsers (head ++ plain [last]) pending = some appended) :
    (text ++ [last] ++ pending).length ≤ (withoutMarkup appended).length ∧
    (withoutMarkup appended = text ++ [last] ++ pending ↔
      withoutMarkup (head ++ plain [last]) = text ++ [last] ∧
        Verbatim alphabet allTagUsers (some last, pending)) := by
  have lastCharacter : (head ++ plain [last]).getLast?.map Written.character = some last := by
    simp [plain]
  have kept := plain_effect shorter [last]
  rw [appendRun_eq alphabet allTagUsers _ nonempty] at written
  simp only [unmatched, lastCharacter, Option.getD_some] at written
  simp only [Verbatim, unmatched, Option.getD_some]
  cases borrowed : chosenTag alphabet allTagUsers (last :: pending) with
  | some tag =>
    have dropped : (head ++ plain [last]).dropLast = head := by simp [plain]
    have notEmpty : (head ++ plain [last]).isEmpty = false := by simp [plain]
    simp only [borrowed, notEmpty, Bool.false_eq_true, if_false, dropped,
      Option.some.injEq] at written
    subst written
    have effect := tagged_effect alphabet shorter (matches_of_chosenTag alphabet borrowed)
    rw [List.append_assoc, List.singleton_append, kept.2]
    simpa using effect
  | none =>
    simp only [borrowed, Option.some.injEq] at written
    subst written
    simpa using plain_effect kept.1 pending

end WrittenRun

/-- A pending run loses nothing, and adds itself exactly if it is written verbatim. -/
theorem appendRun_effect {before : Option Character} {consumed pending : List Character}
    {all appended : List (Written Character)} (anchored : Anchored before consumed all)
    (written : appendRun alphabet allTagUsers all pending = some appended) :
    (consumed ++ pending).length ≤ (withoutMarkup appended).length ∧
    (withoutMarkup appended = consumed ++ pending ↔ withoutMarkup all = consumed ∧
      ∀ run ∈ pendingRun before pending, Verbatim alphabet allTagUsers run) := by
  have shorter := length_le_of_anchored anchored
  by_cases empty : pending = []
  · subst empty
    cases written
    simpa [pendingRun] using shorter
  have isPending : pendingRun before pending = [(before, pending)] := by
    rw [pendingRun, if_neg (by simpa using empty)]
  rw [isPending, List.forall_mem_singleton]
  cases chosen : chosenTag alphabet allTagUsers pending with
  | some tag =>
    rw [appendRun_eq alphabet allTagUsers all empty] at written
    simp only [chosen, Option.some.injEq] at written
    subst written
    simp only [Verbatim, chosen]
    exact tagged_effect alphabet shorter (matches_of_chosenTag alphabet chosen)
  | none =>
    cases before with
    | some last =>
      obtain ⟨text, head, rfl, rfl, shorter'⟩ := anchored
      exact borrowedRun_effect alphabet allTagUsers shorter' empty chosen written
    | none =>
      -- Behind nothing the code would take an `@`, and trap when it removes it again.
      obtain ⟨rfl, rfl⟩ := anchored
      rw [appendRun_eq alphabet allTagUsers [] empty] at written
      simp only [Verbatim, chosen]
      cases borrowed : chosenTag alphabet allTagUsers (alphabet.ofScalar '@' :: pending) with
      | some tag => simp [chosen, borrowed] at written
      | none =>
        simp only [chosen, List.getLast?_nil, Option.map_none, Option.getD_none,
          borrowed, Option.some.injEq] at written
        subst written
        simp [borrowed]

/-! ## Messages -/

theorem fetchFrom_effect {before : Option Character} {consumed pending : List Character}
    {all out : List (Written Character)} {rest : List (Character × Bool)}
    (anchored : Anchored before consumed all)
    (fetched : fetchFrom alphabet allTagUsers all pending rest = some out) :
    withoutMarkup out = consumed ++ pending ++ rest.map Prod.fst ↔
      withoutMarkup all = consumed ∧
        ∀ run ∈ runsFrom before pending rest, Verbatim alphabet allTagUsers run := by
  induction rest generalizing before consumed pending all with
  | nil =>
    rw [List.map_nil, List.append_nil]
    exact (appendRun_effect alphabet allTagUsers anchored fetched).2
  | cons entry rest ih =>
    obtain ⟨str, isBlue⟩ := entry
    cases isBlue with
    | true =>
      have later := ih anchored fetched
      simpa only [runsFrom, List.map_cons, List.append_assoc, List.singleton_append] using later
    | false =>
      obtain ⟨appended, written, fetched⟩ := Option.bind_eq_some_iff.mp fetched
      obtain ⟨shorter, kept⟩ := appendRun_effect alphabet allTagUsers anchored written
      have next : Anchored (some str) (consumed ++ pending ++ [str])
          (appended ++ plain [str]) := ⟨_, _, rfl, rfl, shorter⟩
      have later := ih next fetched
      rw [withoutMarkup_append, withoutMarkup_plain, List.append_left_inj, kept] at later
      simp only [List.append_nil, List.append_assoc, List.singleton_append] at later
      simp only [runsFrom, List.map_cons, List.append_assoc, List.forall_mem_append]
      rw [later, and_assoc]

/-- For every message and every list of tags, whenever the text is fetched: without the font
tags that were inserted it is the text of the message exactly if every run of blue Characters
that is matched with a tag, alone or behind the Character before it, begins with this tag. -/
theorem fetched_text_iff (attributed : NSAttributedString Character)
    (written : List (Written Character))
    (fetched : fetchAttributedText alphabet attributed allTagUsers = some written) :
    withoutMarkup written = attributed.string ↔
      ∀ run ∈ runs attributed, Verbatim alphabet allTagUsers run := by
  rw [fetchAttributedText_eq] at fetched
  have text : (colored attributed).map Prod.fst = attributed.string :=
    List.map_fst_zip attributed.hasUnits
  have atStart : Anchored none ([] : List Character) ([] : List (Written Character)) :=
    ⟨rfl, rfl⟩
  have effect := fetchFrom_effect alphabet allTagUsers atStart fetched
  rw [List.nil_append, List.nil_append, text] at effect
  rw [effect]
  exact and_iff_right rfl

/-- A run at the very beginning that matches a tag behind `@` only. -/
def BorrowsFromNothing (run : List Character) : Prop :=
  run ≠ [] ∧ (∀ tag ∈ allTagUsers, ¬ Matches alphabet run tag) ∧
    ∃ tag ∈ allTagUsers, Matches alphabet (alphabet.ofScalar '@' :: run) tag

theorem chosenTag_eq_none_iff (text : List Character) :
    chosenTag alphabet allTagUsers text = none ↔
      ∀ tag ∈ allTagUsers, ¬ Matches alphabet text tag := by
  simp [chosenTag]

theorem appendRun_isSome_iff (all : List (Written Character)) (run : List Character) :
    (appendRun alphabet allTagUsers all run).isSome ↔
      (all = [] → ¬ BorrowsFromNothing alphabet allTagUsers run) := by
  by_cases empty : run = []
  · simp [appendRun, empty, BorrowsFromNothing]
  rw [appendRun_eq alphabet allTagUsers all empty]
  unfold BorrowsFromNothing
  rw [← chosenTag_eq_none_iff]
  dsimp only
  cases chosen : chosenTag alphabet allTagUsers run with
  | some tag => simp
  | none =>
    cases all with
    | cons first rest =>
      cases chosenTag alphabet allTagUsers
        (((first :: rest).getLast?.map Written.character).getD (alphabet.ofScalar '@') :: run) <;>
          simp
    | nil =>
      cases borrowed : chosenTag alphabet allTagUsers (alphabet.ofScalar '@' :: run) with
      | none =>
        have unmatched := (chosenTag_eq_none_iff alphabet allTagUsers _).mp borrowed
        simpa [borrowed] using fun _ => unmatched
      | some tag =>
        have member := List.mem_of_find?_eq_some borrowed
        have same := matches_of_chosenTag alphabet borrowed
        simpa [borrowed, empty] using ⟨tag, member, same⟩

theorem fetchFrom_isSome_of_ne_nil {all : List (Written Character)} (nonempty : all ≠ [])
    (pending : List Character) (rest : List (Character × Bool)) :
    (fetchFrom alphabet allTagUsers all pending rest).isSome := by
  induction rest generalizing all pending with
  | nil =>
    rw [fetchFrom, appendRun_isSome_iff]
    exact fun none => absurd none nonempty
  | cons entry rest ih =>
    obtain ⟨str, isBlue⟩ := entry
    cases isBlue with
    | true => exact ih nonempty _
    | false =>
      have some : (appendRun alphabet allTagUsers all pending).isSome := by
        rw [appendRun_isSome_iff]
        exact fun none => absurd none nonempty
      obtain ⟨appended, written⟩ := Option.isSome_iff_exists.mp some
      rw [fetchFrom, written, Option.bind_some]
      exact ih (by simp [plain]) _

theorem fetchFrom_isSome_iff (pending : List Character) (rest : List (Character × Bool)) :
    (fetchFrom alphabet allTagUsers [] pending rest).isSome ↔
      ¬ BorrowsFromNothing alphabet allTagUsers
        (pending ++ (rest.takeWhile Prod.snd).map Prod.fst) := by
  induction rest generalizing pending with
  | nil => simp [fetchFrom, appendRun_isSome_iff]
  | cons entry rest ih =>
    obtain ⟨str, isBlue⟩ := entry
    cases isBlue with
    | true =>
      rw [fetchFrom, ih]
      simp
    | false =>
      have first : (appendRun alphabet allTagUsers [] pending).isSome ↔
          ¬ BorrowsFromNothing alphabet allTagUsers pending :=
        (appendRun_isSome_iff alphabet allTagUsers [] pending).trans (by simp)
      have noMore : pending ++ (((str, false) :: rest).takeWhile Prod.snd).map Prod.fst =
          pending := by simp
      rw [fetchFrom, noMore, ← first]
      cases appendRun alphabet allTagUsers [] pending with
      | none => rfl
      | some appended =>
        have nonempty : appended ++ plain [str] ≠ [] := by simp [plain]
        have returns := fetchFrom_isSome_of_ne_nil alphabet allTagUsers nonempty [] rest
        exact iff_of_true returns rfl

/-- The blue Characters that the message begins with. -/
def leadingRun (attributed : NSAttributedString Character) : List Character :=
  ((colored attributed).takeWhile Prod.snd).map Prod.fst

/-- For every message and every list of tags: the text is fetched without a trap unless the
message begins with a run that no tag matches alone and some tag matches behind `@`. -/
theorem fetchAttributedText_isSome_iff (attributed : NSAttributedString Character) :
    (fetchAttributedText alphabet attributed allTagUsers).isSome ↔
      ¬ BorrowsFromNothing alphabet allTagUsers (leadingRun attributed) := by
  rw [fetchAttributedText_eq, fetchFrom_isSome_iff, List.nil_append, leadingRun]

/-! ## Two messages -/

/-- Unicode scalars in the place of Characters. -/
def scalars : Alphabet Char where
  ofScalar := id
  lowercased := List.map Char.toLower
  isWhitespaceOrNewline := isWhitespaceOrNewline

/-- A text of which the first part is blue. -/
def blueThenBlack (blue black : String) : NSAttributedString Char where
  string := blue.toList ++ black.toList
  isBlue := List.replicate blue.toList.length true ++ List.replicate black.toList.length false
  hasUnits := by simp

/-- A tag that begins its run is written verbatim. -/
theorem fetched_text_iff_ana :
    ∃ written, fetchAttributedText scalars (blueThenBlack "Ana " "ok") ["Ana".toList] =
        some written ∧
      (withoutMarkup written = "Ana ok".toList ↔
        ∀ run ∈ runs (blueThenBlack "Ana " "ok"), Verbatim scalars ["Ana".toList] run) := by
  have returns : (fetchAttributedText scalars (blueThenBlack "Ana " "ok")
      ["Ana".toList]).isSome = true := by decide +kernel
  obtain ⟨written, fetched⟩ := Option.isSome_iff_exists.mp returns
  exact ⟨written, fetched, fetched_text_iff scalars ["Ana".toList]
    (blueThenBlack "Ana " "ok") written fetched⟩

/-- The text contains no font tag. -/
def HasNoMarkup (text : List Char) : Prop :=
  ¬ "<font color='#007AFF'>".toList <:+: text ∧ ¬ "</font>".toList <:+: text

instance (text : List Char) : Decidable (HasNoMarkup text) :=
  inferInstanceAs (Decidable (_ ∧ _))

/-- The blank in front of a tag is written behind it. -/
theorem blank_moves_behind_tag :
    ¬ ∀ (attributed : NSAttributedString Char) (allTagUsers : List (List Char))
        (written : List (Written Char)), HasNoMarkup attributed.string →
      fetchAttributedText scalars attributed allTagUsers = some written →
        withoutMarkup written = attributed.string := by
  intro claim
  have returns : ((fetchAttributedText scalars (blueThenBlack " Ana" "!") ["Ana".toList]).map
      withoutMarkup) = some "Ana !".toList := by decide +kernel
  obtain ⟨written, fetched, text⟩ := Option.map_eq_some_iff.mp returns
  have kept := claim _ _ written (by decide +kernel) fetched
  rw [text] at kept
  exact absurd kept (by decide)

/-- A message that begins with the name of a tag without its `@` traps. -/
theorem leading_name_traps :
    ¬ ∀ (attributed : NSAttributedString Char) (allTagUsers : List (List Char)),
      (fetchAttributedText scalars attributed allTagUsers).isSome := by
  intro claim
  have trapped : fetchAttributedText scalars (blueThenBlack "Ana" "!") ["@Ana".toList] =
      none := by decide +kernel
  have returns := claim (blueThenBlack "Ana" "!") ["@Ana".toList]
  rw [trapped] at returns
  cases returns

end FinanciaApp.Guarantees
