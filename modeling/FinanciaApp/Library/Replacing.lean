import Mathlib.Data.List.Infix

/-!
# Replacing a literal text

`replaceAll target replacement xs` replaces the occurrences of `target` in `xs` from left
to right, none overlapping the one before it. The scan either steps over one element or
over a whole occurrence (`replaceAll_cons`, `replaceAll_target`); what it leaves alone is
a text without an occurrence, and every piece that cannot begin one.
-/

set_option autoImplicit false

namespace FinanciaApp.Library

universe u

variable {α : Type u} [DecidableEq α]

/-- The scan; `skip` elements belong to the occurrence that was replaced last. -/
def replaceFrom (target replacement : List α) : Nat → List α → List α
  | _, [] => []
  | 0, x :: xs =>
    if target.isPrefixOf (x :: xs) then
      replacement ++ replaceFrom target replacement (target.length - 1) xs
    else
      x :: replaceFrom target replacement 0 xs
  | skip + 1, _ :: xs => replaceFrom target replacement skip xs

/-- An empty target occurs nowhere. -/
def replaceAll (target replacement xs : List α) : List α :=
  if target.isEmpty then xs else replaceFrom target replacement 0 xs

variable {target : List α} (replacement : List α)

theorem replaceFrom_skip (skip : Nat) (xs : List α) :
    replaceFrom target replacement skip xs =
      replaceFrom target replacement 0 (xs.drop skip) := by
  induction skip generalizing xs with
  | zero => rfl
  | succ skip ih =>
    cases xs with
    | nil => simp [replaceFrom]
    | cons x xs => rw [replaceFrom, ih, List.drop_succ_cons]

theorem replaceAll_of_ne_nil (nonempty : target ≠ []) (xs : List α) :
    replaceAll target replacement xs = replaceFrom target replacement 0 xs := by
  rw [replaceAll, if_neg (by simpa using nonempty)]

@[simp] theorem replaceAll_nil : replaceAll target replacement [] = [] := by
  unfold replaceAll
  split <;> rfl

/-- The scan steps over an element that begins no occurrence. -/
theorem replaceAll_cons {x : α} {xs : List α} (absent : ¬ target <+: x :: xs) :
    replaceAll target replacement (x :: xs) = x :: replaceAll target replacement xs := by
  have nonempty : target ≠ [] := by
    rintro rfl
    exact absent List.nil_prefix
  rw [replaceAll_of_ne_nil replacement nonempty, replaceAll_of_ne_nil replacement nonempty,
    replaceFrom, if_neg (by simpa using absent)]

/-- The scan steps over an occurrence. -/
theorem replaceAll_target (nonempty : target ≠ []) (xs : List α) :
    replaceAll target replacement (target ++ xs) =
      replacement ++ replaceAll target replacement xs := by
  rw [replaceAll_of_ne_nil replacement nonempty, replaceAll_of_ne_nil replacement nonempty]
  obtain ⟨x, rest, rfl⟩ := List.exists_cons_of_ne_nil nonempty
  have occurs : (x :: rest).isPrefixOf (x :: (rest ++ xs)) = true := by
    rw [List.isPrefixOf_iff_prefix, ← List.cons_append]
    exact List.prefix_append _ _
  rw [List.cons_append, replaceFrom, if_pos occurs, replaceFrom_skip, List.length_cons,
    Nat.add_sub_cancel, List.drop_left]

/-- A text without an occurrence is left alone. -/
theorem replaceAll_of_absent {xs : List α} (absent : ¬ target <:+: xs) :
    replaceAll target replacement xs = xs := by
  induction xs with
  | nil => exact replaceAll_nil replacement
  | cons x xs ih =>
    rw [replaceAll_cons replacement fun found => absent found.isInfix,
      ih fun found => absent (found.trans (List.suffix_cons x xs).isInfix)]

/-- Either nothing occurs, or the text is split at an occurrence that is replaced. -/
theorem replaceAll_cases (nonempty : target ≠ []) (xs : List α) :
    (¬ target <:+: xs ∧ replaceAll target replacement xs = xs) ∨
    ∃ before after, xs = before ++ target ++ after ∧
      replaceAll target replacement xs =
        before ++ replacement ++ replaceAll target replacement after := by
  induction xs with
  | nil =>
    refine .inl ⟨?_, replaceAll_nil replacement⟩
    simpa using nonempty
  | cons x xs ih =>
    by_cases found : target <+: x :: xs
    · obtain ⟨after, split⟩ := found
      refine .inr ⟨[], after, split.symm, ?_⟩
      rw [← split, replaceAll_target replacement nonempty]
      rfl
    · rw [replaceAll_cons replacement found]
      rcases ih with ⟨absent, same⟩ | ⟨before, after, split, same⟩
      · refine .inl ⟨?_, by rw [same]⟩
        rw [List.infix_cons_iff]
        exact fun occurs => occurs.elim found absent
      · exact .inr ⟨x :: before, after, by simp [split], by simp [same]⟩

/-- A piece that has no element which begins the target is left alone. -/
theorem replaceAll_append_of_notMem {t : α} {ts xs : List α} (absent : t ∉ xs) (ys : List α) :
    replaceAll (t :: ts) replacement (xs ++ ys) =
      xs ++ replaceAll (t :: ts) replacement ys := by
  induction xs with
  | nil => rfl
  | cons x xs ih =>
    rw [List.mem_cons, not_or] at absent
    obtain ⟨other, rest⟩ := absent
    have noPrefix : ¬ t :: ts <+: x :: (xs ++ ys) := by
      rw [List.cons_prefix_cons]
      exact fun found => other found.1
    rw [List.cons_append, replaceAll_cons replacement noPrefix, ih rest, List.cons_append]

/-- A piece without two equal neighbours, and none to come with what follows, is left alone. -/
theorem replaceAll_pair_append {x : α} {xs : List α} (isolated : ¬ [x, x] <:+: xs)
    (last : xs.getLast? ≠ some x) (ys : List α) :
    replaceAll [x, x] replacement (xs ++ ys) = xs ++ replaceAll [x, x] replacement ys := by
  induction xs with
  | nil => rfl
  | cons y xs ih =>
    rw [List.infix_cons_iff, not_or] at isolated
    have noPrefix : ¬ [x, x] <+: y :: (xs ++ ys) := by
      intro found
      obtain ⟨rfl, next⟩ := List.cons_prefix_cons.mp found
      cases xs with
      | nil => exact last rfl
      | cons z xs =>
        obtain ⟨rfl, -⟩ := List.cons_prefix_cons.mp next
        exact isolated.1 ⟨xs, rfl⟩
    rw [List.cons_append, replaceAll_cons replacement noPrefix, List.cons_append]
    cases xs with
    | nil => rfl
    | cons z xs => rw [ih isolated.2 (by rwa [List.getLast?_cons_cons] at last)]

/-- Induction along a scan for the target: an occurrence is stepped over as a whole. -/
theorem scan_induction {motive : List α → Prop} (nonempty : target ≠ []) (nil : motive [])
    (occurrence : ∀ after, motive after → motive (target ++ after))
    (single : ∀ x xs, ¬ target <+: x :: xs → motive xs → motive (x :: xs)) (xs : List α) :
    motive xs := by
  induction length : xs.length using Nat.strong_induction_on generalizing xs with
  | h length' ih =>
    cases xs with
    | nil => exact nil
    | cons x xs =>
      by_cases found : target <+: x :: xs
      · obtain ⟨after, split⟩ := found
        have shorter : after.length < length' := by
          have positive := List.length_pos_iff.mpr nonempty
          rw [← length, ← split, List.length_append]
          omega
        rw [← split]
        exact occurrence after (ih _ shorter after rfl)
      · have shorter : xs.length < length' := by
          rw [← length, List.length_cons]
          omega
        exact single x xs found (ih _ shorter xs rfl)

omit [DecidableEq α] in
/-- An occurrence at the beginning does not reach into what has nothing of the target. -/
theorem prefix_of_prefix_append_of_disjoint {xs ys : List α} (disjoint : ∀ x ∈ target, x ∉ ys)
    (found : target <+: xs ++ ys) : target <+: xs := by
  obtain ⟨rest, split⟩ := found
  rcases List.append_eq_append_iff.mp split with ⟨more, inside, -⟩ | ⟨more, beyond, inYs⟩
  · exact ⟨more, inside.symm⟩
  · cases more with
    | nil => exact ⟨[], by simpa using beyond⟩
    | cons t more => exact absurd (by simp [inYs]) (disjoint t (by simp [beyond]))

/-- What follows is left alone if it has nothing of the target. -/
theorem replaceAll_append_of_disjoint {ys : List α} (nonempty : target ≠ [])
    (disjoint : ∀ x ∈ target, x ∉ ys) (xs : List α) :
    replaceAll target replacement (xs ++ ys) = replaceAll target replacement xs ++ ys := by
  induction xs using scan_induction nonempty with
  | nil =>
    obtain ⟨t, ts, rfl⟩ := List.exists_cons_of_ne_nil nonempty
    have alone : replaceAll (t :: ts) replacement (ys ++ []) =
        ys ++ replaceAll (t :: ts) replacement [] :=
      replaceAll_append_of_notMem replacement (disjoint t List.mem_cons_self) []
    rw [List.append_nil, replaceAll_nil, List.append_nil] at alone
    rw [replaceAll_nil, List.nil_append, alone]
  | occurrence after ih =>
    rw [List.append_assoc, replaceAll_target replacement nonempty,
      replaceAll_target replacement nonempty, ih, List.append_assoc]
  | single x xs noPrefix ih =>
    have alone : ¬ target <+: x :: (xs ++ ys) := fun found =>
      noPrefix (prefix_of_prefix_append_of_disjoint disjoint found)
    rw [List.cons_append, replaceAll_cons replacement alone, replaceAll_cons replacement noPrefix,
      ih, List.cons_append]

/-- A single element is replaced wherever it stands. -/
theorem replaceAll_singleton (x : α) (xs : List α) :
    replaceAll [x] replacement xs = xs.flatMap fun y => if y = x then replacement else [y] := by
  induction xs with
  | nil => exact replaceAll_nil replacement
  | cons y ys ih =>
    rw [List.flatMap_cons, ← ih]
    by_cases same : y = x
    · rw [if_pos same, same]
      exact replaceAll_target replacement (List.cons_ne_nil x []) ys
    · have noPrefix : ¬ [x] <+: y :: ys := by
        rw [List.cons_prefix_cons]
        exact fun found => same found.1.symm
      rw [if_neg same, replaceAll_cons replacement noPrefix, List.singleton_append]

section Expansions

variable {expand : α → List α}

omit [DecidableEq α] in
/-- A target that the expansions do not begin with an element of is not completed by them. -/
theorem prefix_of_prefix_flatMap
    (apart : ∀ x, expand x = [x] ∨ ∃ y ys, expand x = y :: ys ∧ y ∉ target) {xs : List α}
    (found : target <+: xs.flatMap expand) : target <+: xs := by
  induction xs generalizing target with
  | nil => exact found
  | cons x xs ih =>
    cases target with
    | nil => exact List.nil_prefix
    | cons t ts =>
      rw [List.flatMap_cons] at found
      rcases apart x with same | ⟨y, ys, begins, absent⟩
      · rw [same, List.singleton_append] at found
        obtain ⟨rfl, next⟩ := List.cons_prefix_cons.mp found
        have apart' : ∀ x, expand x = [x] ∨ ∃ y ys, expand x = y :: ys ∧ y ∉ ts := by
          intro x
          refine (apart x).imp_right ?_
          rintro ⟨y, ys, begins, absent⟩
          exact ⟨y, ys, begins, fun member => absent (List.mem_cons_of_mem _ member)⟩
        exact List.cons_prefix_cons.mpr ⟨rfl, ih apart' next⟩
      · rw [begins, List.cons_append] at found
        obtain ⟨rfl, -⟩ := List.cons_prefix_cons.mp found
        exact absurd List.mem_cons_self absent

omit [DecidableEq α] in
/-- Behind a piece that does not begin the target, the target occurs in what follows. -/
theorem infix_of_infix_append {t : α} {ts xs ys : List α} (absent : t ∉ xs)
    (found : t :: ts <:+: xs ++ ys) : t :: ts <:+: ys := by
  induction xs with
  | nil => exact found
  | cons x xs ih =>
    rw [List.mem_cons, not_or] at absent
    rcases List.infix_cons_iff.mp found with here | later
    · exact absurd (List.cons_prefix_cons.mp here).1 absent.1
    · exact ih absent.2 later

omit [DecidableEq α] in
/-- An occurrence behind the expansions is an occurrence in the text itself. -/
theorem infix_of_infix_flatMap {t : α} {ts : List α}
    (apart : ∀ x, expand x = [x] ∨
      t ∉ expand x ∧ ∃ y ys, expand x = y :: ys ∧ y ∉ t :: ts) {xs : List α}
    (found : t :: ts <:+: xs.flatMap expand) : t :: ts <:+: xs := by
  induction xs with
  | nil => exact found
  | cons x xs ih =>
    have apart' : ∀ x, expand x = [x] ∨ ∃ y ys, expand x = y :: ys ∧ y ∉ t :: ts :=
      fun x => (apart x).imp_right And.right
    rcases apart x with same | ⟨absent, -⟩
    · rw [List.flatMap_cons, same, List.singleton_append] at found
      rcases List.infix_cons_iff.mp found with here | later
      · refine (prefix_of_prefix_flatMap apart' ?_).isInfix
        rw [List.flatMap_cons, same]
        exact here
      · exact List.infix_cons (ih later)
    · rw [List.flatMap_cons] at found
      exact List.infix_cons (ih (infix_of_infix_append absent found))

end Expansions

end FinanciaApp.Library
