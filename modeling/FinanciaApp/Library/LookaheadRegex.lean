import Mathlib.Data.List.Basic
import Mathlib.Tactic.Common

/-!
# Regular expressions with look-ahead

Single characters and their repetitions, anchors, and look-ahead. A match is a piece of the
subject with what stands before and after it; the dot matches no line terminator.

* `fullMatch_lookaheads_iff`: a pattern of look-aheads for single characters, in front of a
  repetition of the dot, asks for one character of each class and for a length.
-/

set_option autoImplicit false

namespace FinanciaApp.Library

def isLineTerminator (c : Char) : Bool :=
  c.toNat ∈ [0x0A, 0x0B, 0x0C, 0x0D, 0x85, 0x2028, 0x2029]

inductive ClassItem where
  | single (c : Char)
  | range (first last : Char)
deriving DecidableEq, Repr

def ClassItem.accepts (c : Char) : ClassItem → Bool
  | .single d => c = d
  | .range first last => first.toNat ≤ c.toNat && c.toNat ≤ last.toNat

def ClassItem.render : ClassItem → List Char
  | .single c => [c]
  | .range first last => [first, '-', last]

/-- What matches a single character. -/
inductive Atom where
  | dot
  | cls (items : List ClassItem)
deriving DecidableEq, Repr

def Atom.accepts (c : Char) : Atom → Bool
  | .dot => !isLineTerminator c
  | .cls items => items.any (ClassItem.accepts c)

def Atom.render : Atom → List Char
  | .dot => ['.']
  | .cls items => '[' :: items.flatMap ClassItem.render ++ [']']

inductive Regex where
  | start
  | finish
  | one (atom : Atom)
  | many (atom : Atom)
  | atLeast (count : ℕ) (atom : Atom)
  | exactly (count : ℕ) (atom : Atom)
  | ahead (regex : Regex)
  | seq (first second : Regex)
deriving DecidableEq, Repr

namespace Regex

def render : Regex → List Char
  | .start => ['^']
  | .finish => ['$']
  | .one atom => atom.render
  | .many atom => atom.render ++ ['*']
  | .atLeast count atom => atom.render ++ '{' :: Nat.toDigits 10 count ++ [',', '}']
  | .exactly count atom => atom.render ++ '{' :: Nat.toDigits 10 count ++ ['}']
  | .ahead regex => '(' :: '?' :: '=' :: regex.render ++ [')']
  | .seq first second => first.render ++ second.render

/-- The two parts of every cut of a list. -/
def cuts {α : Type} (xs : List α) : List (List α × List α) :=
  (List.range (xs.length + 1)).map fun i => (xs.take i, xs.drop i)

theorem mem_cuts {α : Type} {xs : List α} {cut : List α × List α} :
    cut ∈ cuts xs ↔ cut.1 ++ cut.2 = xs := by
  simp only [cuts, List.mem_map, List.mem_range]
  constructor
  · rintro ⟨i, -, rfl⟩
    exact List.take_append_drop i xs
  · rintro rfl
    exact ⟨cut.1.length, by rw [List.length_append]; omega, by simp⟩

/-- Whether `regex` matches `piece` between `before` and `after`. The end is also before a
line terminator that ends the subject. -/
def isMatch : Regex → (before piece after : List Char) → Bool
  | .start, before, piece, _ => before.isEmpty && piece.isEmpty
  | .finish, _, piece, after =>
    piece.isEmpty && (after.isEmpty || after == ['\r', '\n'] ||
      (after.length == 1 && after.all isLineTerminator))
  | .one atom, _, piece, _ => piece.length == 1 && piece.all fun c => atom.accepts c
  | .many atom, _, piece, _ => piece.all fun c => atom.accepts c
  | .atLeast count atom, _, piece, _ =>
    count ≤ piece.length && piece.all fun c => atom.accepts c
  | .exactly count atom, _, piece, _ =>
    piece.length == count && piece.all fun c => atom.accepts c
  | .ahead regex, before, piece, after =>
    piece.isEmpty && (cuts after).any fun cut => regex.isMatch before cut.1 cut.2
  | .seq first second, before, piece, after =>
    (cuts piece).any fun cut =>
      first.isMatch before cut.1 (cut.2 ++ after) && second.isMatch (before ++ cut.1) cut.2 after

/-- Whether `regex` matches the whole subject. -/
def fullMatch (regex : Regex) (subject : List Char) : Bool :=
  regex.isMatch [] subject []

/-- The pattern that looks ahead for a character of every class and goes on with `rest`. -/
def lookaheads (classes : List (List ClassItem)) (rest : Regex) : Regex :=
  classes.foldr (fun items tail => .seq (.ahead (.seq (.many .dot) (.one (.cls items)))) tail) rest

/-! ## Rules of matching -/

section Rules

attribute [local simp] isMatch

variable {before piece after : List Char} {first second regex : Regex}

theorem isMatch_seq :
    (Regex.seq first second).isMatch before piece after = true ↔
      ∃ left right, left ++ right = piece ∧ first.isMatch before left (right ++ after) = true ∧
        second.isMatch (before ++ left) right after = true := by
  simp only [isMatch, List.any_eq_true, Bool.and_eq_true, Prod.exists, mem_cuts]

theorem isMatch_ahead :
    (Regex.ahead regex).isMatch before piece after = true ↔
      piece = [] ∧ ∃ seen rest, seen ++ rest = after ∧ regex.isMatch before seen rest = true := by
  simp only [isMatch, List.any_eq_true, Bool.and_eq_true, Prod.exists, mem_cuts,
    List.isEmpty_iff]

/-- What matches only the empty piece stands in front of the rest. -/
theorem isMatch_seq_of_empty
    (empty : ∀ b p a, first.isMatch b p a = true → p = []) :
    (Regex.seq first second).isMatch before piece after = true ↔
      first.isMatch before [] (piece ++ after) = true ∧
        second.isMatch before piece after = true := by
  rw [isMatch_seq]
  constructor
  · rintro ⟨left, right, rfl, matched, rest⟩
    obtain rfl := empty _ _ _ matched
    rw [List.append_nil] at rest
    exact ⟨matched, rest⟩
  · rintro ⟨matched, rest⟩
    exact ⟨[], piece, rfl, matched, by rwa [List.append_nil]⟩

theorem isMatch_start : Regex.start.isMatch before piece after = true ↔
    before = [] ∧ piece = [] := by
  simp

theorem eq_nil_of_finish (matched : Regex.finish.isMatch before piece after = true) :
    piece = [] := by
  simp only [isMatch, Bool.and_eq_true, List.isEmpty_iff] at matched
  exact matched.1

theorem finish_at_end : Regex.finish.isMatch before [] [] = true := rfl

/-- A repetition up to the end of the subject takes all of it. -/
theorem fullMatch_seq_finish :
    (Regex.seq first .finish).fullMatch piece = true ↔ first.fullMatch piece = true := by
  rw [fullMatch, isMatch_seq]
  constructor
  · rintro ⟨left, right, rfl, matched, rest⟩
    obtain rfl := eq_nil_of_finish rest
    rwa [List.append_nil]
  · intro matched
    exact ⟨piece, [], List.append_nil piece, matched, finish_at_end⟩

/-- Characters that end no line. -/
def OneLine (text : List Char) : Prop :=
  ∀ c ∈ text, isLineTerminator c = false

theorem fullMatch_atLeast_dot {count : ℕ} :
    (Regex.atLeast count .dot).fullMatch piece = true ↔ count ≤ piece.length ∧ OneLine piece := by
  simp [fullMatch, Atom.accepts, OneLine]

theorem fullMatch_exactly_dot {count : ℕ} :
    (Regex.exactly count .dot).fullMatch piece = true ↔
      piece.length = count ∧ OneLine piece := by
  simp [fullMatch, Atom.accepts, OneLine]

/-- In a subject of one line a look-ahead sees all of it. -/
theorem ahead_class_iff {items : List ClassItem} (line : OneLine after) :
    (Regex.ahead (.seq (.many .dot) (.one (.cls items)))).isMatch before [] after = true ↔
      ∃ c ∈ after, (Atom.cls items).accepts c = true := by
  rw [isMatch_ahead]
  constructor
  · rintro ⟨-, seen, rest, rfl, matched⟩
    obtain ⟨left, right, rfl, -, found⟩ := isMatch_seq.mp matched
    simp only [isMatch, Bool.and_eq_true, beq_iff_eq, List.length_eq_one_iff] at found
    obtain ⟨⟨c, rfl⟩, accepted⟩ := found
    exact ⟨c, by simp, by simpa using accepted⟩
  · rintro ⟨c, member, accepted⟩
    obtain ⟨left, right, rfl⟩ := List.append_of_mem member
    refine ⟨rfl, left ++ [c], right, by simp, isMatch_seq.mpr ⟨left, [c], rfl, ?_, ?_⟩⟩
    · have skipped : ∀ d ∈ left, isLineTerminator d = false :=
        fun d hd => line d (List.mem_append_left _ hd)
      simpa [Atom.accepts] using skipped
    · simpa using accepted

theorem eq_nil_of_ahead {b p a : List Char} (matched : (Regex.ahead regex).isMatch b p a = true) :
    p = [] :=
  (isMatch_ahead.mp matched).1

theorem isMatch_of_lookaheads {classes : List (List ClassItem)}
    (matched : (lookaheads classes regex).isMatch before piece after = true) :
    regex.isMatch before piece after = true := by
  induction classes with
  | nil => exact matched
  | cons items classes ih =>
    exact ih ((isMatch_seq_of_empty fun _ _ _ => eq_nil_of_ahead).mp matched).2

theorem isMatch_lookaheads {classes : List (List ClassItem)} (line : OneLine (piece ++ after)) :
    (lookaheads classes regex).isMatch before piece after = true ↔
      (∀ items ∈ classes, ∃ c ∈ piece ++ after, (Atom.cls items).accepts c = true) ∧
        regex.isMatch before piece after = true := by
  induction classes with
  | nil => simp [lookaheads]
  | cons items classes ih =>
    rw [lookaheads, List.foldr_cons, isMatch_seq_of_empty fun _ _ _ => eq_nil_of_ahead,
      ahead_class_iff line, ← lookaheads, ih, List.forall_mem_cons, and_assoc]

/-- A pattern of look-aheads in front of a repetition that keeps to one line. -/
theorem fullMatch_lookaheads_iff {classes : List (List ClassItem)}
    (line : regex.fullMatch piece = true → OneLine piece) :
    (Regex.seq .start (lookaheads classes (.seq regex .finish))).fullMatch piece = true ↔
      (∀ items ∈ classes, ∃ c ∈ piece, (Atom.cls items).accepts c = true) ∧
        regex.fullMatch piece = true := by
  have at_start : (Regex.seq .start (lookaheads classes (.seq regex .finish))).fullMatch piece =
      true ↔ (lookaheads classes (.seq regex .finish)).fullMatch piece = true := by
    rw [fullMatch, isMatch_seq_of_empty fun _ _ _ matched => (isMatch_start.mp matched).2]
    exact and_iff_right (isMatch_start.mpr ⟨rfl, rfl⟩)
  have looked (one_line : OneLine piece) :
      (lookaheads classes (.seq regex .finish)).fullMatch piece = true ↔
        (∀ items ∈ classes, ∃ c ∈ piece, (Atom.cls items).accepts c = true) ∧
          regex.fullMatch piece = true := by
    have all_seen : OneLine (piece ++ []) := by rwa [List.append_nil]
    rw [fullMatch, isMatch_lookaheads all_seen, List.append_nil, ← fullMatch_seq_finish]
    rfl
  rw [at_start]
  constructor
  · intro matched
    have repeated : regex.fullMatch piece = true :=
      fullMatch_seq_finish.mp (isMatch_of_lookaheads matched)
    exact (looked (line repeated)).mp matched
  · intro conditions
    exact (looked (line conditions.2)).mpr conditions

end Rules

end Regex

end FinanciaApp.Library
