import Mathlib.Tactic.Common

/-!
# Texts as C strings

Characters are what a user sees as one: at least one Unicode scalar, and a control scalar only
alone (or a carriage return with a line feed). A text is handed to C as its UTF-8 bytes and a
zero, and compared up to the first zero.

* `strcmp_backslash_b_iff`: which texts compare as the empty one does with a backslash and a
  `b`; of the single characters only the scalar of number 0 (`cString_single_iff`).
-/

set_option autoImplicit false

namespace FinanciaApp.Library

def isControl (c : Char) : Bool :=
  c.toNat < 0x20 || c.toNat == 0x7F

structure Character where
  scalars : List Char
  nonempty : scalars ≠ []
  controls : ∀ c ∈ scalars, isControl c = true → scalars = [c] ∨ scalars = ['\r', '\n']

instance : DecidableEq Character := fun a b =>
  decidable_of_iff (a.scalars = b.scalars) ⟨fun same => by cases a; cases b; cases same; rfl,
    fun same => same ▸ rfl⟩

/-- The scalar of number 0. -/
def Character.nul : Character :=
  ⟨['\x00'], by decide, fun c member _ => Or.inl (by rw [List.mem_singleton.mp member])⟩

/-- A character of one scalar. -/
def Character.single (c : Char) : Character :=
  ⟨[c], List.cons_ne_nil _ _, fun d member _ => Or.inl (by rw [List.mem_singleton.mp member])⟩

/-- The UTF-8 bytes of scalars and a zero. -/
def terminated (scalars : List Char) : List UInt8 :=
  scalars.flatMap String.utf8EncodeChar ++ [0]

/-- `cString(using: .utf8)`. -/
def cString (text : List Character) : List UInt8 :=
  terminated (text.flatMap Character.scalars)

/-- The difference of the first bytes that differ, as in the C libraries that subtract. -/
def strcmp : List UInt8 → List UInt8 → Int
  | a :: as, b :: bs =>
    if a ≠ b then (a.toNat : Int) - b.toNat else if a = 0 then 0 else strcmp as bs
  | _, _ => 0

/-! ## The first bytes -/

section Bytes

variable {c : Char}

/-- The bytes of a scalar begin with its number below 128, and with a larger byte otherwise. -/
theorem exists_utf8EncodeChar (c : Char) :
    ∃ first rest, String.utf8EncodeChar c = first :: rest ∧
      (c.toNat < 128 → first.toNat = c.toNat ∧ rest = []) ∧
      (128 ≤ c.toNat → 128 ≤ first.toNat) := by
  have number : c.val.toNat = c.toNat := rfl
  rw [String.utf8EncodeChar]
  split_ifs with one two three
  · refine ⟨_, _, rfl, fun _ => ⟨?_, rfl⟩, fun large => by omega⟩
    rw [UInt8.toNat_ofNat', number]
    omega
  · refine ⟨_, _, rfl, fun small => by omega, fun _ => ?_⟩
    rw [UInt8.toNat_ofNat']
    omega
  · refine ⟨_, _, rfl, fun small => by omega, fun _ => ?_⟩
    rw [UInt8.toNat_ofNat']
    omega
  · refine ⟨_, _, rfl, fun small => by omega, fun _ => ?_⟩
    rw [UInt8.toNat_ofNat']
    omega

theorem terminated_cons (c : Char) (scalars : List Char) :
    terminated (c :: scalars) = String.utf8EncodeChar c ++ terminated scalars := by
  simp [terminated]

end Bytes

/-! ## A scalar against a byte below 128 -/

section Comparison

variable {c : Char} {tail : List Char} {byte : UInt8} {bytes : List UInt8}

theorem strcmp_ne {first : UInt8} {rest : List UInt8} (different : first ≠ byte) :
    strcmp (first :: rest) (byte :: bytes) = (first.toNat : Int) - byte.toNat := by
  rw [strcmp, if_pos different]

theorem strcmp_eq {first : UInt8} {rest : List UInt8} (same : first = byte) (nonzero : byte ≠ 0) :
    strcmp (first :: rest) (byte :: bytes) = strcmp rest bytes := by
  rw [strcmp, if_neg (not_not.mpr same), if_neg (same ▸ nonzero)]

/-- The text ends where the other one goes on. -/
theorem strcmp_terminated_nil (nonzero : byte ≠ 0) :
    strcmp (terminated []) (byte :: bytes) = -(byte.toNat : Int) := by
  have ended : strcmp (terminated []) (byte :: bytes) = (0 : UInt8).toNat - byte.toNat :=
    strcmp_ne nonzero.symm
  rw [ended, UInt8.toNat_zero]
  omega

theorem strcmp_terminated_same (ascii : byte.toNat < 128) (nonzero : byte ≠ 0)
    (same : c.toNat = byte.toNat) :
    strcmp (terminated (c :: tail)) (byte :: bytes) = strcmp (terminated tail) bytes := by
  obtain ⟨first, rest, encoded, small, -⟩ := exists_utf8EncodeChar c
  obtain ⟨number, rfl⟩ := small (same ▸ ascii)
  rw [terminated_cons, encoded, List.singleton_append]
  exact strcmp_eq (UInt8.toNat_inj.mp (number.trans same)) nonzero

/-- A scalar whose bytes begin with a larger one is too large for a negative difference. -/
theorem strcmp_terminated_neg_iff (ascii : byte.toNat < 128) (different : c.toNat ≠ byte.toNat)
    {difference : ℕ} (positive : 0 < difference) :
    strcmp (terminated (c :: tail)) (byte :: bytes) = -(difference : Int) ↔
      c.toNat + difference = byte.toNat := by
  obtain ⟨first, rest, encoded, small, large⟩ := exists_utf8EncodeChar c
  have first_ne : first ≠ byte := by
    rintro rfl
    rcases Nat.lt_or_ge c.toNat 128 with less | more
    · exact different (small less).1.symm
    · have above := large more
      omega
  rw [terminated_cons, encoded, List.cons_append, strcmp_ne first_ne]
  rcases Nat.lt_or_ge c.toNat 128 with less | more
  · have number := (small less).1
    omega
  · have above := large more
    omega

theorem strcmp_end_nonneg (bytes : List UInt8) : 0 ≤ strcmp bytes [0] := by
  cases bytes with
  | nil => exact Int.le_refl 0
  | cons first rest =>
    by_cases zero : first = 0
    · have ended : strcmp (first :: rest) [0] = 0 := by
        rw [strcmp, if_neg (not_not.mpr zero), if_pos zero]
      exact Int.le_of_eq ended.symm
    · have positive : 0 ≤ (first.toNat : Int) := Int.natCast_nonneg first.toNat
      rw [strcmp_ne zero, UInt8.toNat_zero]
      omega

end Comparison

/-! ## Texts that compare as the empty one -/

section Backslash

theorem toNat_injective {c d : Char} (same : c.toNat = d.toNat) : c = d :=
  Char.ext (UInt32.toNat_inj.mp same)

theorem head_iff_toNat {c first : Char} {tail : List Char} :
    (∃ rest, c :: tail = first :: rest) ↔ c.toNat = first.toNat := by
  constructor
  · rintro ⟨_, same⟩
    rw [(List.cons.inj same).1]
  · intro same
    exact ⟨tail, by rw [toNat_injective same]⟩

/-- Behind a backslash, the comparison with `b` gives -92 for the scalar 6 only. -/
theorem strcmp_b_iff (scalars : List Char) :
    strcmp (terminated scalars) [98, 0] = -92 ↔ ∃ rest, scalars = '\x06' :: rest := by
  have number : (98 : UInt8).toNat = 98 := rfl
  have six : '\x06'.toNat = 6 := rfl
  cases scalars with
  | nil => exact iff_of_false (by decide) nofun
  | cons c tail =>
    rw [head_iff_toNat, six]
    by_cases b : c.toNat = (98 : UInt8).toNat
    · have nonneg := strcmp_end_nonneg (terminated tail)
      rw [strcmp_terminated_same (by decide) (by decide) b]
      omega
    · refine (strcmp_terminated_neg_iff (by decide) b (show 0 < 92 by omega)).trans ?_
      omega

/-- The comparison of a text with a backslash and a `b` gives -92 for the empty text, where a
zero is found at once, and where the scalar 6 comes behind a backslash. -/
theorem strcmp_backslash_b_iff (scalars : List Char) :
    strcmp (terminated scalars) [92, 98, 0] = -92 ↔
      scalars = [] ∨ (∃ rest, scalars = '\x00' :: rest) ∨
        ∃ rest, scalars = '\\' :: '\x06' :: rest := by
  have number : (92 : UInt8).toNat = 92 := rfl
  have zero : '\x00'.toNat = 0 := rfl
  have backslash : '\\'.toNat = 92 := rfl
  cases scalars with
  | nil => exact iff_of_true (strcmp_terminated_nil (by decide)) (Or.inl rfl)
  | cons c tail =>
    have not_empty : c :: tail ≠ [] := List.cons_ne_nil c tail
    rw [or_iff_right not_empty, head_iff_toNat, zero]
    by_cases slash : c.toNat = (92 : UInt8).toNat
    · obtain rfl : c = '\\' := toNat_injective (slash.trans (number.trans backslash.symm))
      rw [strcmp_terminated_same (by decide) (by decide) slash, strcmp_b_iff, backslash]
      simp
    · have no_slash : ¬∃ rest, c :: tail = '\\' :: '\x06' :: rest := by
        rintro ⟨rest, same⟩
        rw [(List.cons.inj same).1] at slash
        exact slash rfl
      rw [or_iff_left no_slash]
      refine (strcmp_terminated_neg_iff (by decide) slash (show 0 < 92 by omega)).trans ?_
      omega

theorem cString_empty : strcmp (cString []) [92, 98, 0] = -92 := by
  decide

/-- A single character compares so only if it is the scalar of number 0. -/
theorem cString_single_iff (character : Character) :
    strcmp (cString [character]) [92, 98, 0] = -92 ↔ character = Character.nul := by
  have scalars : [character].flatMap Character.scalars = character.scalars := by simp
  have nul_iff : character = Character.nul ↔ character.scalars = ['\x00'] := by
    constructor
    · rintro rfl
      rfl
    · intro same
      cases character
      cases same
      rfl
  rw [cString, scalars, strcmp_backslash_b_iff, nul_iff]
  constructor
  · rintro (empty | ⟨rest, first⟩ | ⟨rest, first⟩)
    · exact absurd empty character.nonempty
    · have member : '\x00' ∈ character.scalars := by rw [first]; exact List.mem_cons_self
      rcases character.controls _ member (by decide) with alone | lines
      · exact alone
      · rw [lines] at first
        exact absurd (List.cons.inj first).1 (by decide)
    · have member : '\x06' ∈ character.scalars := by rw [first]; simp
      rcases character.controls _ member (by decide) with alone | lines
      · rw [alone] at first
        exact absurd (List.cons.inj first).1 (by decide)
      · rw [lines] at first
        exact absurd (List.cons.inj first).1 (by decide)
  · intro alone
    exact Or.inr (Or.inl ⟨[], alone⟩)

end Backslash

end FinanciaApp.Library
