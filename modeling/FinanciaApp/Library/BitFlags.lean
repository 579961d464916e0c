import Mathlib.Data.Nat.Bitwise
import Mathlib.Data.List.Nodup

/-!
# Sets of flags in one word

A word holds a set of flags, one for each bit. `hasFlags word flags` asks for all bits of
`flags` at once, `unionOf` joins words, and a table gives some flags a name each: `named`
reads off a word the names whose flags it has, in the order of the table.

Where every flag of the table is a bit of its own, the names of a union are those of its
parts (`mem_named_unionOf`), and two words of the table's bits are equal exactly when they
have the same names (`SingleBits.eq_iff_named`).
-/

set_option autoImplicit false

namespace FinanciaApp.Library

universe u

/-- All bits of `flags` are set in `word`. -/
def hasFlags (word flags : Nat) : Bool := word &&& flags == flags

def unionOf (words : List Nat) : Nat := words.foldl (fun union word => union ||| word) 0

theorem hasFlags_iff (word flags : Nat) :
    hasFlags word flags = true ↔ ∀ i, flags.testBit i = true → word.testBit i = true := by
  rw [hasFlags, beq_iff_eq]
  constructor
  · intro h i set
    have bit := congrArg (fun n => n.testBit i) h
    simp only [Nat.testBit_land, set, Bool.and_true] at bit
    exact bit
  · intro h
    apply Nat.eq_of_testBit_eq
    intro i
    rw [Nat.testBit_land]
    cases set : flags.testBit i with
    | false => exact Bool.and_false _
    | true => rw [h i set, Bool.and_true]

theorem hasFlags_two_pow (word bit : Nat) : hasFlags word (2 ^ bit) = word.testBit bit := by
  rw [Bool.eq_iff_iff, hasFlags_iff]
  constructor
  · exact fun h => h bit Nat.testBit_two_pow_self
  · intro set i isBit
    rw [Nat.testBit_two_pow, decide_eq_true_eq] at isBit
    exact isBit ▸ set

theorem testBit_foldl_or (words : List Nat) (start i : Nat) :
    (words.foldl (fun union word => union ||| word) start).testBit i = true ↔
      start.testBit i = true ∨ ∃ word ∈ words, word.testBit i = true := by
  induction words generalizing start with
  | nil => simp
  | cons word words ih =>
    rw [List.foldl_cons, ih, Nat.testBit_lor, Bool.or_eq_true, or_assoc]
    simp

theorem testBit_unionOf (words : List Nat) (i : Nat) :
    (unionOf words).testBit i = true ↔ ∃ word ∈ words, word.testBit i = true := by
  rw [unionOf, testBit_foldl_or, Nat.zero_testBit]
  simp

section Table

variable {α : Type u} (table : List (Nat × α))

/-- Every flag of the table is one bit, each name has one flag and each flag one name. -/
structure SingleBits : Prop where
  bit : ∀ entry ∈ table, ∃ i, entry.1 = 2 ^ i
  flags : (table.map Prod.fst).Nodup
  names : (table.map Prod.snd).Nodup

/-- The names of the flags that `word` has, in the order of the table. -/
def named (word : Nat) : List α :=
  (table.filter fun entry => hasFlags word entry.1).map Prod.snd

/-- `word` has bits of the table only. -/
def OfTable (word : Nat) : Prop :=
  ∀ i, word.testBit i = true → ∃ entry ∈ table, entry.1 = 2 ^ i

theorem mem_named (word : Nat) (name : α) :
    name ∈ named table word ↔ ∃ flag, (flag, name) ∈ table ∧ hasFlags word flag = true := by
  simp [named]

theorem named_nodup (single : SingleBits table) (word : Nat) : (named table word).Nodup :=
  single.names.sublist (List.filter_sublist.map Prod.snd)

theorem ofTable_unionOf (words : List Nat) (parts : ∀ word ∈ words, OfTable table word) :
    OfTable table (unionOf words) := by
  intro i set
  obtain ⟨word, there, bit⟩ := (testBit_unionOf words i).mp set
  exact parts word there i bit

variable {table}

theorem SingleBits.hasFlags_unionOf (single : SingleBits table) {entry : Nat × α}
    (there : entry ∈ table) (words : List Nat) :
    hasFlags (unionOf words) entry.1 = true ↔ ∃ word ∈ words, hasFlags word entry.1 = true := by
  obtain ⟨i, isBit⟩ := single.bit entry there
  simp only [isBit, hasFlags_two_pow, testBit_unionOf]

/-- The names of a union are the names of its parts. -/
theorem SingleBits.mem_named_unionOf (single : SingleBits table) (words : List Nat) (name : α) :
    name ∈ named table (unionOf words) ↔ ∃ word ∈ words, name ∈ named table word := by
  simp only [mem_named]
  constructor
  · intro ⟨flag, there, has⟩
    obtain ⟨word, inWords, has⟩ := (single.hasFlags_unionOf there words).mp has
    exact ⟨word, inWords, flag, there, has⟩
  · intro ⟨word, inWords, flag, there, has⟩
    exact ⟨flag, there, (single.hasFlags_unionOf there words).mpr ⟨word, inWords, has⟩⟩

theorem SingleBits.flag_unique (single : SingleBits table) {flag flag' : Nat} {name : α}
    (h : (flag, name) ∈ table) (h' : (flag', name) ∈ table) : flag = flag' :=
  congrArg Prod.fst (List.inj_on_of_nodup_map single.names h h' rfl)

/-- A bit of `v` is a flag of the table; where `w` has its name too, it has the bit. -/
theorem SingleBits.testBit_of_named (single : SingleBits table) {v w : Nat}
    (hv : OfTable table v) (sub : ∀ name, name ∈ named table v → name ∈ named table w) (i : Nat)
    (set : v.testBit i = true) : w.testBit i = true := by
  obtain ⟨⟨flag, name⟩, there, isBit⟩ := hv i set
  dsimp only at isBit
  have inV : name ∈ named table v :=
    (mem_named table v name).mpr ⟨flag, there, by rw [isBit, hasFlags_two_pow, set]⟩
  obtain ⟨flag', there', has⟩ := (mem_named table w name).mp (sub name inV)
  rwa [single.flag_unique there' there, isBit, hasFlags_two_pow] at has

/-- Two words of the table's bits are equal exactly when they have the same names. -/
theorem SingleBits.eq_iff_named (single : SingleBits table) {v w : Nat} (hv : OfTable table v)
    (hw : OfTable table w) :
    v = w ↔ ∀ name, name ∈ named table v ↔ name ∈ named table w := by
  constructor
  · rintro rfl name
    exact Iff.rfl
  · intro same
    apply Nat.eq_of_testBit_eq
    intro i
    rw [Bool.eq_iff_iff]
    exact ⟨single.testBit_of_named hv (fun name => (same name).mp) i,
      single.testBit_of_named hw (fun name => (same name).mpr) i⟩

end Table

end FinanciaApp.Library
