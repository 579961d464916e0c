import Mathlib.Data.Rat.Defs
import FinanciaApp.Library.EditDistance
import FinanciaApp.Library.Trimming

/-!
# Extensions of strings

`Core/UIExtensions/String.swift:23-25,93-126`. `atcTrimmed` works on Unicode scalars. The
two loops of `levenshteinDistanceScore` work on the Characters of the strings as they are
after the optional lowercasing and trimming; `last`, `cur` and `empty` are its arrays, and
`none` is an index out of range, which traps. The score is an exact rational number.
-/

set_option autoImplicit false

namespace FinanciaApp.Source

open Library

universe u

/-- `CharacterSet.whitespacesAndNewlines`: the general category Z*, U+0009 to U+000D and
U+0085. -/
def isWhitespaceOrNewline (c : Char) : Bool :=
  (0x09 ≤ c.toNat && c.toNat ≤ 0x0D) || c.toNat == 0x20 || c.toNat == 0x85 || c.toNat == 0xA0 ||
    c.toNat == 0x1680 || (0x2000 ≤ c.toNat && c.toNat ≤ 0x200A) || c.toNat == 0x2028 ||
    c.toNat == 0x2029 || c.toNat == 0x202F || c.toNat == 0x205F || c.toNat == 0x3000

def atcTrimmed (string : String) : String :=
  String.ofList (trimmed isWhitespaceOrNewline string.toList)

theorem atcTrimmed_eq_self_iff (string : String) :
    atcTrimmed string = string ↔ CleanEnds isWhitespaceOrNewline string.toList := by
  rw [← trimmed_eq_self_iff, atcTrimmed, ← String.toList_inj, String.toList_ofList]

section Levenshtein

variable {Character : Type u} [DecidableEq Character]

/-- The body of the inner loop: it sets `cur[j + 1]`. -/
def levenshteinCell (tLett : Character) (last cur : List Nat) (cell : Character × Nat) :
    Option (List Nat) := do
  let (sLett, j) := cell
  let value ←
    if tLett = sLett then last[j]?
    else do
      let diagonal ← last[j]?
      let above ← last[j + 1]?
      let left ← cur[j]?
      some (min (min diagonal above) left + 1)
  if j + 1 < cur.length then some (cur.set (j + 1) value) else none

/-- The body of the outer loop: the next `last`. -/
def levenshteinRow (secondString : List Character) (last : List Nat) (row : Character × Nat) :
    Option (List Nat) :=
  let empty := List.replicate secondString.length 0
  secondString.zipIdx.foldlM (levenshteinCell row.1 last) ((row.2 + 1) :: empty)

/-- `last` after the outer loop. -/
def levenshteinLast (firstString secondString : List Character) : Option (List Nat) :=
  firstString.zipIdx.foldlM (levenshteinRow secondString) (List.range (secondString.length + 1))

/-- A `Double` that is computed with one division. -/
inductive Score where
  | number (value : Rat)
  | divisionByZero
  deriving DecidableEq, Repr

section Score

variable (lowercased trimmingCharacters : List Character → List Character)

/-- `firstString` and `secondString` before the loops. -/
def normalised (ignoreCase trimWhiteSpacesAndNewLines : Bool) (string : List Character) :
    List Character :=
  let folded := if ignoreCase then lowercased string else string
  if trimWhiteSpacesAndNewLines then trimmingCharacters folded else folded

/-- `string.levenshteinDistanceScore(to: other, …)`. -/
def levenshteinDistanceScore (string other : List Character)
    (ignoreCase trimWhiteSpacesAndNewLines : Bool) : Option Score :=
  let firstString :=
    normalised lowercased trimmingCharacters ignoreCase trimWhiteSpacesAndNewLines string
  let secondString :=
    normalised lowercased trimmingCharacters ignoreCase trimWhiteSpacesAndNewLines other
  (levenshteinLast firstString secondString).map fun last =>
    let lowestScore := max firstString.length secondString.length
    match last.getLast? with
    | some validDistance =>
      if lowestScore = 0 then .divisionByZero
      else .number (1 - (validDistance : Rat) / (lowestScore : Rat))
    | none => .number 0

end Score

end Levenshtein

end FinanciaApp.Source
