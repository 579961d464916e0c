import FinanciaApp.Library.Replacing
import FinanciaApp.Source.StringExtensions

/-!
# The text of a message with its tags

`fetchAttributedText` of `Core/UIExtensions/String.swift:129-205`, over strings as lists of
Characters. The description of a color is modelled by whether it contains
`0 0.478431 1 1`, and a Character is trimmed or not as a whole. The code that writes a
finished run is there twice, for a run at the end of the text and for one before another
Character; `none` is a trap.
-/

set_option autoImplicit false

namespace FinanciaApp.Source

open Library

/-- What the code needs of Characters: those of its literals, lowercasing and trimming. -/
structure Alphabet (Character : Type) where
  ofScalar : Char → Character
  lowercased : List Character → List Character
  isWhitespaceOrNewline : Character → Bool

/-- The color of every UTF-16 code unit of the text; a Character has one unit at least. -/
structure NSAttributedString (Character : Type) where
  string : List Character
  isBlue : List Bool
  hasUnits : string.length ≤ isBlue.length

/-- A Character of the result, and whether it belongs to a font tag that was inserted. -/
structure Written (Character : Type) where
  character : Character
  inserted : Bool
  deriving DecidableEq, Repr

namespace NSAttributedString

variable {Character : Type} [DecidableEq Character] (alphabet : Alphabet Character)

/-- A text is written as it is. -/
def plain (text : List Character) : List (Written Character) := text.map (⟨·, false⟩)

def markup (tag : String) : List (Written Character) :=
  tag.toList.map fun scalar => ⟨alphabet.ofScalar scalar, true⟩

/-- `<font color='#007AFF'>\(filterTagUser)</font>` -/
def tagged (filterTagUser : List Character) : List (Written Character) :=
  markup alphabet "<font color='#007AFF'>" ++ plain filterTagUser ++ markup alphabet "</font>"

/-- The first of the tags whose score is `1.0`. -/
def filterTagUser (allTagUsers : List (List Character)) (text : List Character) :
    Option (Option (List Character)) :=
  (allTagUsers.filterM fun str =>
    (levenshteinDistanceScore alphabet.lowercased (trimmed alphabet.isWhitespaceOrNewline)
      text str false true).map fun score => decide (score = .number 1)).map List.head?

/-- The finished run is written to `allSubstrings`. -/
def appendRun (allTagUsers : List (List Character)) (allSubstrings : List (Written Character))
    (isPreviousAttributedString : List Character) : Option (List (Written Character)) :=
  if isPreviousAttributedString.isEmpty then
    some allSubstrings
  else do
    match ← filterTagUser alphabet allTagUsers isPreviousAttributedString with
    | some tag =>
      let filterInPrevious := replaceAll tag [] isPreviousAttributedString
      some (allSubstrings ++ tagged alphabet tag ++ plain filterInPrevious)
    | none =>
      let last := (allSubstrings.getLast?.map Written.character).getD (alphabet.ofScalar '@')
      let checkIsPrevious := last :: isPreviousAttributedString
      match ← filterTagUser alphabet allTagUsers checkIsPrevious with
      | some tag =>
        let filterInPrevious := replaceAll tag [] checkIsPrevious
        -- `removeLast` of an empty string traps
        if allSubstrings.isEmpty then none
        else some (allSubstrings.dropLast ++ tagged alphabet tag ++ plain filterInPrevious)
      | none => some (allSubstrings ++ plain isPreviousAttributedString)

/-- The two variables of the loop. -/
structure Fetched (Character : Type) where
  allSubstrings : List (Written Character)
  isPreviousAttributedString : List Character

/-- The body of the loop, for the Character `str` at `index`. -/
def fetchStep (attributed : NSAttributedString Character) (allTagUsers : List (List Character))
    (s : Fetched Character) (entry : Character × Nat) : Option (Fetched Character) := do
  let (str, index) := entry
  let isBlue ← attributed.isBlue[index]?
  if isBlue then
    let isPreviousAttributedString := s.isPreviousAttributedString ++ [str]
    if index = attributed.string.length - 1 then
      let allSubstrings ←
        appendRun alphabet allTagUsers s.allSubstrings isPreviousAttributedString
      some ⟨allSubstrings, []⟩
    else
      some ⟨s.allSubstrings, isPreviousAttributedString⟩
  else
    let allSubstrings ←
      appendRun alphabet allTagUsers s.allSubstrings s.isPreviousAttributedString
    some ⟨allSubstrings ++ plain [str], []⟩

def fetchAttributedText (attributed : NSAttributedString Character)
    (allTagUsers : List (List Character)) : Option (List (Written Character)) :=
  (attributed.string.zipIdx.foldlM (fetchStep alphabet attributed allTagUsers) ⟨[], []⟩).map
    Fetched.allSubstrings

end NSAttributedString

end FinanciaApp.Source
