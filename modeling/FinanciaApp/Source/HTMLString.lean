import FinanciaApp.Library.Replacing

/-!
# The HTML of a message

`htmlToAttributedString` of `Core/UIExtensions/String.swift:47-74` up to the HTML that it
gives to the importer, and `toHexString` of `Core/UIExtensions/UIColor.swift:102-113` from
its integer on. Strings are lists of Unicode scalars.
-/

set_option autoImplicit false

namespace FinanciaApp.Source

open Library

namespace HTMLString

/-- `replacingOccurrences(of:with:)`. -/
def replacingOccurrences (target replacement : String) (string : List Char) : List Char :=
  replaceAll target.toList replacement.toList string

def fontTag : String := "<font color='#007AFF'>"

def fontEnd : String := "</font>"

def stringTag1 : String := "InstamobileHtmlStringTag1"

def stringTag2 : String := "InstamobileHtmlStringTag2"

/-- `modifiedFont` before it is put into the span. -/
def modifiedFont (string : List Char) : List Char :=
  let modifiedFont := replacingOccurrences fontTag stringTag1 string
  let modifiedFont := replacingOccurrences fontEnd stringTag2 modifiedFont
  let modifiedFont := replacingOccurrences "<" "&lt;" modifiedFont
  let modifiedFont := replacingOccurrences stringTag1 fontTag modifiedFont
  replacingOccurrences stringTag2 fontEnd modifiedFont

/-- `%06x` of the color. -/
def toHexString (rgb : Nat) : List Char :=
  let digits := Nat.toDigits 16 rgb
  '#' :: (List.replicate (6 - digits.length) '0' ++ digits)

def spanBegin (rgb : Nat) : List Char :=
  "<span style=\"color:".toList ++ toHexString rgb ++
    ";font-family: '-apple-system', 'SFUI-Regular'; font-size: 15\">".toList

def spanEnd : List Char := "</span>".toList

/-- The two replacements after the span. -/
def modifiedSpaces (string : List Char) : List Char :=
  replacingOccurrences "  " "&nbsp;&nbsp;" (replacingOccurrences "\n" "<br>" string)

/-- The HTML for a text color; an empty string has none. -/
def htmlToAttributedString (textColor : Nat) (string : List Char) : Option (List Char) :=
  if string.isEmpty then none
  else some (modifiedSpaces (spanBegin textColor ++ modifiedFont string ++ spanEnd))

/-- What the replacements make of the input. -/
def htmlBody (string : List Char) : List Char := modifiedSpaces (modifiedFont string)

end HTMLString

end FinanciaApp.Source
