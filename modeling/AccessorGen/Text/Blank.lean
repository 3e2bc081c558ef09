import AccessorGen.Text.Ranges

/-!
# Blank characters

The `White_Space` property. A type or a supertype that holds nothing else counts as missing, and
blanks around a type do not take part in comparing it.
-/

set_option autoImplicit false

namespace AccessorGen.Text

/-- The code points with the property `White_Space`. -/
def blankRanges : Ranges := [
  (0x9, 0xD), (0x20, 0x20), (0x85, 0x85), (0xA0, 0xA0), (0x1680, 0x1680), (0x2000, 0x200A),
  (0x2028, 0x2029), (0x202F, 0x202F), (0x205F, 0x205F), (0x3000, 0x3000)]

def isBlank (c : Char) : Bool := blankRanges.has c

/-- Whether nothing in the text is visible; so of the empty text too. -/
def isBlankText (s : String) : Bool := s.toList.all isBlank

def trim (s : String) : String :=
  String.ofList ((s.toList.dropWhile isBlank).reverse.dropWhile isBlank).reverse

end AccessorGen.Text
