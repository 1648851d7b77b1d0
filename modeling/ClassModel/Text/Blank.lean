import ClassModel.Text.Ranges

/-!
# `Text.Blank` — white space

The characters that trimming drops and that make a line blank: those with the Unicode property
White_Space, and the four information separators U+001C to U+001F.
-/

set_option autoImplicit false

namespace ClassModel
namespace Text

/-- The ranges of white space. -/
def blankRanges : Ranges := [
  (0x0009, 0x000D), (0x001C, 0x0020), (0x0085, 0x0085), (0x00A0, 0x00A0), (0x1680, 0x1680),
   (0x2000, 0x200A), (0x2028, 0x2029), (0x202F, 0x202F), (0x205F, 0x205F), (0x3000, 0x3000)]

/-- Is the character white space? -/
def isBlank (c : Char) : Bool := blankRanges.has c.toNat

/-- The text without the blanks at its start. -/
def dropBlanks (cs : List Char) : List Char := cs.dropWhile isBlank

/-- The text without the blanks at its end. -/
def trimEnd (cs : List Char) : List Char := (dropBlanks cs.reverse).reverse

/-- The text without the blanks at both ends. -/
def trim (cs : List Char) : List Char := trimEnd (dropBlanks cs)

/-- Has the line nothing but blanks? -/
def isBlankLine (cs : List Char) : Bool := cs.all isBlank

end Text
end ClassModel
