/-!
# Blank characters

The Unicode property `White_Space`, and trimming by it. Templates, argument conversion and the
test for an empty template all use this one class; it is wider than `Char.isWhitespace`.
-/

set_option autoImplicit false

namespace Stencil.Text

/-- The code point ranges of `White_Space`, both ends included, in ascending order. -/
def blankRanges : List (Nat × Nat) :=
  [(0x09, 0x0D), (0x20, 0x20), (0x85, 0x85), (0xA0, 0xA0), (0x1680, 0x1680),
   (0x2000, 0x200A), (0x2028, 0x2029), (0x202F, 0x202F), (0x205F, 0x205F), (0x3000, 0x3000)]

def isBlank (character : Char) : Bool :=
  blankRanges.any fun range => range.1 ≤ character.toNat && character.toNat ≤ range.2

def trimChars (text : List Char) : List Char :=
  ((text.dropWhile isBlank).reverse.dropWhile isBlank).reverse

def trim (text : String) : String :=
  String.ofList (trimChars text.toList)

/-- A text is blank when every character of it is; the empty text is blank. -/
def isBlankText (text : String) : Bool :=
  text.toList.all isBlank

end Stencil.Text
