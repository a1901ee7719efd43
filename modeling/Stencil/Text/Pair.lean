/-!
# Replacing pairs of characters

Both escapes of the program are a pair of characters that stands for one: `\'` for a back-tick in
an argument and `__` for a dot in a variable name. Pairs are replaced from the left and do not
overlap, so `___` holds one pair, the first.
-/

set_option autoImplicit false

namespace Stencil.Text

/-- Replaces each leftmost non-overlapping pair `first second` by `replacement`. -/
def replacePair (first second replacement : Char) : List Char → List Char
  | left :: right :: rest =>
    if left = first ∧ right = second then
      replacement :: replacePair first second replacement rest
    else
      left :: replacePair first second replacement (right :: rest)
  | [single] => [single]
  | [] => []

end Stencil.Text
