/-!
# ASCII letter case

Folding replaces the ASCII capitals by their small letters and nothing else: two texts fold to the
same text exactly when they differ in the case of ASCII letters only.
-/

set_option autoImplicit false

namespace Stencil.Text

/-- The text with every ASCII capital replaced by its small letter. -/
def fold (text : String) : String :=
  String.ofList (text.toList.map Char.toLower)

end Stencil.Text
