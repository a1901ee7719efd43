import Stencil.Text.Dotted
import Stencil.Text.Pair

/-!
# Quoted arguments

Arguments stand between back-ticks. Inside one, `\'` stands for a back-tick; every other character,
a lone backslash included, stands for itself.
-/

set_option autoImplicit false

namespace Stencil.Template

def unescape (body : List Char) : String :=
  String.ofList (Text.replacePair '\\' '\'' '`' body)

/-- Every second stretch from the second one on, as long as another one follows it. -/
def quotedStretches : List (List Char) → List (List Char)
  | _ :: body :: next :: rest => body :: quotedStretches (next :: rest)
  | _ => []

/-- The arguments of a text: what stands between its first and second back-tick, its third and
fourth, and so on. -/
def arguments (text : String) : List String :=
  (quotedStretches (Text.splitAt '`' text.toList)).map unescape

end Stencil.Template
