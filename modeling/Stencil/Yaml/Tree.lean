import Stencil.Number.Decimal
import Stencil.Value.Basic
import Stencil.Yaml.Node

/-!
# Trees of a document

What the nodes of a document stand for. A plain scalar is null, a truth value, a number or a text by
the core schema of YAML 1.2; the standard tags choose one of these, and any other tag stays with its
value. Aliases are replaced by what they stand for, within limits on depth and on repetition.
-/

set_option autoImplicit false

namespace Stencil.Yaml

open Number

inductive Tree where
  | null
  | bool (value : Bool)
  | number (value : Numeral)
  | string (value : String)
  | sequence (items : List Tree)
  | mapping (pairs : List (Tree × Tree))
  | tagged (tag : String) (value : Tree)
deriving Repr

/-! ### Scalars -/

def isNullText (text : String) : Bool :=
  ["null", "Null", "NULL", "~"].contains text

def boolOfText? (text : String) : Option Bool :=
  if ["true", "True", "TRUE"].contains text then some true
  else if ["false", "False", "FALSE"].contains text then some false
  else none

/-- Several digits with a zero in front are a text, with or without a sign. -/
def hasLeadingZero (text : List Char) : Bool :=
  let digits :=
    match text with
    | '-' :: rest => rest
    | '+' :: rest => rest
    | other => other
  1 < digits.length && digits.head? = some '0' && digits.all Char.isDigit

def basedDigits? : List Char → Option (Nat × List Char)
  | '0' :: 'x' :: rest => some (16, rest)
  | '0' :: 'o' :: rest => some (8, rest)
  | '0' :: 'b' :: rest => some (2, rest)
  | _ => none

def magnitude? (base : Nat) (digits : List Char) : Option Nat :=
  if digits.isEmpty then none
  else do
    let values ← digits.mapM (digit? base)
    pure (values.foldl (fun total value => total * base + value) 0)

/-- The integer that a plain scalar spells: an optional sign, an optional mark of a base, digits. -/
def integerOfText? (text : List Char) : Option Int :=
  let unsigned? (digits : List Char) : Option Nat :=
    match basedDigits? digits with
    | some (base, digits) => magnitude? base digits
    | none => if hasLeadingZero digits then none else magnitude? 10 digits
  match text with
  | '-' :: digits => (unsigned? digits).map fun magnitude => -(magnitude : Int)
  | '+' :: digits => (unsigned? digits).map fun magnitude => (magnitude : Int)
  | digits => (unsigned? digits).map fun magnitude => (magnitude : Int)

/-- The double that a plain scalar spells: a decimal with a finite value, or an infinity or
not-a-number with a dot in front. -/
def doubleOfText? (text : String) : Option Double :=
  let characters := text.toList
  let signed := characters.head? = some '+'
  let unsigned := if signed then characters.drop 1 else characters
  if signed && (unsigned.head? = some '+' || unsigned.head? = some '-') then none
  else if [".inf", ".Inf", ".INF"].contains (String.ofList unsigned) then
    some (Double.infinity false)
  else if ["-.inf", "-.Inf", "-.INF"].contains text then some (Double.infinity true)
  else if [".nan", ".NaN", ".NAN"].contains text then some Double.notANumber
  else
    match Decimal.read (String.ofList unsigned) with
    | .ok value => if value.isFinite then some value else none
    | .error _ => none

def isSmallInteger (value : Int) : Bool :=
  IntegerRange.holds (.signed 64) value || IntegerRange.holds (.unsigned 64) value

def isLargeInteger (value : Int) : Bool :=
  IntegerRange.holds (.signed 128) value || IntegerRange.holds (.unsigned 128) value

/-- What a plain scalar without a tag stands for. Integers that need more than 64 bits are refused,
and those that need more than 128 are read as doubles. -/
def Tree.ofPlain? (text : String) : Option Tree :=
  if text.isEmpty || isNullText text then some .null
  else
    match boolOfText? text with
    | some value => some (.bool value)
    | none =>
      match (integerOfText? text.toList).filter isLargeInteger with
      | some value => if isSmallInteger value then some (.number (.integer value)) else none
      | none =>
        if hasLeadingZero text.toList then some (.string text)
        else
          match doubleOfText? text with
          | some value => some (.number (.double value))
          | none => some (.string text)

def standardTag (name : String) : String := "tag:yaml.org,2002:" ++ name

/-- What a scalar stands for when its tag is not kept with it. Four standard tags ask for a value of
their kind; other standard tags make a text of it, and so do quotes and blocks. -/
def Tree.ofScalar? (tag : Option String) (style : ScalarStyle) (text : String) : Option Tree :=
  let plain? := if style = .plain then Tree.ofPlain? text else some (.string text)
  match tag with
  | none => plain?
  | some tag =>
    if tag = standardTag "bool" then (boolOfText? text).map .bool
    else if tag = standardTag "int" then
      match (integerOfText? text.toList).filter isLargeInteger with
      | some value => if isSmallInteger value then some (.number (.integer value)) else none
      | none => none
    else if tag = standardTag "float" then
      (doubleOfText? text).map fun value => .number (.double value)
    else if tag = standardTag "null" then if isNullText text then some .null else none
    else if tag.startsWith "!" then plain?
    else some (.string text)

/-- The tag that stays with a value: one that starts with an exclamation mark, which is left out
unless it is the whole tag. -/
def keptTag? (tag : Option String) : Option String :=
  match tag with
  | none => none
  | some tag =>
    match tag.toList with
    | ['!'] => some "!"
    | '!' :: rest => some (String.ofList rest)
    | _ => none

/-! ### Nodes -/

def depthLimit : Nat := 128

/-- How many aliases may be followed in a document. -/
def Document.aliasLimit (document : Document) : Nat := 100 * document.events

/-- The node that a node stands for, anchors and aliases aside, and the number of aliases followed
by then. -/
def Document.follow? (document : Document) (followed : Nat) (node : Node) : Option (Node × Nat) :=
  match node with
  | .anchored _ node => some (node, followed)
  | .aliased number =>
    if followed < document.aliasLimit then
      (document.root.bind (Node.anchoredLast? number)).map fun node => (node, followed + 1)
    else none
  | other => some (other, followed)

def readEach? {α β : Type} (read? : Nat → α → Option (β × Nat)) :
    Nat → List α → Option (List β × Nat)
  | followed, [] => some ([], followed)
  | followed, item :: rest => do
    let (first, followed) ← read? followed item
    let (others, followed) ← readEach? read? followed rest
    pure (first :: others, followed)

def Document.tree? (document : Document) (depth followed : Nat) (node : Node) :
    Option (Tree × Nat) := do
  let (node, followed) ← document.follow? followed node
  match node with
  | .scalar tag style text =>
    let tree ← Tree.ofScalar? tag style text
    pure (keep tag tree, followed)
  | .sequence tag items =>
    match depth with
    | 0 => none
    | depth + 1 =>
      let (items, followed) ← readEach? (document.tree? depth) followed items
      pure (keep tag (.sequence items), followed)
  | .mapping tag pairs =>
    match depth with
    | 0 => none
    | depth + 1 =>
      let readPair? (followed : Nat) (pair : Node × Node) : Option ((Tree × Tree) × Nat) := do
        let (key, followed) ← document.tree? depth followed pair.1
        let (value, followed) ← document.tree? depth followed pair.2
        pure ((key, value), followed)
      let (pairs, followed) ← readEach? readPair? followed pairs
      pure (keep tag (.mapping pairs), followed)
  | _ => none
where
  keep (tag : Option String) (tree : Tree) : Tree :=
    match keptTag? tag with
    | some tag => .tagged tag tree
    | none => tree

/-! ### Keys -/

/-- Numbers are the same when they are equal integers or equal doubles. Zeros of either sign are
equal, and so are all that are not a number. -/
def sameNumber : Numeral → Numeral → Bool
  | .integer left, .integer right => left = right
  | .double left, .double right =>
    (left.isNaN && right.isNaN) ||
      (!left.isNaN && !right.isNaN &&
        (left = right || (left.magnitudeBits = 0 && right.magnitudeBits = 0)))
  | _, _ => false

mutual

/-- Whether two trees are the same as keys. The order of the pairs of a mapping does not matter. -/
def Tree.same : Tree → Tree → Bool
  | .null, .null => true
  | .bool left, .bool right => left = right
  | .number left, .number right => sameNumber left right
  | .string left, .string right => left = right
  | .sequence left, .sequence right => Tree.sameItems left right
  | .mapping left, .mapping right => left.length = right.length && Tree.samePairs left right
  | .tagged leftTag left, .tagged rightTag right => leftTag = rightTag && left.same right
  | _, _ => false

def Tree.sameItems : List Tree → List Tree → Bool
  | [], [] => true
  | left :: lefts, right :: rights => left.same right && Tree.sameItems lefts rights
  | _, _ => false

def Tree.samePairs : List (Tree × Tree) → List (Tree × Tree) → Bool
  | [], _ => true
  | (key, value) :: rest, others =>
    others.any (fun other => key.same other.1 && value.same other.2) &&
      Tree.samePairs rest others

end

def distinctKeys (earlier : List Tree) : List Tree → Bool
  | [] => true
  | key :: rest => !earlier.any key.same && distinctKeys (key :: earlier) rest

mutual

def Tree.hasDistinctKeys : Tree → Bool
  | .sequence items => Tree.haveDistinctKeys items
  | .mapping pairs => distinctKeys [] (pairs.map Prod.fst) && Tree.pairsHaveDistinctKeys pairs
  | .tagged _ value => value.hasDistinctKeys
  | _ => true

def Tree.haveDistinctKeys : List Tree → Bool
  | [] => true
  | item :: rest => item.hasDistinctKeys && Tree.haveDistinctKeys rest

def Tree.pairsHaveDistinctKeys : List (Tree × Tree) → Bool
  | [] => true
  | (key, value) :: rest =>
    key.hasDistinctKeys && value.hasDistinctKeys && Tree.pairsHaveDistinctKeys rest

end

/-- The tree of a text, when the text is a document in whose mappings no key occurs twice. An empty
text is null. -/
def Tree.ofText? (text : String) : Option Tree := do
  let document ← Document.ofText? text
  match document.root with
  | none => pure .null
  | some root =>
    let (tree, _) ← document.tree? depthLimit 0 root
    if tree.hasDistinctKeys then pure tree else none

end Stencil.Yaml
