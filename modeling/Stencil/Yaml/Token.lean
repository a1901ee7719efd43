import Stencil.Yaml.Scalar
import Stencil.Yaml.Tag

/-!
# Tokens of a document

A document is cut into tokens that make its structure explicit: where block collections start and
end, and which nodes are keys. A key without an indicator is known to be one only at the colon after
it, so a possible key is remembered and its tokens are put in front of it afterwards. Such a key
lies on one line and is at most 1024 characters long.
-/

set_option autoImplicit false

namespace Stencil.Yaml

inductive Token where
  | directive (directive : Directive)
  | documentStart
  | documentEnd
  | blockSequenceStart
  | blockMappingStart
  | blockEnd
  | flowSequenceStart
  | flowSequenceEnd
  | flowMappingStart
  | flowMappingEnd
  | blockEntry
  | flowEntry
  | key
  | value
  | aliased (name : String)
  | anchor (name : String)
  | tag (tag : WrittenTag)
  | scalar (style : ScalarStyle) (text : String)
deriving DecidableEq, Repr

structure PossibleKey where
  /-- Whether nothing but a key can stand there. -/
  required : Bool
  place : Nat
  line : Nat
  index : Nat
  column : Nat

structure Scanner where
  cursor : Cursor
  tokens : Array Token
  /-- The column of the innermost block collection, below zero outside of all. -/
  indent : Int
  outer : List Int
  keyAllowed : Bool
  /-- The possible key of each open flow collection, the innermost first, and last that of the
  block context. -/
  keys : List (Option PossibleKey)

namespace Scanner

def start (text : List Char) : Scanner :=
  ⟨Cursor.start text, #[], -1, [], true, [none]⟩

def inFlow (scanner : Scanner) : Bool :=
  1 < scanner.keys.length

def emit (scanner : Scanner) (token : Token) (cursor : Cursor) : Scanner :=
  { scanner with tokens := scanner.tokens.push token, cursor }

/-- Passes over separators, comments and breaks. A byte order mark may stand at the start of a line.
A tab counts as a separator only where no key may start, and in block context a key may start after
a break. -/
def skipBetween (fuel : Nat) (scanner : Scanner) : Scanner :=
  match fuel with
  | 0 => scanner
  | fuel + 1 =>
    let cursor := scanner.cursor
    let cursor :=
      if cursor.column = 0 ∧ cursor.head? = some byteOrderMark then cursor.skip 1 else cursor
    let tabs := scanner.inFlow || !scanner.keyAllowed
    let cursor := cursor.skipWhile fun character => character = ' ' || (tabs && character = '\t')
    let cursor := if cursor.head? = some '#' then cursor.skipWhile (!isBreak ·) else cursor
    if cursor.sees isBreak then
      skipBetween fuel
        { scanner with
          cursor := cursor.takeBreak.2, keyAllowed := scanner.keyAllowed || !scanner.inFlow }
    else { scanner with cursor }

def PossibleKey.isStale (key : PossibleKey) (cursor : Cursor) : Bool :=
  key.line < cursor.line || key.index + 1024 < cursor.index

/-- Gives up the keys that can no longer be any; a required one may not be given up. -/
def dropStale? (scanner : Scanner) : Option Scanner := do
  let keys ← scanner.keys.mapM fun key? =>
    match key? with
    | none => some none
    | some key =>
      if PossibleKey.isStale key scanner.cursor then
        if key.required then none else some none
      else some (some key)
  pure { scanner with keys }

def dropKey? (scanner : Scanner) : Option Scanner :=
  match scanner.keys with
  | some key :: rest => if key.required then none else some { scanner with keys := none :: rest }
  | _ => some scanner

def noteKey? (scanner : Scanner) : Option Scanner :=
  if scanner.keyAllowed then do
    let scanner ← scanner.dropKey?
    let cursor := scanner.cursor
    let key : PossibleKey :=
      { required := !scanner.inFlow && scanner.indent = cursor.column,
        place := scanner.tokens.size,
        line := cursor.line, index := cursor.index, column := cursor.column }
    pure { scanner with keys := some key :: scanner.keys.drop 1 }
  else some scanner

/-- Opens a block collection at a column beyond the innermost one, its token going to a place. -/
def openBlock (scanner : Scanner) (column : Nat) (place : Nat) (token : Token) : Scanner :=
  if !scanner.inFlow && scanner.indent < column then
    { scanner with
      indent := column
      outer := scanner.indent :: scanner.outer
      tokens := scanner.tokens.insertIdxIfInBounds place token }
  else scanner

def closeBlocks (scanner : Scanner) (column : Int) : Scanner :=
  if scanner.inFlow then scanner
  else
    let columns := scanner.indent :: scanner.outer
    let closed := columns.takeWhile (column < ·)
    let left := columns.drop closed.length
    { scanner with
      tokens := scanner.tokens ++ (closed.map fun _ => Token.blockEnd).toArray
      indent := left.headD (-1)
      outer := left.drop 1 }

/-- Starts a line of its own outside all block collections. -/
def leaveBlocks? (scanner : Scanner) : Option Scanner := do
  let scanner ← (scanner.closeBlocks (-1)).dropKey?
  pure { scanner with keyAllowed := false }

def openFlow? (scanner : Scanner) (token : Token) : Option Scanner := do
  let scanner ← scanner.noteKey?
  let scanner := { scanner with keys := none :: scanner.keys, keyAllowed := true }
  pure (scanner.emit token (scanner.cursor.skip 1))

def closeFlow? (scanner : Scanner) (token : Token) : Option Scanner := do
  let scanner ← scanner.dropKey?
  let keys := if scanner.inFlow then scanner.keys.drop 1 else scanner.keys
  let scanner := { scanner with keys, keyAllowed := false }
  pure (scanner.emit token (scanner.cursor.skip 1))

def flowEntry? (scanner : Scanner) : Option Scanner := do
  let scanner ← scanner.dropKey?
  pure ({ scanner with keyAllowed := true }.emit .flowEntry (scanner.cursor.skip 1))

def openForIndicator? (scanner : Scanner) (token : Token) : Option Scanner :=
  if scanner.inFlow then some scanner
  else if scanner.keyAllowed then
    some (scanner.openBlock scanner.cursor.column scanner.tokens.size token)
  else none

def blockEntry? (scanner : Scanner) : Option Scanner := do
  let scanner ← scanner.openForIndicator? .blockSequenceStart
  let scanner ← scanner.dropKey?
  pure ({ scanner with keyAllowed := true }.emit .blockEntry (scanner.cursor.skip 1))

def keyIndicator? (scanner : Scanner) : Option Scanner := do
  let scanner ← scanner.openForIndicator? .blockMappingStart
  let scanner ← scanner.dropKey?
  pure ({ scanner with keyAllowed := !scanner.inFlow }.emit .key (scanner.cursor.skip 1))

/-- The indicator of a value. A possible key before it becomes a key. -/
def valueIndicator? (scanner : Scanner) : Option Scanner :=
  match scanner.keys with
  | some key :: rest =>
    let scanner :=
      { scanner with
        tokens := scanner.tokens.insertIdxIfInBounds key.place .key, keys := none :: rest }
    let scanner := scanner.openBlock key.column key.place .blockMappingStart
    some ({ scanner with keyAllowed := false }.emit .value (scanner.cursor.skip 1))
  | _ => do
    let scanner ← scanner.openForIndicator? .blockMappingStart
    pure ({ scanner with keyAllowed := !scanner.inFlow }.emit .value (scanner.cursor.skip 1))

def anchor? (scanner : Scanner) (token : String → Token) : Option Scanner := do
  let scanner ← scanner.noteKey?
  let (name, cursor) ← readAnchorName? (scanner.cursor.skip 1)
  pure ({ scanner with keyAllowed := false }.emit (token name) cursor)

def tag? (scanner : Scanner) : Option Scanner := do
  let scanner ← scanner.noteKey?
  let (tag, cursor) ← readTag? scanner.inFlow scanner.cursor
  pure ({ scanner with keyAllowed := false }.emit (.tag tag) cursor)

def block? (scanner : Scanner) (literal : Bool) : Option Scanner := do
  let scanner ← scanner.dropKey?
  let (text, cursor) ← readBlock? literal scanner.indent (scanner.cursor.skip 1)
  let style := if literal then ScalarStyle.literal else ScalarStyle.folded
  pure ({ scanner with keyAllowed := true }.emit (.scalar style text) cursor)

def quoted? (scanner : Scanner) (single : Bool) : Option Scanner := do
  let scanner ← scanner.noteKey?
  let cursor := scanner.cursor.skip 1
  let (text, cursor) ← readQuoted? (cursor.rest.length + 1) single "" cursor
  let style := if single then ScalarStyle.singleQuoted else ScalarStyle.doubleQuoted
  pure ({ scanner with keyAllowed := false }.emit (.scalar style text) cursor)

def plain? (scanner : Scanner) : Option Scanner := do
  let scanner ← scanner.noteKey?
  let margin := (scanner.indent + 1).toNat
  let fuel := scanner.cursor.rest.length + 1
  let read ← readPlain? fuel scanner.inFlow margin "" Gap.none scanner.cursor
  pure ({ scanner with keyAllowed := read.newLine }.emit (.scalar .plain read.text) read.cursor)

def isIndicator (character : Char) : Bool :=
  "-?:,[]\x7b\x7d#&*!|>'\"%@`".toList.contains character

def startsPlain (scanner : Scanner) (character : Char) (following : List Char) : Bool :=
  !(isIndicator character || isSpaceOrTab character || isBreak character) ||
    (character = '-' && !following.head?.any isSpaceOrTab) ||
    (!scanner.inFlow && (character = '?' || character = ':') && !startsBlank following)

def readToken? (scanner : Scanner) : Option Scanner :=
  let cursor := scanner.cursor
  match cursor.rest with
  | [] => some scanner
  | character :: following =>
    let isFlowOrBlank := scanner.inFlow || startsBlank following
    if cursor.column = 0 && character = '%' then do
      let scanner ← scanner.leaveBlocks?
      let (directive, cursor) ← readDirective? cursor
      pure (scanner.emit (.directive directive) cursor)
    else if cursor.atMarker '-' then do
      pure ((← scanner.leaveBlocks?).emit .documentStart (cursor.skip 3))
    else if cursor.atMarker '.' then do
      pure ((← scanner.leaveBlocks?).emit .documentEnd (cursor.skip 3))
    else
      match character with
      | '[' => scanner.openFlow? .flowSequenceStart
      | '\x7b' => scanner.openFlow? .flowMappingStart
      | ']' => scanner.closeFlow? .flowSequenceEnd
      | '\x7d' => scanner.closeFlow? .flowMappingEnd
      | ',' => scanner.flowEntry?
      | '*' => scanner.anchor? .aliased
      | '&' => scanner.anchor? .anchor
      | '!' => scanner.tag?
      | '\'' => scanner.quoted? true
      | '"' => scanner.quoted? false
      | other =>
        if other = '-' && startsBlank following then scanner.blockEntry?
        else if other = '?' && isFlowOrBlank then scanner.keyIndicator?
        else if other = ':' && isFlowOrBlank then scanner.valueIndicator?
        else if other = '|' && !scanner.inFlow then scanner.block? true
        else if other = '>' && !scanner.inFlow then scanner.block? false
        else if scanner.startsPlain other following then scanner.plain?
        else none

def run? (fuel : Nat) (scanner : Scanner) : Option Scanner :=
  match fuel with
  | 0 => none
  | fuel + 1 => do
    let scanner := scanner.skipBetween (scanner.cursor.rest.length + 1)
    let scanner ← scanner.dropStale?
    let scanner := scanner.closeBlocks scanner.cursor.column
    if scanner.cursor.rest.isEmpty then scanner.leaveBlocks?
    else run? fuel (← scanner.readToken?)

end Scanner

/-- The tokens of a text, when it can be cut into tokens at all. A byte order mark at its start is
no part of it. -/
def Token.ofText? (text : String) : Option (List Token) :=
  let characters := text.toList
  let characters :=
    if characters.head? = some byteOrderMark then characters.drop 1 else characters
  if characters.all isAllowed then
    ((Scanner.start characters).run? (characters.length + 2)).map (·.tokens.toList)
  else none

end Stencil.Yaml
