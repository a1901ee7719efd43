import Stencil.Number.Integer
import Stencil.Yaml.Cursor

/-!
# Scalars as they are written

Plain, quoted and block scalars. In all of them a single line break between two lines of text stands
for a space and further breaks stand for themselves, except in literal blocks, where every break is
kept. No reading here gives a reason for a refusal, since none is ever reported.
-/

set_option autoImplicit false

namespace Stencil.Yaml

inductive ScalarStyle where
  | plain
  | singleQuoted
  | doubleQuoted
  | literal
  | folded
deriving DecidableEq, Repr

structure Gap where
  spaces : String
  broken : Bool
  first : String
  others : String

namespace Gap

def none : Gap := ⟨"", false, "", ""⟩

def text (gap : Gap) : String :=
  if gap.broken then
    if gap.first = "\n" then if gap.others.isEmpty then " " else gap.others
    else gap.first ++ gap.others
  else
    gap.spaces

/-- Reads a gap onto what was read of it before. After a break, a tab in a column below `margin`
is refused. -/
def read? (fuel margin : Nat) (gap : Gap) (cursor : Cursor) : Option (Gap × Cursor) :=
  match fuel, cursor.head? with
  | fuel + 1, some character =>
    if isSpaceOrTab character then
      if gap.broken && cursor.column < margin && character = '\t' then Option.none
      else if gap.broken then read? fuel margin gap (cursor.skip 1)
      else
        read? fuel margin { gap with spaces := gap.spaces.push character } (cursor.skip 1)
    else if isBreak character then
      let (text, next) := cursor.takeBreak
      if gap.broken then read? fuel margin { gap with others := gap.others ++ text } next
      else read? fuel margin ⟨"", true, text, gap.others⟩ next
    else some (gap, cursor)
  | _, _ => some (gap, cursor)

end Gap

/-! ### Plain scalars -/

def isFlowIndicator (character : Char) : Bool :=
  character = ',' || character = '[' || character = ']' || character = '\x7b' || character = '\x7d'

/-- Reads the part of a plain scalar up to a separator, a break or an indicator. A colon in a flow
collection must not touch a flow indicator or a question mark. -/
def plainRun? (inFlow : Bool) : List Char → Option (List Char)
  | [] => some []
  | character :: rest =>
    if isSpaceOrTab character || isBreak character then some []
    else if inFlow && character = ':' &&
        rest.head?.any (fun next => isFlowIndicator next || next = '?') then none
    else if (character = ':' && startsBlank rest) || (inFlow && isFlowIndicator character) then
      some []
    else (plainRun? inFlow rest).map (character :: ·)

/-- A scalar that was read: its text, where it ends, and whether its last gap held a break, so that
a new line has begun. -/
structure PlainScalar where
  text : String
  newLine : Bool
  cursor : Cursor

/-- Reads a plain scalar on. In block context the lines after the first are indented up to `margin`
at least. -/
def readPlain? (fuel : Nat) (inFlow : Bool) (margin : Nat) (text : String) (gap : Gap)
    (cursor : Cursor) : Option PlainScalar :=
  match fuel with
  | 0 => none
  | fuel + 1 =>
    let finished := some ⟨text, gap.broken, cursor⟩
    if cursor.atDocumentMarker || cursor.head? = some '#' then finished
    else
      match plainRun? inFlow cursor.rest with
      | none => none
      | some run =>
        let (text, gap) :=
          if run.isEmpty then (text, gap) else (text ++ gap.text ++ String.ofList run, Gap.none)
        let cursor := cursor.skip run.length
        if cursor.sees fun character => isSpaceOrTab character || isBreak character then
          match Gap.read? (cursor.rest.length + 1) margin Gap.none cursor with
          | none => none
          | some (gap, cursor) =>
            if !inFlow && cursor.column < margin then some ⟨text, gap.broken, cursor⟩
            else readPlain? fuel inFlow margin text gap cursor
        else some ⟨text, gap.broken, cursor⟩

/-! ### Quoted scalars -/

def escapedCharacter? : Char → Option Char
  | '0' => some '\x00'
  | 'a' => some '\x07'
  | 'b' => some '\x08'
  | 't' => some '\t'
  | '\t' => some '\t'
  | 'n' => some '\n'
  | 'v' => some '\x0b'
  | 'f' => some '\x0c'
  | 'r' => some '\r'
  | 'e' => some '\x1b'
  | ' ' => some ' '
  | '"' => some '"'
  | '/' => some '/'
  | '\\' => some '\\'
  | 'N' => some '\u0085'
  | '_' => some '\u00a0'
  | 'L' => some '\u2028'
  | 'P' => some '\u2029'
  | _ => none

def escapeDigits? : Char → Option Nat
  | 'x' => some 2
  | 'u' => some 4
  | 'U' => some 8
  | _ => none

def codedCharacter? (digits : List Char) : Option Char := do
  let values ← digits.mapM (Number.digit? 16)
  let code := values.foldl (fun total value => total * 16 + value) 0
  if (0xD800 ≤ code && code ≤ 0xDFFF) || 0x10FFFF < code then none else some (Char.ofNat code)

structure QuotedRun where
  text : String
  /-- Whether the part ended with an escaped break. -/
  escapedBreak : Bool
  cursor : Cursor

def quotedRun? (fuel : Nat) (single : Bool) (text : String) (cursor : Cursor) :
    Option QuotedRun :=
  match fuel with
  | 0 => none
  | fuel + 1 =>
    match cursor.rest with
    | [] => some ⟨text, false, cursor⟩
    | character :: rest =>
      if isSpaceOrTab character || isBreak character then some ⟨text, false, cursor⟩
      else if single then
        if character = '\'' then
          if rest.head? = some '\'' then quotedRun? fuel single (text.push '\'') (cursor.skip 2)
          else some ⟨text, false, cursor⟩
        else quotedRun? fuel single (text.push character) (cursor.skip 1)
      else if character = '"' then some ⟨text, false, cursor⟩
      else if character = '\\' then
        match rest with
        | [] => none
        | mark :: digits =>
          if isBreak mark then some ⟨text, true, (cursor.skip 1).takeBreak.2⟩
          else
            match escapedCharacter? mark, escapeDigits? mark with
            | some escaped, _ => quotedRun? fuel single (text.push escaped) (cursor.skip 2)
            | none, some count =>
              if digits.length < count then none
              else
                match codedCharacter? (digits.take count) with
                | some coded =>
                  quotedRun? fuel single (text.push coded) (cursor.skip (2 + count))
                | none => none
            | none, none => none
      else quotedRun? fuel single (text.push character) (cursor.skip 1)

def readQuoted? (fuel : Nat) (single : Bool) (text : String) (cursor : Cursor) :
    Option (String × Cursor) :=
  match fuel with
  | 0 => none
  | fuel + 1 =>
    if cursor.atDocumentMarker || cursor.rest.isEmpty then none
    else
      match quotedRun? (cursor.rest.length + 1) single text cursor with
      | none => none
      | some run =>
        if run.cursor.head? = some (if single then '\'' else '"') then
          some (run.text, run.cursor.skip 1)
        else
          let opening : Gap := { Gap.none with broken := run.escapedBreak }
          match Gap.read? (run.cursor.rest.length + 1) 0 opening run.cursor with
          | none => none
          | some (gap, cursor) => readQuoted? fuel single (run.text ++ gap.text) cursor

/-! ### Block scalars -/

inductive Chomping where
  | strip
  | clip
  | keep
deriving DecidableEq, Repr

structure BlockMargin where
  /-- The greatest column reached by indentation. -/
  greatest : Nat
  breaks : String
  cursor : Cursor

/-- Passes over indentation up to a column, or of any width while the column is not known (zero),
and over empty lines. A tab in the indentation is refused. -/
def readMargin? (fuel indent greatest : Nat) (breaks : String) (cursor : Cursor) :
    Option BlockMargin :=
  match fuel with
  | 0 => none
  | fuel + 1 =>
    let spaces := (cursor.rest.takeWhile (· = ' ')).length
    let cursor := cursor.skip (if indent = 0 then spaces else min spaces (indent - cursor.column))
    let greatest := max greatest cursor.column
    if (indent = 0 || cursor.column < indent) && cursor.head? = some '\t' then none
    else if cursor.sees isBreak then
      let (text, next) := cursor.takeBreak
      readMargin? fuel indent greatest (breaks ++ text) next
    else some ⟨greatest, breaks, cursor⟩

structure BlockText where
  text : String
  lastBreak : String
  startedBlank : Bool

def readBlockLines? (fuel : Nat) (literal : Bool) (indent : Nat) (sofar : BlockText)
    (margin : BlockMargin) : Option (BlockText × BlockMargin) :=
  match fuel with
  | 0 => none
  | fuel + 1 =>
    let cursor := margin.cursor
    if cursor.column ≠ indent || cursor.rest.isEmpty then some (sofar, margin)
    else
      let startsBlank := cursor.sees isSpaceOrTab
      let joint :=
        if !literal && sofar.lastBreak = "\n" && !sofar.startedBlank && !startsBlank then
          if margin.breaks.isEmpty then " " else ""
        else sofar.lastBreak
      let line := cursor.rest.takeWhile (!isBreak ·)
      let (text, next) := (cursor.skip line.length).takeBreak
      let sofar : BlockText :=
        ⟨sofar.text ++ joint ++ margin.breaks ++ String.ofList line, text, startsBlank⟩
      match readMargin? (next.rest.length + 1) indent 0 "" next with
      | none => none
      | some margin => readBlockLines? fuel literal indent sofar margin

def chompingOf? : Char → Option Chomping
  | '+' => some .keep
  | '-' => some .strip
  | _ => none

/-- Reads the header of a block scalar: a chomping sign and an indentation digit, each at most once
and in either order. -/
def readBlockHeader? (cursor : Cursor) : Option (Chomping × Nat × Cursor) :=
  let sign? (cursor : Cursor) : Option Chomping := cursor.head?.bind chompingOf?
  let digit? (cursor : Cursor) : Option Nat := cursor.head?.bind (Number.digit? 10)
  match sign? cursor with
  | some chomping =>
    match digit? (cursor.skip 1) with
    | some 0 => none
    | some increment => some (chomping, increment, cursor.skip 2)
    | none => some (chomping, 0, cursor.skip 1)
  | none =>
    match digit? cursor with
    | some 0 => none
    | some increment =>
      match sign? (cursor.skip 1) with
      | some chomping => some (chomping, increment, cursor.skip 2)
      | none => some (.clip, increment, cursor.skip 1)
    | none => some (.clip, 0, cursor)

/-- Reads a block scalar after its indicator. `parent` is the column of the collection around it,
or below zero. -/
def readBlock? (literal : Bool) (parent : Int) (cursor : Cursor) : Option (String × Cursor) := do
  let (chomping, increment, cursor) ← readBlockHeader? cursor
  let cursor := cursor.skipToLineEnd
  if !cursor.atLineEnd then none
  let cursor := cursor.takeBreak.2
  let fixed := if increment = 0 then 0 else (max parent 0).toNat + increment
  let margin ← readMargin? (cursor.rest.length + 1) fixed 0 "" cursor
  let indent := if fixed = 0 then max (max margin.greatest (parent + 1).toNat) 1 else fixed
  let (sofar, margin) ←
    readBlockLines? (margin.cursor.rest.length + 1) literal indent ⟨"", "", false⟩ margin
  let lastBreak := if chomping = .strip then "" else sofar.lastBreak
  let trailing := if chomping = .keep then margin.breaks else ""
  pure (sofar.text ++ lastBreak ++ trailing, margin.cursor)

end Stencil.Yaml
