import Stencil.Yaml.Cursor
import Stencil.Number.Integer

/-!
# Tags, anchors and directives as they are written

A tag is a handle and a rest; the handle is replaced by what a directive declares for it when the
node is read. A tag in angle brackets has no handle.
-/

set_option autoImplicit false

namespace Stencil.Yaml

structure WrittenTag where
  handle : String
  rest : String
deriving DecidableEq, Repr

def isTagPunctuation (character : Char) : Bool :=
  ";/?:@&=+$.%!~*'()".toList.contains character

/-- Characters that only a tag in angle brackets or a directive may hold besides. -/
def isBracketedPunctuation (character : Char) : Bool :=
  ",[]".toList.contains character

/-- The number of bytes that a first byte announces; zero when it can be no first byte. -/
def announcedWidth (byte : Nat) : Nat :=
  if byte < 0x80 then 1
  else if byte < 0xC0 then 0
  else if byte < 0xE0 then 2
  else if byte < 0xF0 then 3
  else if byte < 0xF8 then 4
  else 0

def readEscapedByte? : List Char → Option (Nat × List Char)
  | '%' :: high :: low :: rest => do
    let high ← Number.digit? 16 high
    let low ← Number.digit? 16 low
    pure (high * 16 + low, rest)
  | _ => none

def readFollowingBytes? : Nat → List Char → Option (List Nat × List Char)
  | 0, rest => some ([], rest)
  | count + 1, text => do
    let (byte, rest) ← readEscapedByte? text
    if byte / 64 ≠ 2 then none
    let (bytes, rest) ← readFollowingBytes? count rest
    pure (byte :: bytes, rest)

def readEscapedCharacter? (text : List Char) : Option (Char × List Char) := do
  let (first, rest) ← readEscapedByte? text
  let width := announcedWidth first
  if width = 0 then none
  let (others, rest) ← readFollowingBytes? (width - 1) rest
  let bytes := ByteArray.mk ((first :: others).map UInt8.ofNat).toArray
  let character ← bytes.utf8DecodeChar? 0
  pure (character, rest)

def readTagText? (fuel : Nat) (bracketed : Bool) (sofar : String) (passed : Nat)
    (text : List Char) : Option (String × Nat) :=
  match fuel, text with
  | fuel + 1, character :: rest =>
    if character = '%' then do
      let (escaped, following) ← readEscapedCharacter? text
      readTagText? fuel bracketed (sofar.push escaped) (passed + (text.length - following.length))
        following
    else if isWordPart character || isTagPunctuation character ||
        (bracketed && isBracketedPunctuation character) then
      readTagText? fuel bracketed (sofar.push character) (passed + 1) rest
    else some (sofar, passed)
  | _, _ => some (sofar, passed)

/-- The text of a tag from the cursor on. With nothing before it in the tag it may not be empty. -/
def readTagRest? (bracketed mayBeEmpty : Bool) (cursor : Cursor) : Option (String × Cursor) := do
  let (text, passed) ←
    readTagText? (cursor.rest.length + 1) bracketed "" 0 cursor.rest
  if passed = 0 && !mayBeEmpty then none else pure (text, cursor.skip passed)

def readHandle (cursor : Cursor) : String × Cursor :=
  let word := (cursor.rest.drop 1).takeWhile isWordPart
  let next := cursor.skip (1 + word.length)
  let handle := "!" ++ String.ofList word
  if next.head? = some '!' then (handle.push '!', next.skip 1) else (handle, next)

/-- Whether a handle has a mark at both ends, so that it is one that a directive can declare. -/
def isDeclarable (handle : String) : Bool :=
  1 < handle.length && handle.toList.getLast? = some '!'

/-- Reads a tag. A separator, a break or, in a flow collection, a comma must follow it. -/
def readTag? (inFlow : Bool) (cursor : Cursor) : Option (WrittenTag × Cursor) := do
  let (tag, cursor) ←
    if (cursor.rest.drop 1).head? = some '<' then do
      let (text, cursor) ← readTagRest? true false (cursor.skip 2)
      if cursor.head? ≠ some '>' then none
      pure (WrittenTag.mk "" text, cursor.skip 1)
    else
      let (handle, next) := readHandle cursor
      if isDeclarable handle then do
        let (text, cursor) ← readTagRest? false false next
        pure (WrittenTag.mk handle text, cursor)
      else do
        let (text, cursor) ← readTagRest? false true next
        let rest := String.ofList (handle.toList.drop 1) ++ text
        pure (if rest.isEmpty then WrittenTag.mk "" "!" else WrittenTag.mk "!" rest, cursor)
  if startsBlank cursor.rest || (inFlow && cursor.head? = some ',') then pure (tag, cursor)
  else none

def readAnchorName? (cursor : Cursor) : Option (String × Cursor) :=
  let name := cursor.rest.takeWhile isWordPart
  let next := cursor.skip name.length
  let closes := next.sees fun character => "?:,]\x7d%@`".toList.contains character
  if name.isEmpty || !(startsBlank next.rest || closes) then none
  else some (String.ofList name, next)

inductive Directive where
  | version (major minor : Nat)
  | tag (handle replacement : String)
deriving DecidableEq, Repr

def readVersionNumber? (cursor : Cursor) : Option (Nat × Cursor) :=
  let digits := cursor.rest.takeWhile Char.isDigit
  if digits.isEmpty || 9 < digits.length then none
  else
    some (digits.foldl (fun total digit => total * 10 + (digit.toNat - '0'.toNat)) 0,
      cursor.skip digits.length)

def readDirective? (cursor : Cursor) : Option (Directive × Cursor) := do
  let cursor := cursor.skip 1
  let name := cursor.rest.takeWhile isWordPart
  let cursor := cursor.skip name.length
  if name.isEmpty || !startsBlank cursor.rest then none
  let cursor := cursor.skipWhile isSpaceOrTab
  let (directive, cursor) ←
    if String.ofList name = "YAML" then do
      let (major, cursor) ← readVersionNumber? cursor
      if cursor.head? ≠ some '.' then none
      let (minor, cursor) ← readVersionNumber? (cursor.skip 1)
      pure (Directive.version major minor, cursor)
    else if String.ofList name = "TAG" then do
      if cursor.head? ≠ some '!' then none
      let (handle, cursor) := readHandle cursor
      if handle ≠ "!" && !isDeclarable handle then none
      if !cursor.sees isSpaceOrTab then none
      let (replacement, cursor) ← readTagRest? true false (cursor.skipWhile isSpaceOrTab)
      if !startsBlank cursor.rest then none
      pure (Directive.tag handle replacement, cursor)
    else none
  let cursor := cursor.skipToLineEnd
  if !cursor.atLineEnd then none
  pure (directive, cursor.takeBreak.2)

end Stencil.Yaml
