/-!
# Positions in a document

The characters that a YAML document may hold, the classes that its tokens are made of, and a cursor
that keeps the line and column of the next character. The end of the document counts as a break.
-/

set_option autoImplicit false

namespace Stencil.Yaml

def isAllowed (character : Char) : Bool :=
  let code := character.toNat
  code = 0x09 || code = 0x0A || code = 0x0D || (0x20 ≤ code && code ≤ 0x7E) || code = 0x85 ||
    (0xA0 ≤ code && code ≤ 0xD7FF) || (0xE000 ≤ code && code ≤ 0xFFFD) || 0x10000 ≤ code

def isBreak (character : Char) : Bool :=
  character = '\n' || character = '\r' || character = '\u0085' || character = '\u2028' ||
    character = '\u2029'

def isSpaceOrTab (character : Char) : Bool :=
  character = ' ' || character = '\t'

def isWordPart (character : Char) : Bool :=
  character.isAlphanum || character = '_' || character = '-'

def byteOrderMark : Char := '\uFEFF'

def startsBlank : List Char → Bool
  | [] => true
  | character :: _ => isSpaceOrTab character || isBreak character

structure Cursor where
  rest : List Char
  index : Nat
  line : Nat
  column : Nat

namespace Cursor

def start (text : List Char) : Cursor := ⟨text, 0, 0, 0⟩

def head? (cursor : Cursor) : Option Char := cursor.rest.head?

/-- Whether the next character satisfies a test; the end satisfies none. -/
def sees (cursor : Cursor) (test : Char → Bool) : Bool :=
  cursor.rest.head?.any test

def atLineEnd (cursor : Cursor) : Bool :=
  cursor.rest.head?.all isBreak

def skip (cursor : Cursor) (count : Nat) : Cursor :=
  let passed := min count cursor.rest.length
  ⟨cursor.rest.drop count, cursor.index + passed, cursor.line, cursor.column + passed⟩

def skipWhile (cursor : Cursor) (test : Char → Bool) : Cursor :=
  cursor.skip (cursor.rest.takeWhile test).length

/-- Passes over a break and gives the text it stands for: a line feed for all but the two Unicode
separators, which stand for themselves. -/
def takeBreak (cursor : Cursor) : String × Cursor :=
  match cursor.rest with
  | '\r' :: '\n' :: rest => ("\n", ⟨rest, cursor.index + 2, cursor.line + 1, 0⟩)
  | character :: rest =>
    if character = '\u2028' ∨ character = '\u2029' then
      (String.singleton character, ⟨rest, cursor.index + 1, cursor.line + 1, 0⟩)
    else if isBreak character then
      ("\n", ⟨rest, cursor.index + 1, cursor.line + 1, 0⟩)
    else ("", cursor)
  | [] => ("", cursor)

def skipToLineEnd (cursor : Cursor) : Cursor :=
  let cursor := cursor.skipWhile isSpaceOrTab
  if cursor.head? = some '#' then cursor.skipWhile (!isBreak ·) else cursor

/-- Whether a line starts here with one of the two document markers and nothing right after it. -/
def atMarker (cursor : Cursor) (mark : Char) : Bool :=
  cursor.column = 0 && cursor.rest.take 3 = [mark, mark, mark] && startsBlank (cursor.rest.drop 3)

def atDocumentMarker (cursor : Cursor) : Bool :=
  cursor.atMarker '-' || cursor.atMarker '.'

end Cursor

end Stencil.Yaml
