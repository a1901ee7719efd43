import Stencil.Template.Token

/-!
# Scanning templates

A template is cut from left to right into pieces: each token that starts where the last piece ended,
and every other character by itself. Writing the pieces again gives the template back. Tokens do not
nest, and text inside an argument is never scanned on its own.
-/

set_option autoImplicit false

namespace Stencil.Template

inductive Piece where
  | plain (character : Char)
  | token (written : List Char) (token : Token)
deriving DecidableEq, Repr

def Piece.written : Piece → List Char
  | plain character => [character]
  | token written _ => written

set_option linter.unusedVariables false in
def pieces (text : List Char) : List Piece :=
  match read : readToken? text with
  | some (token, rest) => .token (text.take (text.length - rest.length)) token :: pieces rest
  | none =>
    match text with
    | [] => []
    | character :: rest => .plain character :: pieces rest
termination_by text.length
decreasing_by
  · exact length_lt_of_readToken? read
  · exact Nat.lt_succ_self _

/-- A token where it stands in a template; offsets count UTF-8 bytes. -/
structure Occurrence where
  matched : String
  start : Nat
  stop : Nat
  token : Token
deriving DecidableEq, Repr

def byteLength : List Char → Nat
  | [] => 0
  | character :: rest => character.utf8Size + byteLength rest

/-- The tokens among pieces, the first of which starts at `offset`. -/
def occurrences (offset : Nat) : List Piece → List Occurrence
  | [] => []
  | .plain character :: rest => occurrences (offset + character.utf8Size) rest
  | .token written token :: rest =>
    ⟨String.ofList written, offset, offset + byteLength written, token⟩ ::
      occurrences (offset + byteLength written) rest

def scan (template : String) : List Occurrence :=
  occurrences 0 (pieces template.toList)

def holdsToken : List Char → Bool
  | [] => false
  | character :: rest => (readToken? (character :: rest)).isSome || holdsToken rest

/-- Whether a template holds a token. The search ends at the first one. -/
def containsTokens (template : String) : Bool :=
  holdsToken template.toList

end Stencil.Template
