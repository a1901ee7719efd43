import Stencil.Text.Blank
import Stencil.Template.Argument

/-!
# Tokens

A token is written `${ identifier }` or `${ identifier ( arguments ) }`, with blanks allowed after
the brace, around the parentheses and around the commas between arguments. This file reads one token
at the head of a text. No choice is ever left open: an identifier ends at the first character that
cannot belong to one, and an argument at the next back-tick.
-/

set_option autoImplicit false

namespace Stencil.Template

structure Token where
  identifier : String
  arguments : Option (List String)
deriving DecidableEq, Repr

namespace Token

/-- The first segment of the identifier, which selects the strategy. It is empty when the identifier
starts with a dot. -/
def key (token : Token) : String :=
  (Text.segments token.identifier).headD ""

def path (token : Token) : List String :=
  (Text.segments token.identifier).drop 1

def isCall (token : Token) : Bool :=
  token.arguments.isSome

theorem segments_identifier (token : Token) :
    Text.segments token.identifier = token.key :: token.path := by
  rw [key, path]
  cases split : Text.segments token.identifier with
  | nil => exact absurd split (Text.segments_ne_nil _)
  | cons first rest => rfl

theorem isPlain_key (token : Token) : Text.IsPlain token.key := by
  apply Text.isPlain_of_mem_segments
  rw [segments_identifier]
  exact List.mem_cons_self

end Token

def isIdentifierStart (character : Char) : Bool :=
  character.isAlpha || character = '_' || character = '.'

def isIdentifierPart (character : Char) : Bool :=
  character.isAlphanum || character = '_' || character = '.'

def identifierLimit : Nat := 1024

def skipBlanks (text : List Char) : List Char :=
  text.dropWhile Text.isBlank

/-- Reads an identifier as long as its characters reach. A longer one than the limit is none at
all, since no token could go on with the character after the limit. -/
def readIdentifier? : List Char → Option (List Char × List Char)
  | [] => none
  | first :: rest =>
    if isIdentifierStart first ∧ (rest.takeWhile isIdentifierPart).length < identifierLimit then
      some (first :: rest.takeWhile isIdentifierPart, rest.dropWhile isIdentifierPart)
    else
      none

def readQuoted? : List Char → Option (List Char × List Char)
  | '`' :: rest =>
    match rest.dropWhile (· ≠ '`') with
    | [] => none
    | _ :: following => some (rest.takeWhile (· ≠ '`'), following)
  | _ => none

private theorem length_dropWhile_le (test : Char → Bool) (text : List Char) :
    (text.dropWhile test).length ≤ text.length :=
  (List.dropWhile_sublist test).length_le

private theorem length_lt_of_readQuoted? {text body rest : List Char}
    (read : readQuoted? text = some (body, rest)) : rest.length < text.length := by
  unfold readQuoted? at read
  split at read
  case h_1 tail =>
    split at read
    · simp at read
    case h_2 head following equal =>
      have shorter := length_dropWhile_le (· ≠ '`') tail
      simp only [Option.some.injEq, Prod.mk.injEq] at read
      rw [equal] at shorter
      rw [← read.2]
      simp only [List.length_cons] at shorter ⊢
      omega
  · simp at read

set_option linter.unusedVariables false in
def readArguments? (text : List Char) : Option (List (List Char) × List Char) :=
  match read : readQuoted? text with
  | none => none
  | some (body, rest) =>
    match continues : skipBlanks rest with
    | ',' :: following =>
      (readArguments? (skipBlanks following)).map fun more => (body :: more.1, more.2)
    | _ => some ([body], rest)
termination_by text.length
decreasing_by
  have first := length_lt_of_readQuoted? read
  have second := length_dropWhile_le Text.isBlank rest
  have third := length_dropWhile_le Text.isBlank following
  simp only [skipBlanks] at continues ⊢
  rw [continues] at second
  simp only [List.length_cons] at second
  omega

/-- Reads what may follow an identifier: nothing, or the arguments of a call in parentheses. -/
def readCall? (text : List Char) : Option (Option (List (List Char)) × List Char) :=
  match text with
  | '(' :: rest =>
    match skipBlanks rest with
    | ')' :: following => some (some [], following)
    | inner => do
      let (bodies, rest) ← readArguments? inner
      match skipBlanks rest with
      | ')' :: following => some (some bodies, following)
      | _ => none
  | _ => some (none, text)

def readToken? (text : List Char) : Option (Token × List Char) :=
  match text with
  | '$' :: '\x7b' :: rest => do
    let (identifier, rest) ← readIdentifier? (skipBlanks rest)
    let (bodies?, rest) ← readCall? (skipBlanks rest)
    match skipBlanks rest with
    | '\x7d' :: following =>
      some (⟨String.ofList identifier, bodies?.map (List.map unescape)⟩, following)
    | _ => none
  | _ => none

private theorem length_lt_of_readIdentifier? {text identifier rest : List Char}
    (read : readIdentifier? text = some (identifier, rest)) : rest.length < text.length := by
  unfold readIdentifier? at read
  split at read
  · simp at read
  case h_2 first tail =>
    split at read
    · have shorter := length_dropWhile_le isIdentifierPart tail
      simp only [Option.some.injEq, Prod.mk.injEq] at read
      rw [← read.2]
      simp only [List.length_cons]
      omega
    · simp at read

private theorem length_lt_of_readArguments? {text rest : List Char} {bodies : List (List Char)}
    (read : readArguments? text = some (bodies, rest)) : rest.length < text.length := by
  fun_induction readArguments? text generalizing bodies rest with
  | case1 => simp at read
  | case2 text body first readFirst following continues ih =>
    simp only [Option.map_eq_some_iff, Prod.exists, Prod.mk.injEq] at read
    obtain ⟨others, last, readOthers, -, rfl⟩ := read
    have inner := ih readOthers
    have opening := length_lt_of_readQuoted? readFirst
    have skipped := length_dropWhile_le Text.isBlank first
    have skippedAgain := length_dropWhile_le Text.isBlank following
    simp only [skipBlanks] at continues inner
    rw [continues] at skipped
    simp only [List.length_cons] at skipped
    omega
  | case3 text body first readFirst =>
    simp only [Option.some.injEq, Prod.mk.injEq] at read
    have opening := length_lt_of_readQuoted? readFirst
    rw [← read.2]
    exact opening

private theorem length_skipBlanks_le (text : List Char) : (skipBlanks text).length ≤ text.length :=
  length_dropWhile_le Text.isBlank text

private theorem length_le_of_readCall? {text rest : List Char} {bodies? : Option (List (List Char))}
    (read : readCall? text = some (bodies?, rest)) : rest.length ≤ text.length := by
  unfold readCall? at read
  split at read
  case h_1 tail =>
    have skipped := length_skipBlanks_le tail
    split at read
    case h_1 following equal =>
      simp only [Option.some.injEq, Prod.mk.injEq] at read
      rw [equal] at skipped
      rw [← read.2]
      simp only [List.length_cons] at skipped ⊢
      omega
    case h_2 =>
      simp only [Option.bind_eq_bind, Option.bind_eq_some_iff, Prod.exists] at read
      obtain ⟨bodies, after, readInner, closed⟩ := read
      have inner := length_lt_of_readArguments? readInner
      have skippedAgain := length_skipBlanks_le after
      split at closed
      case h_1 following equal =>
        simp only [Option.some.injEq, Prod.mk.injEq] at closed
        rw [equal] at skippedAgain
        rw [← closed.2]
        simp only [List.length_cons] at skippedAgain ⊢
        omega
      · simp at closed
  case h_2 =>
    simp only [Option.some.injEq, Prod.mk.injEq] at read
    exact Nat.le_of_eq (congrArg List.length read.2.symm)

theorem length_lt_of_readToken? {text rest : List Char} {token : Token}
    (read : readToken? text = some (token, rest)) : rest.length < text.length := by
  unfold readToken? at read
  split at read
  case h_1 tail =>
    simp only [Option.bind_eq_bind, Option.bind_eq_some_iff, Prod.exists] at read
    obtain ⟨identifier, afterIdentifier, readName, bodies?, afterCall, readArguments, closed⟩ :=
      read
    have skipped := length_skipBlanks_le tail
    have name := length_lt_of_readIdentifier? readName
    have skippedAgain := length_skipBlanks_le afterIdentifier
    have call := length_le_of_readCall? readArguments
    have skippedLast := length_skipBlanks_le afterCall
    split at closed
    case h_1 following equal =>
      simp only [Option.some.injEq, Prod.mk.injEq] at closed
      rw [equal] at skippedLast
      rw [← closed.2]
      simp only [List.length_cons] at skippedLast ⊢
      omega
    · simp at closed
  · simp at read

end Stencil.Template
