import Stencil.Environment
import Stencil.Text.Alphanumeric
import Stencil.Text.Blank
import Stencil.Text.Dotted

/-!
# Environment files

A file of `NAME=value` lines that adds variables to the environment. Variables that are set already
stay. Values may be quoted, over several lines if need be, and may refer to variables. The first
faulty line ends the file; what stood before it counts.
-/

set_option autoImplicit false

namespace Stencil.EnvironmentFile

/-- Where an environment file may be, by the names on the way to a directory, the innermost first:
in the directory or in any around it. -/
def candidatesAbove : List String → List String
  | [] => ["/.env"]
  | name :: around =>
    ("/" ++ "/".intercalate (name :: around).reverse ++ "/.env") :: candidatesAbove around

def candidates (directory : String) : List String :=
  let names := (Text.splitAt '/' directory.toList).map String.ofList
  candidatesAbove (names.filter (!·.isEmpty)).reverse

inductive Opening where
  | nothing
  | escape
  | singleQuote
  | singleQuoteEscape
  | doubleQuote
  | doubleQuoteEscape
  | blank
deriving DecidableEq

def Opening.next (opening : Opening) (character : Char) : Option Opening :=
  let unquoted : Opening :=
    match character with
    | '\\' => escape
    | '"' => doubleQuote
    | '\'' => singleQuote
    | _ => nothing
  match opening with
  | blank => if character = '#' then none else some unquoted
  | escape => some nothing
  | nothing =>
    if Text.isBlank character && character ≠ '\n' && character ≠ '\r' then some blank
    else some unquoted
  | doubleQuote =>
    some (if character = '\\' then doubleQuoteEscape
      else if character = '"' then nothing else doubleQuote)
  | doubleQuoteEscape => some doubleQuote
  | singleQuote =>
    some (if character = '\\' then singleQuoteEscape
      else if character = '\'' then nothing else singleQuote)
  | singleQuoteEscape => some singleQuote

/-- What is open after a line, and the characters before a comment when there is one. -/
def closeLine (opening : Opening) (passed : List Char) :
    List Char → Opening × Option (List Char)
  | [] => (opening, none)
  | character :: rest =>
    match opening.next character with
    | none => (opening, some passed.reverse)
    | some next => closeLine next (character :: passed) rest

def physicalLines (bytes : List UInt8) : List (List UInt8) :=
  match bytes with
  | [] => []
  | byte :: rest =>
    match physicalLines rest with
    | [] => [[byte]]
    | first :: others => if byte = 10 then [byte] :: first :: others else (byte :: first) :: others

def withoutLineEnd (line : List Char) : List Char :=
  match line.reverse with
  | '\n' :: '\r' :: rest => rest.reverse
  | '\n' :: rest => rest.reverse
  | _ => line

/-- Joins lines while a quote, an escape or a blank is open, and stops at the first fault. A line
that starts with a comment is empty, and an ended file leaves nothing open. -/
def logicalLines (opening : Opening) (sofar : List Char) :
    List (List UInt8) → List (Except Unit (List Char))
  | [] => if opening = .nothing then [] else [.error ()]
  | bytes :: rest =>
    match String.fromUTF8? (ByteArray.mk bytes.toArray) with
    | none => [.error ()]
    | some text =>
      let line := sofar ++ text.toList
      if (line.dropWhile Text.isBlank).head? = some '#' then
        .ok [] :: logicalLines .nothing [] rest
      else
        match closeLine opening [] text.toList with
        | (_, some before) => .ok (sofar ++ before) :: logicalLines .nothing [] rest
        | (.nothing, none) => .ok (withoutLineEnd line) :: logicalLines .nothing [] rest
        | (opening, none) => logicalLines opening line rest

abbrev Known := List (String × String)

/-- What a reference to a name stands for: its variable, else its value in the file, else
nothing. -/
def lookUp (environment : Environment) (known : Known) (name : List Char) : String :=
  let name := String.ofList name
  (environment.text? name).getD ((known.lookup name).getD "")

inductive ValueMode where
  | bare
  | escaped (quoted : Bool)
  | single
  | double
  | reference (quoted : Bool) (name : List Char)
  | bracedReference (quoted : Bool) (name : List Char)
  | ended

def ValueMode.around (quoted : Bool) : ValueMode := if quoted then double else bare

def readValue? (environment : Environment) (known : Known) (mode : ValueMode) (output : String) :
    List Char → Option String
  | [] =>
    match mode with
    | .single => none
    | .double => none
    | .bracedReference .. => none
    | .reference quoted name =>
      if quoted then none else some (output ++ lookUp environment known name.reverse)
    | .escaped quoted => if quoted then none else some output
    | _ => some output
  | character :: rest =>
    let continue? := fun mode output => readValue? environment known mode output rest
    match mode with
    | .ended =>
      if character = ' ' || character = '\t' then continue? .ended output
      else if character = '#' then some output
      else none
    | .escaped quoted =>
      if "\\'\"$ ".toList.contains character then
        continue? (.around quoted) (output.push character)
      else if character = 'n' then continue? (.around quoted) (output.push '\n')
      else none
    | .single =>
      if character = '\'' then continue? .bare output else continue? .single (output.push character)
    | .reference quoted name =>
      if Text.isAlphanumeric character then
        continue? (.reference quoted (character :: name)) output
      else if character = '\x7b' && name.isEmpty then continue? (.bracedReference quoted []) output
      else
        let output := output ++ lookUp environment known name.reverse
        if character = '$' then continue? (.reference quoted []) output
        else continue? (.around quoted) (output.push character)
    | .bracedReference quoted name =>
      if character = '\x7d' then
        continue? (.around quoted) (output ++ lookUp environment known name.reverse)
      else continue? (.bracedReference quoted (character :: name)) output
    | .double =>
      if character = '$' then continue? (.reference true []) output
      else if character = '"' then continue? .bare output
      else if character = '\\' then continue? (.escaped true) output
      else continue? .double (output.push character)
    | .bare =>
      if character = '$' then continue? (.reference false []) output
      else if character = '\'' then continue? .single output
      else if character = '"' then continue? .double output
      else if character = '\\' then continue? (.escaped false) output
      else if character = ' ' || character = '\t' then continue? .ended output
      else continue? .bare (output.push character)

def isNamePart (character : Char) : Bool :=
  character.isAlphanum || character = '_' || character = '.'

def readName? (line : List Char) : Option (String × List Char) :=
  if line.head?.any fun character => character.isAlpha || character = '_' then
    some (String.ofList (line.takeWhile isNamePart),
      (line.dropWhile isNamePart).dropWhile Text.isBlank)
  else none

def afterEquals? : List Char → Option (List Char)
  | '=' :: rest => some rest
  | _ => none

/-- Reads the name and the equals sign of a line. The word `export` may stand before them, and it
may be the name itself. -/
def readHead? (line : List Char) : Option (String × List Char) := do
  let (name, rest) ← readName? line
  match name, afterEquals? rest with
  | _, some value => pure (name, value)
  | "export", none =>
    let (name, rest) ← readName? rest
    let value ← afterEquals? rest
    pure (name, value)
  | _, none => none

def readLine? (environment : Environment) (known : Known) (line : List Char) :
    Option (Option (String × String)) :=
  let line := Text.trimChars line
  if line.isEmpty || line.head? = some '#' then some none
  else do
    let (name, rest) ← readHead? line
    let rest := rest.dropWhile Text.isBlank
    if rest.isEmpty || rest.head? = some '#' then pure (some (name, ""))
    else
      let value ← readValue? environment known .bare "" rest
      pure (some (name, value))

def applyLines (environment : Environment) (known : Known) :
    List (Except Unit (List Char)) → Environment
  | [] => environment
  | .error () :: _ => environment
  | .ok line :: rest =>
    match readLine? environment known line with
    | none => environment
    | some none => applyLines environment known rest
    | some (some (name, value)) =>
      let known := (name, value) :: known
      if (environment.text? name).isSome then applyLines environment known rest
      else applyLines (environment.set name value.toUTF8) known rest

/-- The environment with the variables of a file. A byte order mark at its start is passed over. -/
def apply (environment : Environment) (contents : ByteArray) : Environment :=
  let bytes :=
    match contents.toList with
    | 0xEF :: 0xBB :: 0xBF :: rest => rest
    | bytes => bytes
  applyLines environment [] (logicalLines .nothing [] (physicalLines bytes))

end Stencil.EnvironmentFile
