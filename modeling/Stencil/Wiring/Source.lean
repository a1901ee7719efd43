import Stencil.Wiring.Config
import Stencil.Yaml.Tree

/-!
# Reading token sources

A source is a kind and the fields of that kind, either by name in a mapping or in order in a list. A
mapping may hold other fields, which are ignored, but no field twice. A key that is a number stands
for the field at that position.
-/

set_option autoImplicit false

namespace Stencil

open Yaml

namespace Value

mutual

/-- The value of a tree without tags. Keys have to be texts and the last value of a key stays; a
double that is not finite is null. -/
def ofTree? : Tree → Option Value
  | .null => some null
  | .bool value => some (bool value)
  | .number (.integer value) => some (integer value)
  | .number (.double value) => some (ofDouble value)
  | .string value => some (string value)
  | .sequence items => (ofItems? items).map array
  | .mapping pairs => (ofPairs? [] pairs).map object
  | .tagged .. => none

def ofItems? : List Tree → Option (List Value)
  | [] => some []
  | item :: rest => do
    let item ← ofTree? item
    let rest ← ofItems? rest
    pure (item :: rest)

def ofPairs? (members : Entries Value) : List (Tree × Tree) → Option (Entries Value)
  | [] => some members
  | (.string key, value) :: rest => do
    let value ← ofTree? value
    ofPairs? (members.insert key value) rest
  | _ :: _ => none

end

mutual

def toTree : Value → Tree
  | null => .null
  | bool value => .bool value
  | number value => .number value
  | string value => .string value
  | array items => .sequence (toItems items)
  | object members => .mapping (toPairs members)

def toItems : List Value → List Tree
  | [] => []
  | item :: rest => item.toTree :: toItems rest

def toPairs : List (String × Value) → List (Tree × Tree)
  | [] => []
  | (key, value) :: rest => (.string key, value.toTree) :: toPairs rest

end

end Value

inductive SourceFields where
  | byName (pairs : List (Tree × Tree))
  | inOrder (items : List Tree)

namespace SourceFields

/-- The position of the field that a key names, none when it names no field. Keys that are neither
texts nor positions are refused. -/
def position? (names : List String) : Tree → Option (Option Nat)
  | .string name => some (names.idxOf? name)
  | .number (.integer index) =>
    if index < 0 then none
    else if index < names.length then some (some index.toNat)
    else some none
  | _ => none

/-- Gathers the fields of a mapping by position; none may occur twice. -/
def gather? (names : List String) (found : List (Nat × Tree)) :
    List (Tree × Tree) → Option (List (Nat × Tree))
  | [] => some found
  | (key, value) :: rest =>
    match position? names key with
    | none => none
    | some none => gather? names found rest
    | some (some index) =>
      if (found.lookup index).isSome then none
      else gather? names ((index, value) :: found) rest

/-- The fields of the given names, each of which may be missing. In a list no item may be left
over. -/
def read? (fields : SourceFields) (names : List String) : Option (List (Option Tree)) :=
  match fields with
  | byName pairs =>
    (gather? names [] pairs).map fun found =>
      (List.range names.length).map fun index => found.lookup index
  | inOrder items =>
    if names.length < items.length then none
    else some ((List.range names.length).map fun index => items[index]?)

end SourceFields

namespace TokenSource

def textOf? : Tree → Option String
  | .string text => some text
  | _ => none

def optionalTextOf? : Tree → Option (Option String)
  | .null => some none
  | .string text => some (some text)
  | _ => none

def parameterKinds : List ParameterKind := [.string, .integer, .float, .bool]

/-- A kind of parameter: its name, or a mapping with its name or position as the only key and
nothing as its value. -/
def parameterOf? : Tree → Option ParameterKind
  | .string name => ParameterKind.ofName? name
  | .mapping [(key, value)] =>
    let isEmpty :=
      match value with
      | .null => true
      | .mapping [] => true
      | _ => false
    if isEmpty then
      match key with
      | .string name => ParameterKind.ofName? name
      | .number (.integer index) =>
        if index < 0 then none else parameterKinds[index.toNat]?
      | _ => none
    else none
  | _ => none

def parametersOf? : Tree → Option (List ParameterKind)
  | .sequence items => items.mapM parameterOf?
  | _ => none

def orElse {α : Type} (missing : α) (read? : Tree → Option α) : Option Tree → Option α
  | none => some missing
  | some tree => read? tree

def ofFields? (kind : String) (fields : SourceFields) : Option TokenSource :=
  match kind with
  | "static" => do
    match ← fields.read? ["value"] with
    | [some value] => (Value.ofTree? value).map fixed
    | _ => none
  | "setting" => do
    match ← fields.read? ["key"] with
    | [some key] => (textOf? key).map setting
    | _ => none
  | "env" => do
    match ← fields.read? ["var", "default"] with
    | [some name, default?] =>
      let name ← textOf? name
      let default? ← orElse none optionalTextOf? default?
      pure (environment name default?)
    | _ => none
  | "context" => do
    match ← fields.read? ["key"] with
    | [some key] => (textOf? key).map context
    | _ => none
  | "property" => do
    match ← fields.read? ["type", "member"] with
    | [some type, some member] =>
      let type ← textOf? type
      let member ← textOf? member
      pure (property type member)
    | _ => none
  | "method" => do
    match ← fields.read? ["type", "member", "params"] with
    | [some type, some member, parameters?] =>
      let type ← textOf? type
      let member ← textOf? member
      let parameters ← orElse [] parametersOf? parameters?
      pure (method type member parameters)
    | _ => none
  | _ => none

end TokenSource

end Stencil
