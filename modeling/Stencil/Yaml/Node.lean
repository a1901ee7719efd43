import Stencil.Yaml.Token

/-!
# Nodes of a document

The nodes that a list of tokens describes: scalars, sequences, mappings and aliases, with their
tags. A text holds at most one document. Anchors are numbered by how many names were in use when
they occurred, and an alias has the number that its name had before it.
-/

set_option autoImplicit false

namespace Stencil.Yaml

inductive Node where
  | scalar (tag : Option String) (style : ScalarStyle) (text : String)
  | sequence (tag : Option String) (items : List Node)
  | mapping (tag : Option String) (pairs : List (Node × Node))
  | anchored (number : Nat) (node : Node)
  /-- Stands for the last node that has the anchor of a number. -/
  | aliased (number : Nat)
deriving Repr

namespace Node

instance : Inhabited Node := ⟨scalar none .plain ""⟩

def absent : Node := scalar none .plain ""

mutual

/-- The last node with an anchor of a number, inside a node and in its order. -/
def anchoredLast? (number : Nat) : Node → Option Node
  | scalar .. => none
  | aliased _ => none
  | sequence _ items => anchoredLastItem? number items
  | mapping _ pairs => anchoredLastPair? number pairs
  | anchored other node =>
    match anchoredLast? number node with
    | some found => some found
    | none => if other = number then some node else none

def anchoredLastItem? (number : Nat) : List Node → Option Node
  | [] => none
  | item :: rest =>
    match anchoredLastItem? number rest with
    | some found => some found
    | none => anchoredLast? number item

def anchoredLastPair? (number : Nat) : List (Node × Node) → Option Node
  | [] => none
  | (key, value) :: rest =>
    match anchoredLastPair? number rest with
    | some found => some found
    | none =>
      match anchoredLast? number value with
      | some found => some found
      | none => anchoredLast? number key

end

end Node

/-- A document: its root, unless the text is empty, and the number of its events, where a collection
counts for two. -/
structure Document where
  root : Option Node
  events : Nat

structure Composer where
  tokens : List Token
  handles : List (String × String)
  anchors : List (String × Nat)
  events : Nat

abbrev Composing (α : Type) := StateT Composer Option α

namespace Composer

def peek : Composing (Option Token) := do
  return (← get).tokens.head?

def advance : Composing Unit :=
  modify fun composer => { composer with tokens := composer.tokens.drop 1 }

def expect (token : Token) : Composing Unit := do
  if (← peek) = some token then advance else failure

def count (events : Nat) : Composing Unit :=
  modify fun composer => { composer with events := composer.events + events }

/-- Numbers an anchor. A name that is in use again has the new number from then on. -/
def number (name : String) : Composing Nat := do
  let composer ← get
  let number := composer.anchors.length
  let others := composer.anchors.filter fun anchor => anchor.1 ≠ name
  set { composer with anchors := (name, number) :: others }
  pure number

def resolveTag (tag : WrittenTag) : Composing String := do
  if tag.handle.isEmpty then pure tag.rest
  else
    match (← get).handles.lookup tag.handle with
    | some replacement => pure (replacement ++ tag.rest)
    | none => failure

structure Properties where
  anchor : Option String
  tag : Option String

def readProperties : Composing Properties := do
  match ← peek with
  | some (.anchor name) =>
    advance
    match ← peek with
    | some (.tag tag) => do
      advance
      pure ⟨some name, some (← resolveTag tag)⟩
    | _ => pure ⟨some name, none⟩
  | some (.tag tag) =>
    advance
    match ← peek with
    | some (.anchor name) => do
      advance
      pure ⟨some name, some (← resolveTag tag)⟩
    | _ => do pure ⟨none, some (← resolveTag tag)⟩
  | _ => pure ⟨none, none⟩

inductive Place where
  | flow
  | block
  /-- A key or value of a block mapping, where a sequence need not be indented. -/
  | blockPair
deriving DecidableEq

def isOneOf (token? : Option Token) (tokens : List Token) : Bool :=
  token?.any tokens.contains

mutual

def readNode (fuel : Nat) (place : Place) : Composing Node :=
  match fuel with
  | 0 => failure
  | fuel + 1 => do
    match ← peek with
    | some (.aliased name) =>
      advance
      count 1
      match (← get).anchors.lookup name with
      | some number => pure (.aliased number)
      | none => failure
    | _ =>
      let properties ← readProperties
      match properties.anchor with
      | none => readContent fuel place properties
      | some name => do
        let number ← number name
        pure (.anchored number (← readContent fuel place properties))

def readContent (fuel : Nat) (place : Place) (properties : Properties) : Composing Node :=
  match fuel with
  | 0 => failure
  | fuel + 1 => do
    let tag := properties.tag
    match ← peek with
    | some .blockEntry =>
      if place = .blockPair then do
        count 2
        pure (.sequence tag (← readUnindented fuel))
      else readAbsent properties
    | some (.scalar style text) => do
      advance
      count 1
      pure (.scalar (tag.filter (· ≠ "!")) style text)
    | some .flowSequenceStart => do
      advance
      count 2
      pure (.sequence tag (← readFlowSequence fuel true))
    | some .flowMappingStart => do
      advance
      count 2
      pure (.mapping tag (← readFlowMapping fuel true))
    | some .blockSequenceStart =>
      if place = .flow then readAbsent properties
      else do
        advance
        count 2
        pure (.sequence tag (← readBlockSequence fuel))
    | some .blockMappingStart =>
      if place = .flow then readAbsent properties
      else do
        advance
        count 2
        pure (.mapping tag (← readBlockMapping fuel))
    | _ => readAbsent properties

def readAbsent (properties : Properties) : Composing Node := do
  if properties.anchor.isNone && properties.tag.isNone then failure
  else
    count 1
    pure (.scalar properties.tag .plain "")

def readUnless (fuel : Nat) (place : Place) (ends : List Token) : Composing Node :=
  match fuel with
  | 0 => failure
  | fuel + 1 => do
    if isOneOf (← peek) ends then
      count 1
      pure .absent
    else readNode fuel place

def readBlockSequence (fuel : Nat) : Composing (List Node) :=
  match fuel with
  | 0 => failure
  | fuel + 1 => do
    match ← peek with
    | some .blockEntry =>
      advance
      let item ← readUnless fuel .block [.blockEntry, .blockEnd]
      pure (item :: (← readBlockSequence fuel))
    | some .blockEnd =>
      advance
      pure []
    | _ => failure

/-- Reads the entries of a block sequence that is not indented; it has no token for its end. -/
def readUnindented (fuel : Nat) : Composing (List Node) :=
  match fuel with
  | 0 => failure
  | fuel + 1 => do
    match ← peek with
    | some .blockEntry =>
      advance
      let item ← readUnless fuel .block [.blockEntry, .key, .value, .blockEnd]
      pure (item :: (← readUnindented fuel))
    | _ => pure []

def readBlockMapping (fuel : Nat) : Composing (List (Node × Node)) :=
  match fuel with
  | 0 => failure
  | fuel + 1 => do
    match ← peek with
    | some .key =>
      advance
      let key ← readUnless fuel .blockPair [.key, .value, .blockEnd]
      let value ← readValue fuel .blockPair [.key, .value, .blockEnd]
      pure ((key, value) :: (← readBlockMapping fuel))
    | some .blockEnd =>
      advance
      pure []
    | _ => failure

def readValue (fuel : Nat) (place : Place) (ends : List Token) : Composing Node :=
  match fuel with
  | 0 => failure
  | fuel + 1 => do
    if (← peek) = some .value then
      advance
      readUnless fuel place ends
    else
      count 1
      pure .absent

def readFlowSequence (fuel : Nat) (first : Bool) : Composing (List Node) :=
  match fuel with
  | 0 => failure
  | fuel + 1 => do
    if (← peek) = some .flowSequenceEnd then
      advance
      pure []
    else
      if !first then expect .flowEntry
      match ← peek with
      | some .flowSequenceEnd =>
        advance
        pure []
      | some .key =>
        advance
        count 2
        let pair ← readSinglePair fuel
        pure (.mapping none [pair] :: (← readFlowSequence fuel false))
      | _ =>
        let item ← readNode fuel .flow
        pure (item :: (← readFlowSequence fuel false))

/-- Reads a pair that is an entry of a flow sequence. Where the key is empty, the token after the
indicator is passed over whatever it is. -/
def readSinglePair (fuel : Nat) : Composing (Node × Node) :=
  match fuel with
  | 0 => failure
  | fuel + 1 => do
    let key ←
      if isOneOf (← peek) [.value, .flowEntry, .flowSequenceEnd] then do
        advance
        count 1
        pure Node.absent
      else readNode fuel .flow
    let value ← readValue fuel .flow [.flowEntry, .flowSequenceEnd]
    pure (key, value)

/-- Reads the pairs of a flow mapping, commas between them. A node without a key indicator is a key
without a value. -/
def readFlowMapping (fuel : Nat) (first : Bool) : Composing (List (Node × Node)) :=
  match fuel with
  | 0 => failure
  | fuel + 1 => do
    if (← peek) = some .flowMappingEnd then
      advance
      pure []
    else
      if !first then expect .flowEntry
      match ← peek with
      | some .flowMappingEnd =>
        advance
        pure []
      | some .key =>
        advance
        let key ← readUnless fuel .flow [.value, .flowEntry, .flowMappingEnd]
        let value ← readValue fuel .flow [.flowEntry, .flowMappingEnd]
        pure ((key, value) :: (← readFlowMapping fuel false))
      | _ =>
        let key ← readNode fuel .flow
        count 1
        pure ((key, .absent) :: (← readFlowMapping fuel false))

end

/-- Directives at the head of a document: at most one version, of the first major version, and at
most one replacement of each handle. -/
def readDirectives (fuel : Nat) (versionSeen : Bool) (declared : List (String × String)) :
    Composing (List (String × String)) :=
  match fuel with
  | 0 => failure
  | fuel + 1 => do
    match ← peek with
    | some (.directive (.version major minor)) =>
      if versionSeen || major ≠ 1 || !(minor = 1 || minor = 2) then failure
      else
        advance
        readDirectives fuel true declared
    | some (.directive (.tag handle replacement)) =>
      if (declared.lookup handle).isSome then failure
      else
        advance
        readDirectives fuel versionSeen ((handle, replacement) :: declared)
    | _ => pure declared

def defaultHandles : List (String × String) :=
  [("!", "!"), ("!!", "tag:yaml.org,2002:")]

def announcesDocument : Token → Bool
  | .directive _ => true
  | .documentStart => true
  | _ => false

def readRoot (fuel : Nat) (announced : Bool) : Composing Node := do
  let token? ← peek
  if announced && token?.all (fun token => announcesDocument token || token = .documentEnd) then
    count 1
    pure .absent
  else readNode fuel .block

def readDocument : Composing Document := do
  let tokens := (← get).tokens
  let fuel := 8 * tokens.length + 16
  match tokens.head? with
  | none => pure ⟨none, 1⟩
  | some first =>
    let declared ← readDirectives fuel false []
    modify fun composer => { composer with handles := declared ++ defaultHandles }
    if announcesDocument first then expect .documentStart
    let root ← readRoot fuel (announcesDocument first)
    let composer ← get
    if composer.tokens.all (· = .documentEnd) then pure ⟨some root, composer.events⟩ else failure

end Composer

def Document.ofText? (text : String) : Option Document := do
  let tokens ← Token.ofText? text
  let (document, _) ← Composer.readDocument.run ⟨tokens, [], [], 0⟩
  pure document

end Stencil.Yaml
