import Stencil.Wiring.Source

/-!
# Reading token configurations

A configuration is read from a document or from a value. Unknown fields are ignored, known ones may
occur once and have their default when they are missing; of two tokens with one name the last stays.
-/

set_option autoImplicit false

namespace Stencil

open Yaml

structure ConfigFields where
  strict : Option Bool
  caseSensitive : Option Bool
  wildcardSettings : Option Bool
  tokens : Option (Dictionary TokenSource)

namespace ConfigFields

def none : ConfigFields := ⟨Option.none, Option.none, Option.none, Option.none⟩

def toConfig (fields : ConfigFields) : TokenConfig where
  strict := fields.strict.getD TokenConfig.default.strict
  caseSensitive := fields.caseSensitive.getD TokenConfig.default.caseSensitive
  wildcardSettings := fields.wildcardSettings.getD TokenConfig.default.wildcardSettings
  tokens := fields.tokens.getD TokenConfig.default.tokens

end ConfigFields

/-! ### From documents -/

namespace Yaml.Document

/-- The text of a scalar however it is written and whatever its tag. -/
def text? (document : Document) (followed : Nat) (node : Node) : Option (String × Nat) := do
  let (node, followed) ← document.follow? followed node
  match node with
  | .scalar _ _ text => pure (text, followed)
  | _ => none

/-- A truth value: a plain scalar, or a literal block with the tag for truth values. -/
def bool? (document : Document) (followed : Nat) (node : Node) : Option (Bool × Nat) := do
  let (node, followed) ← document.follow? followed node
  match node with
  | .scalar tag style text =>
    if style = .plain || (style = .literal && tag = some (standardTag "bool")) then do
      let value ← boolOfText? text
      pure (value, followed)
    else none
  | _ => none

mutual

def isUntagged : Tree → Bool
  | .tagged .. => false
  | .sequence items => areUntagged items
  | .mapping pairs => pairsAreUntagged pairs
  | _ => true

def areUntagged : List Tree → Bool
  | [] => true
  | item :: rest => isUntagged item && areUntagged rest

def pairsAreUntagged : List (Tree × Tree) → Bool
  | [] => true
  | (key, value) :: rest => isUntagged key && isUntagged value && pairsAreUntagged rest

end

def untagged? (document : Document) (depth followed : Nat) (node : Node) :
    Option (Tree × Nat) := do
  let (tree, followed) ← document.tree? depth followed node
  if isUntagged tree then pure (tree, followed) else none

/-- The pairs of a source, and the text of the pair whose key is `kind`, which may occur once. -/
def sourcePairs? (document : Document) (depth : Nat) (kind : Option String)
    (sofar : List (Tree × Tree)) (followed : Nat) :
    List (Node × Node) → Option (Option String × List (Tree × Tree) × Nat)
  | [] => some (kind, sofar.reverse, followed)
  | (key, value) :: rest => do
    let (key, followed) ← document.untagged? depth followed key
    match key with
    | .string "kind" =>
      if kind.isSome then none
      else
        let (text, followed) ← document.text? followed value
        document.sourcePairs? depth (some text) sofar followed rest
    | key =>
      let (value, followed) ← document.untagged? depth followed value
      document.sourcePairs? depth kind ((key, value) :: sofar) followed rest

/-- The source of a token: a mapping with a kind, or a list that starts with one. -/
def source? (document : Document) (depth followed : Nat) (node : Node) :
    Option (TokenSource × Nat) := do
  let (node, followed) ← document.follow? followed node
  match node with
  | .mapping tag pairs =>
    if (keptTag? tag).isSome then none
    else
      let (kind, pairs, followed) ← document.sourcePairs? (depth - 1) none [] followed pairs
      let source ← TokenSource.ofFields? (← kind) (.byName pairs)
      pure (source, followed)
  | .sequence tag (first :: items) =>
    if (keptTag? tag).isSome then none
    else
      let (kind, followed) ← document.text? followed first
      let (items, followed) ← readEach? (document.untagged? (depth - 1)) followed items
      let source ← TokenSource.ofFields? kind (.inOrder items)
      pure (source, followed)
  | _ => none

def isAbsent : Node → Bool
  | .scalar _ style text => style = .plain && text.isEmpty
  | _ => false

def addSources? (document : Document) (depth : Nat) (sources : Dictionary TokenSource)
    (followed : Nat) : List (Node × Node) → Option (Dictionary TokenSource × Nat)
  | [] => some (sources, followed)
  | (key, value) :: rest => do
    let (name, followed) ← document.text? followed key
    let (source, followed) ← document.source? depth followed value
    document.addSources? depth (sources.insert name source) followed rest

def sources? (document : Document) (depth followed : Nat) (node : Node) :
    Option (Dictionary TokenSource × Nat) := do
  let (node, followed) ← document.follow? followed node
  match node with
  | .mapping _ pairs => document.addSources? (depth - 1) .empty followed pairs
  | node => if isAbsent node then pure (.empty, followed) else none

def configFields? (document : Document) (depth : Nat) (fields : ConfigFields) (followed : Nat) :
    List (Node × Node) → Option ConfigFields
  | [] => some fields
  | (key, value) :: rest => do
    let (name, followed) ← document.text? followed key
    match name with
    | "strict" =>
      if fields.strict.isSome then none
      let (strict, followed) ← document.bool? followed value
      document.configFields? depth { fields with strict := some strict } followed rest
    | "case_sensitive" =>
      if fields.caseSensitive.isSome then none
      let (caseSensitive, followed) ← document.bool? followed value
      document.configFields? depth { fields with caseSensitive := some caseSensitive } followed rest
    | "wildcard_settings" =>
      if fields.wildcardSettings.isSome then none
      let (wildcardSettings, followed) ← document.bool? followed value
      document.configFields? depth { fields with wildcardSettings := some wildcardSettings }
        followed rest
    | "tokens" =>
      if fields.tokens.isSome then none
      let (tokens, followed) ← document.sources? depth followed value
      document.configFields? depth { fields with tokens := some tokens } followed rest
    | _ => document.configFields? depth fields followed rest

end Yaml.Document

namespace TokenConfig

def ofYaml? (text : String) : Option TokenConfig := do
  let document ← Document.ofText? text
  match document.root with
  | none => pure default
  | some root =>
    let (node, followed) ← document.follow? 0 root
    match node with
    | .mapping _ pairs =>
      let fields ← document.configFields? (depthLimit - 1) .none followed pairs
      pure fields.toConfig
    | node => if Document.isAbsent node then pure default else none

/-! ### From values -/

def sourceOfValue? : Value → Option TokenSource
  | .object members =>
    match Entries.get? members "kind" with
    | some (.string kind) =>
      TokenSource.ofFields? kind (.byName (Value.toPairs (Entries.erase members "kind")))
    | _ => none
  | .array (.string kind :: items) => TokenSource.ofFields? kind (.inOrder (Value.toItems items))
  | _ => none

def boolOfValue? : Value → Option Bool
  | .bool value => some value
  | _ => none

def sourcesOfValue? : Value → Option (Dictionary TokenSource)
  | .object members => do
    let sources ← members.mapM fun (name, value) => do
      let source ← sourceOfValue? value
      pure (name, source)
    pure (.ofList sources)
  | _ => none

def field? {α : Type} (read? : Value → Option α) : Option Value → Option (Option α)
  | none => some none
  | some value => (read? value).map some

/-- The configuration of a value: an object, or a list of the fields in their order. -/
def ofValue? (value : Value) : Option TokenConfig := do
  let fields : List (Option Value) ←
    match value with
    | .object members =>
      some (["strict", "case_sensitive", "wildcard_settings", "tokens"].map (Entries.get? members))
    | .array items =>
      if 4 < items.length then none else some ((List.range 4).map fun index => items[index]?)
    | _ => none
  match fields with
  | [strict, caseSensitive, wildcardSettings, tokens] =>
    let strict ← field? boolOfValue? strict
    let caseSensitive ← field? boolOfValue? caseSensitive
    let wildcardSettings ← field? boolOfValue? wildcardSettings
    let tokens ← field? sourcesOfValue? tokens
    pure (ConfigFields.toConfig ⟨strict, caseSensitive, wildcardSettings, tokens⟩)
  | _ => none

end TokenConfig

end Stencil
