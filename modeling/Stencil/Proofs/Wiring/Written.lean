import Stencil.Wiring.Reading

/-!
# Written configurations

A configuration that is written as a value is read back as it was: each source by its kind and by
the names of its fields, whatever the order of the keys, and a fixed value at every depth.
-/

set_option autoImplicit false

namespace Stencil

open Yaml

/-! ### Values -/

namespace Value

/-- The values that can be built: at every depth objects have ascending keys and doubles are
finite. -/
inductive Proper : Value → Prop
  | null : Proper .null
  | bool (value : Bool) : Proper (.bool value)
  | integer (value : Int) : Proper (.number (.integer value))
  | double {value : Number.Double} (finite : value.isFinite = true) :
    Proper (.number (.double value))
  | string (text : String) : Proper (.string text)
  | array {items : List Value} (inside : ∀ item ∈ items, Proper item) : Proper (.array items)
  | object {members : Entries Value} (ascending : members.Ascending)
    (inside : ∀ entry ∈ members, Proper entry.2) : Proper (.object members)

private theorem ofItems?_toItems {items : List Value}
    (each : ∀ item ∈ items, ofTree? item.toTree = some item) :
    ofItems? (toItems items) = some items := by
  induction items with
  | nil => rfl
  | cons item rest ih =>
    obtain ⟨first, others⟩ := List.forall_mem_cons.mp each
    rw [toItems, ofItems?, first, ih others]
    rfl

private theorem ofPairs?_toPairs {members : List (String × Value)} (sofar : Dictionary Value)
    (each : ∀ entry ∈ members, ofTree? entry.2.toTree = some entry.2) :
    ofPairs? sofar.entries (toPairs members) = some (sofar.insertMany members).entries := by
  induction members generalizing sofar with
  | nil => rfl
  | cons entry rest ih =>
    obtain ⟨key, value⟩ := entry
    obtain ⟨first, others⟩ := List.forall_mem_cons.mp each
    rw [toPairs, ofPairs?, first]
    exact ih (sofar.insert key value) others

end Value

/-- Setting the entries of a dictionary in turn builds it again. -/
theorem Dictionary.ofList_entries {α : Type} (dictionary : Dictionary α) :
    ofList dictionary.entries = dictionary := by
  refine ext_get? fun key => ?_
  cases found : dictionary.get? key with
  | none =>
    refine get?_ofList_of_absent fun entry member same => ?_
    rw [← same, get?, dictionary.ascending.get?_of_mem member] at found
    cases found
  | some value =>
    refine get?_ofList_eq_some_iff.mpr ?_
    obtain ⟨before, after, split⟩ := List.append_of_mem (Entries.mem_of_get? found)
    refine ⟨before, after, split, fun entry member same => ?_⟩
    have ascending := dictionary.ascending
    rw [split, Entries.Ascending, Entries.keys, List.map_append, List.pairwise_append] at ascending
    have less := (List.pairwise_cons.mp ascending.2.1).1 entry.1 (List.mem_map_of_mem member)
    rw [same] at less
    exact String.lt_irrefl key less

theorem Dictionary.mem_of_mem_ofList {α : Type} {entries : List (String × α)}
    {entry : String × α} (member : entry ∈ (ofList entries).entries) : entry ∈ entries := by
  have found := (ofList entries).ascending.get?_of_mem member
  obtain ⟨before, after, split, -⟩ := get?_ofList_eq_some_iff.mp found
  rw [split]
  exact List.mem_append_right before List.mem_cons_self

/-- A value is what its tree stands for. -/
theorem Value.Proper.ofTree?_toTree {value : Value} (proper : value.Proper) :
    ofTree? value.toTree = some value := by
  induction proper with
  | null => rfl
  | bool => rfl
  | integer => rfl
  | double finite => rw [toTree, ofTree?, ofDouble, if_pos finite]
  | string => rfl
  | array _ ih => rw [toTree, ofTree?, ofItems?_toItems ih, Option.map_some]
  | @object members ascending _ ih =>
    have again : Dictionary.ofList members = ⟨members, ascending⟩ :=
      Dictionary.ofList_entries ⟨members, ascending⟩
    have read : ofPairs? [] (toPairs members) = some (Dictionary.ofList members).entries :=
      ofPairs?_toPairs .empty ih
    rw [toTree, ofTree?, read, again, Option.map_some]

/-! ### Sources -/

namespace TokenSource

/-- Only a fixed value can be improper. -/
def Proper : TokenSource → Prop
  | fixed value => value.Proper
  | _ => True

/-- The members of a written source, in the order of their keys. -/
def writtenMembers : TokenSource → List (String × Value)
  | fixed value => [("kind", .string "static"), ("value", value)]
  | setting key => [("key", .string key), ("kind", .string "setting")]
  | environment name default? =>
    [("default", (default?.map Value.string).getD .null), ("kind", .string "env"),
      ("var", .string name)]
  | context key => [("key", .string key), ("kind", .string "context")]
  | property type member =>
    [("kind", .string "property"), ("member", .string member), ("type", .string type)]
  | method type member parameters =>
    [("kind", .string "method"), ("member", .string member),
      ("params", .array (parameters.map fun kind => .string kind.name)), ("type", .string type)]

theorem toValue_eq (source : TokenSource) : source.toValue = .object source.writtenMembers := by
  cases source <;>
    simp only [toValue, writtenMembers, kind, Value.ofDictionary, Dictionary.ofList,
      Dictionary.insertMany, Dictionary.insert, Dictionary.empty, Entries.insert, Entries.contains,
      Entries.get?, Entries.place, List.foldl_cons, List.foldl_nil, Option.isSome_none,
      Bool.false_eq_true, ↓reduceIte, String.reduceEq, String.reduceLT]

private theorem parametersOf?_written (parameters : List ParameterKind) :
    parametersOf? (Value.toTree (.array (parameters.map fun kind => .string kind.name))) =
      some parameters := by
  rw [Value.toTree, parametersOf?]
  induction parameters with
  | nil => rfl
  | cons kind rest ih =>
    have first : parameterOf? (.string kind.name) = some kind := by cases kind <;> rfl
    rw [List.map_cons, Value.toItems, Value.toTree, List.mapM_cons, first, ih]
    rfl

/-- A written source is read back, whatever its fixed value has for members. -/
theorem sourceOfValue?_toValue {source : TokenSource} (proper : source.Proper) :
    TokenConfig.sourceOfValue? source.toValue = some source := by
  rw [toValue_eq]
  cases source with
  | fixed value =>
    exact congrArg (Option.map fixed) proper.ofTree?_toTree
  | setting key => rfl
  | environment name default? =>
    cases default? <;> rfl
  | context key => rfl
  | property type member => rfl
  | method type member parameters =>
    exact congrArg (Option.bind · fun read => some (method type member read))
      (parametersOf?_written parameters)

end TokenSource

/-! ### Configurations -/

namespace TokenConfig

/-- The configuration of the values that the fields have, where they are given. -/
def ofFields? (strict caseSensitive wildcardSettings tokens : Option Value) :
    Option TokenConfig := do
  let strict ← field? boolOfValue? strict
  let caseSensitive ← field? boolOfValue? caseSensitive
  let wildcardSettings ← field? boolOfValue? wildcardSettings
  let tokens ← field? sourcesOfValue? tokens
  pure (ConfigFields.toConfig ⟨strict, caseSensitive, wildcardSettings, tokens⟩)

theorem ofValue?_object (members : Entries Value) :
    ofValue? (.object members) =
      ofFields? (members.get? "strict") (members.get? "case_sensitive")
        (members.get? "wildcard_settings") (members.get? "tokens") := rfl

/-- The fixed values of the tokens can be built. -/
def Proper (config : TokenConfig) : Prop :=
  ∀ entry ∈ config.tokens.entries, entry.2.Proper

theorem sourcesOfValue?_written {tokens : Dictionary TokenSource}
    (proper : ∀ entry ∈ tokens.entries, entry.2.Proper) :
    sourcesOfValue? (.object (tokens.entries.map fun entry => (entry.1, entry.2.toValue))) =
      some tokens := by
  have each : ∀ entries : Entries TokenSource, (∀ entry ∈ entries, entry.2.Proper) →
      (entries.map fun entry => (entry.1, entry.2.toValue)).mapM
        (fun entry : String × Value => do
          let source ← sourceOfValue? entry.2
          pure (entry.1, source)) = some entries := by
    intro entries proper
    induction entries with
    | nil => rfl
    | cons entry rest ih =>
      obtain ⟨first, others⟩ := List.forall_mem_cons.mp proper
      rw [List.map_cons, List.mapM_cons, TokenSource.sourceOfValue?_toValue first, ih others]
      rfl
  have read : sourcesOfValue? (.object (tokens.entries.map fun entry =>
      (entry.1, entry.2.toValue))) = some (.ofList tokens.entries) :=
    congrArg (Option.bind · fun sources => some (Dictionary.ofList sources))
      (each tokens.entries proper)
  rw [read, Dictionary.ofList_entries]

theorem toValue_eq (config : TokenConfig) :
    config.toValue = .object
      [("case_sensitive", .bool config.caseSensitive), ("strict", .bool config.strict),
        ("tokens", .object (config.tokens.entries.map fun entry => (entry.1, entry.2.toValue))),
        ("wildcard_settings", .bool config.wildcardSettings)] := by
  simp only [toValue, Value.ofDictionary, Dictionary.ofList, Dictionary.insertMany,
    Dictionary.insert, Dictionary.empty, Entries.insert, Entries.contains, Entries.get?,
    Entries.place, List.foldl_cons, List.foldl_nil, Option.isSome_none, Bool.false_eq_true,
    ↓reduceIte, String.reduceEq, String.reduceLT]

/-- A written configuration is read back. -/
theorem ofValue?_of_proper {config : TokenConfig} (proper : config.Proper) :
    ofValue? config.toValue = some config := by
  have tokens := sourcesOfValue?_written proper
  rw [toValue_eq, ofValue?_object]
  exact congrArg (fun read => (read.map some).bind fun tokens =>
    some (ConfigFields.toConfig ⟨some config.strict, some config.caseSensitive,
      some config.wildcardSettings, tokens⟩)) tokens

end TokenConfig

end Stencil
