import Mathlib
import Stencil.Proofs.Settings.Flattening

/-!
# Which documents can be flattened

A document is flattened exactly when it is null or a mapping whose keys are scalars other than null
and whose values are scalars or such mappings, at every depth. Otherwise the first fault of a walk
through the document is told. Of the leaves with one key the last in the document is the setting.
-/

set_option autoImplicit false

namespace Stencil.Settings

open Yaml Text

/-! ## Keys of settings -/

/-- The key of what lies at a path of key texts: the texts joined by dots, where an empty text adds
no dot as long as nothing stands before it. -/
def settingKey (path : List String) : String :=
  dotted (path.dropWhile String.isEmpty)

theorem head_ne_empty_of_dropWhile {path rest : List String} {head : String}
    (dropped : path.dropWhile String.isEmpty = head :: rest) : head ≠ "" := by
  have stays := List.head?_dropWhile_not String.isEmpty path
  rw [dropped] at stays
  intro empty
  subst empty
  cases stays

private theorem below_settingKey (path : List String) (name : String) :
    below (settingKey path) name = settingKey (path ++ [name]) := by
  unfold settingKey
  rw [List.dropWhile_append]
  cases dropped : path.dropWhile String.isEmpty with
  | nil =>
    change name = dotted ([name].dropWhile String.isEmpty)
    by_cases empty : name.isEmpty
    · rw [String.isEmpty_iff.mp empty]
      rfl
    · rw [List.dropWhile_cons_of_neg empty]
      rfl
  | cons head rest =>
    have named := dotted_cons_ne_empty (head_ne_empty_of_dropWhile dropped) rest
    rw [below_of_named named]
    exact (dotted_concat (List.cons_ne_nil head rest) name).symm

/-! ## Places of leaves -/

mutual

/-- The leaves of a mapping in document order, each with the texts of the keys on the way to it and
with its own text. -/
def placedLeaves : List (Tree × Tree) → List (List String × String)
  | [] => []
  | (key, value) :: rest =>
    ((placedLeavesAt value).map fun leaf => ((scalarText? key).getD "" :: leaf.1, leaf.2)) ++
      placedLeaves rest

def placedLeavesAt : Tree → List (List String × String)
  | .mapping pairs => placedLeaves pairs
  | leaf => [([], (scalarText? leaf).getD "")]

end

theorem placedLeavesAt_of_scalar {value : Tree} {text : String}
    (scalar : scalarText? value = some text) : placedLeavesAt value = [([], text)] := by
  cases value with
  | mapping => cases scalar
  | null | bool | number | string | sequence | tagged =>
    simp only [placedLeavesAt, scalar, Option.getD_some]

/-- The key of a leaf is that of its place. -/
theorem leaves_eq_placed {pairs : List (Tree × Tree)} (acceptable : Acceptable pairs)
    (path : List String) :
    leaves (settingKey path) pairs =
      (placedLeaves pairs).map fun leaf => (settingKey (path ++ leaf.1), leaf.2) := by
  induction acceptable generalizing path with
  | nil => rw [leaves, placedLeaves]; rfl
  | @leaf key value others name text keyed scalar rest ih =>
    rw [leaves, placedLeaves, keyed.written, leavesAt_of_scalar scalar,
      placedLeavesAt_of_scalar scalar, ih, Option.getD_some, below_settingKey]
    rfl
  | @mapping key inner others name keyed inside rest ihInside ih =>
    rw [leaves, placedLeaves, keyed.written, leavesAt, placedLeavesAt, Option.getD_some,
      below_settingKey, ihInside, ih, List.map_append, List.map_map]
    simp only [Function.comp_def, List.append_assoc, List.singleton_append]

/-! ## The first fault -/

/-- A value that no settings can hold. -/
inductive IsForeign : Tree → Prop where
  | sequence (items : List Tree) : IsForeign (.sequence items)
  | tagged (tag : String) (value : Tree) : IsForeign (.tagged tag value)

/-- The error for the first fault met below a path of key texts, going through the pairs in order
and into each mapping before what follows it. A key at fault is told by the key of its mapping, a
value by its own. -/
inductive FirstFault : List String → List (Tree × Tree) → SettingsError → Prop where
  | key {path : List String} {key value : Tree} {others : List (Tree × Tree)}
      (unfit : ∀ name, ¬ IsKey key name) :
      FirstFault path ((key, value) :: others)
        (.unsupported (settingKey path) "mapping keys must be scalars")
  | value {path : List String} {key value : Tree} {others : List (Tree × Tree)} {name : String}
      (keyed : IsKey key name) (foreign : IsForeign value) :
      FirstFault path ((key, value) :: others)
        (.unsupported (settingKey (path ++ [name])) "only scalars and mappings are allowed")
  | inside {path : List String} {key : Tree} {inner others : List (Tree × Tree)} {name : String}
      {error : SettingsError} (keyed : IsKey key name)
      (fault : FirstFault (path ++ [name]) inner error) :
      FirstFault path ((key, .mapping inner) :: others) error
  | later {path : List String} {key value : Tree} {others : List (Tree × Tree)}
      {error : SettingsError} (acceptable : Acceptable [(key, value)])
      (fault : FirstFault path others error) : FirstFault path ((key, value) :: others) error

theorem Acceptable.append {left right : List (Tree × Tree)} (first : Acceptable left)
    (second : Acceptable right) : Acceptable (left ++ right) := by
  induction first with
  | nil => exact second
  | leaf keyed scalar rest ih => exact .leaf keyed scalar ih
  | mapping keyed inside rest ihInside ih => exact .mapping keyed inside ih

/-- A walk through the pairs of a mapping meets no fault or has a first one. -/
private theorem acceptable_or_firstFault (path : List String) :
    (pairs : List (Tree × Tree)) → Acceptable pairs ∨ ∃ error, FirstFault path pairs error
  | [] => .inl .nil
  | (key, value) :: rest => by
    have first : Acceptable [(key, value)] ∨
        ∃ error, FirstFault path ((key, value) :: rest) error := by
      cases keyed : keyText? key with
      | none =>
        refine .inr ⟨_, .key fun name isKey => ?_⟩
        rw [keyText?_eq_some_iff.mpr isKey] at keyed
        cases keyed
      | some name =>
        have isKey := keyText?_eq_some_iff.mp keyed
        cases value with
        | null | string => exact .inl (.leaf isKey rfl .nil)
        | bool flag => cases flag <;> exact .inl (.leaf isKey rfl .nil)
        | number value => cases value <;> exact .inl (.leaf isKey rfl .nil)
        | sequence items => exact .inr ⟨_, .value isKey (.sequence items)⟩
        | tagged tag value => exact .inr ⟨_, .value isKey (.tagged tag value)⟩
        | mapping inner =>
          cases acceptable_or_firstFault (path ++ [name]) inner with
          | inl inside => exact .inl (.mapping isKey inside .nil)
          | inr faulty =>
            obtain ⟨error, fault⟩ := faulty
            exact .inr ⟨error, .inside isKey fault⟩
    cases first with
    | inr faulty => exact .inr faulty
    | inl acceptable =>
      cases acceptable_or_firstFault path rest with
      | inl others => exact .inl (acceptable.append others)
      | inr faulty =>
        obtain ⟨error, fault⟩ := faulty
        exact .inr ⟨error, .later acceptable fault⟩

private theorem flatten_of_firstFault {path : List String} {pairs : List (Tree × Tree)}
    {error : SettingsError} (fault : FirstFault path pairs error) (settings : Settings) :
    flatten settings (settingKey path) pairs = .error error := by
  induction fault generalizing settings with
  | @key path key value others unfit =>
    have unkeyed : keyText? key = none := by
      cases keyed : keyText? key with
      | none => rfl
      | some name => exact absurd (keyText?_eq_some_iff.mp keyed) (unfit name)
    rw [flatten, unkeyed]
  | value keyed foreign =>
    rw [flatten, keyText?_eq_some_iff.mpr keyed, ← below_settingKey]
    cases foreign <;> rfl
  | inside keyed fault ih =>
    rw [flatten, keyText?_eq_some_iff.mpr keyed]
    simp only [below_settingKey, ih]
  | later acceptable fault ih =>
    cases acceptable with
    | leaf keyed scalar =>
      rw [flatten_leaf (keyText?_eq_some_iff.mpr keyed) scalar]
      exact ih _
    | mapping keyed inside =>
      have flattened := flatten_of_acceptable inside settings
      rw [flatten_mapping (keyText?_eq_some_iff.mpr keyed) (flattened _)]
      exact ih _

theorem flatten_eq_error_iff (path : List String) {pairs : List (Tree × Tree)}
    {settings : Settings} {error : SettingsError} :
    flatten settings (settingKey path) pairs = .error error ↔ FirstFault path pairs error := by
  constructor
  · intro fails
    cases acceptable_or_firstFault path pairs with
    | inl acceptable =>
      rw [flatten_of_acceptable acceptable] at fails
      cases fails
    | inr faulty =>
      obtain ⟨other, fault⟩ := faulty
      rw [flatten_of_firstFault fault] at fails
      exact Except.error.inj fails ▸ fault
  · intro fault
    exact flatten_of_firstFault fault settings

theorem exists_flatten_iff (path : List String) {pairs : List (Tree × Tree)}
    {settings : Settings} :
    (∃ flattened, flatten settings (settingKey path) pairs = .ok flattened) ↔
      Acceptable pairs := by
  constructor
  · intro accepted
    obtain ⟨flattened, accepted⟩ := accepted
    cases acceptable_or_firstFault path pairs with
    | inl acceptable => exact acceptable
    | inr faulty =>
      obtain ⟨error, fault⟩ := faulty
      rw [flatten_of_firstFault fault] at accepted
      cases accepted
  · intro acceptable
    exact ⟨_, flatten_of_acceptable acceptable settings (settingKey path)⟩

/-! ## Whole documents -/

/-- Null, or a mapping whose pairs are accepted. -/
inductive AcceptableDocument : Tree → Prop where
  | null : AcceptableDocument .null
  | mapping {pairs : List (Tree × Tree)} (acceptable : Acceptable pairs) :
      AcceptableDocument (.mapping pairs)

/-- The error for a document: the top level is neither null nor a mapping, or the mapping has a
first fault. -/
inductive FaultyDocument : Tree → SettingsError → Prop where
  | top {tree : Tree} (notNull : tree ≠ .null) (notMapping : ∀ pairs, tree ≠ .mapping pairs) :
      FaultyDocument tree (.unsupported "" "top level must be a mapping")
  | inside {pairs : List (Tree × Tree)} {error : SettingsError}
      (fault : FirstFault [] pairs error) : FaultyDocument (.mapping pairs) error

/-- The leaves of a document in document order, each with its key and its text. -/
def settingLeaves : Tree → List (String × String)
  | .mapping pairs => (placedLeaves pairs).map fun leaf => (settingKey leaf.1, leaf.2)
  | _ => []

theorem flatten_empty {pairs : List (Tree × Tree)} (acceptable : Acceptable pairs) :
    flatten empty "" pairs = .ok (ofLeaves (settingLeaves (.mapping pairs))) := by
  have flattened := flatten_of_acceptable acceptable empty (settingKey [])
  rw [leaves_eq_placed acceptable] at flattened
  exact flattened

theorem exists_ofTree_iff {tree : Tree} :
    (∃ settings, ofTree tree = .ok settings) ↔ AcceptableDocument tree := by
  constructor
  · intro accepted
    obtain ⟨settings, accepted⟩ := accepted
    cases tree with
    | null => exact .null
    | mapping pairs => exact .mapping ((exists_flatten_iff []).mp ⟨settings, accepted⟩)
    | bool | number | string | sequence | tagged => cases accepted
  · intro acceptable
    cases acceptable with
    | null => exact ⟨empty, rfl⟩
    | mapping acceptable => exact ⟨_, flatten_empty acceptable⟩

theorem ofTree_eq_error_iff {tree : Tree} {error : SettingsError} :
    ofTree tree = .error error ↔ FaultyDocument tree error := by
  constructor
  · intro fails
    cases tree with
    | null => cases fails
    | mapping pairs => exact .inside ((flatten_eq_error_iff []).mp fails)
    | bool | number | string | sequence | tagged =>
      cases fails
      exact .top nofun nofun
  · intro faulty
    cases faulty with
    | inside fault => exact flatten_of_firstFault fault empty
    | top notNull notMapping =>
      cases tree with
      | null => exact absurd rfl notNull
      | mapping pairs => exact absurd rfl (notMapping pairs)
      | bool | number | string | sequence | tagged => rfl

theorem eq_ofLeaves_of_ofTree {tree : Tree} {settings : Settings}
    (accepted : ofTree tree = .ok settings) : settings = ofLeaves (settingLeaves tree) := by
  cases exists_ofTree_iff.mp ⟨settings, accepted⟩ with
  | null => exact (Except.ok.inj accepted).symm
  | mapping acceptable =>
    exact Except.ok.inj (accepted.symm.trans (flatten_empty acceptable))

/-- A document is accepted exactly when all of it can be flattened, and fails exactly with its first
fault. Once accepted, each setting is the text of the last leaf with its key. -/
theorem ofYaml_of_parsed {text : String} {tree : Tree} (parsed : Tree.ofText? text = some tree) :
    ((∃ settings, ofYaml text = .ok settings) ↔ AcceptableDocument tree) ∧
    (∀ error, ofYaml text = .error error ↔ FaultyDocument tree error) ∧
    ∀ settings, ofYaml text = .ok settings → ∀ key value,
      (settings.get? key = some value ↔
        ∃ before after, settingLeaves tree = before ++ (key, value) :: after ∧
          ∀ leaf ∈ after, leaf.1 ≠ key) := by
  have reads : ofYaml text = ofTree tree := by
    rw [ofYaml, parsed]
  rw [reads]
  refine ⟨exists_ofTree_iff, fun error => ofTree_eq_error_iff, ?_⟩
  intro settings accepted key value
  rw [eq_ofLeaves_of_ofTree accepted]
  exact Dictionary.get?_ofList_eq_some_iff

private theorem ofText?_sequence_before_null_key :
    Tree.ofText? "'a': \x7b'b': true, 'c': []\x7d\n~: 'd'\n" =
      some (.mapping
        [(.string "a", .mapping [(.string "b", .bool true), (.string "c", .sequence [])]),
          (.null, .string "d")]) := by
  have tokens : Token.ofText? "'a': \x7b'b': true, 'c': []\x7d\n~: 'd'\n" =
      some [.blockMappingStart, .key, .scalar .singleQuoted "a", .value, .flowMappingStart, .key,
        .scalar .singleQuoted "b", .value, .scalar .plain "true", .flowEntry, .key,
        .scalar .singleQuoted "c", .value, .flowSequenceStart, .flowSequenceEnd, .flowMappingEnd,
        .key, .scalar .plain "~", .value, .scalar .singleQuoted "d", .blockEnd] := by
    decide +kernel
  rw [Tree.ofText?, Document.ofText?, tokens]
  cbv

/-- Of two faults the one that comes first in the document is told, though it lies deeper. -/
theorem ofYaml_of_parsed_sequence_before_null_key :
    ofYaml "'a': \x7b'b': true, 'c': []\x7d\n~: 'd'\n" =
      .error (.unsupported "a.c" "only scalars and mappings are allowed") := by
  have keyed (name : String) : IsKey (.string name) name := ⟨rfl, nofun⟩
  have sequence : FirstFault ["a"] [(.string "c", .sequence [])]
      (.unsupported (settingKey ["a", "c"]) "only scalars and mappings are allowed") :=
    .value (keyed "c") (.sequence [])
  have joined : settingKey ["a", "c"] = "a.c" := by decide
  rw [joined] at sequence
  have leaf : Acceptable [(.string "b", .bool true)] := .leaf (keyed "b") rfl .nil
  have outcome := (ofYaml_of_parsed ofText?_sequence_before_null_key).2.1
  exact (outcome _).mpr (.inside (.inside (keyed "a") (.later leaf sequence)))

end Stencil.Settings
