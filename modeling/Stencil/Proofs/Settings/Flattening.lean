import Mathlib
import Stencil.Proofs.Settings.Nesting
import Stencil.Settings.Document

/-!
# Flattening a document and nesting it again

A document whose keys are single segments and differ among siblings is flattened to one setting a
leaf. No such setting hides another, so the nested view of the settings is the document again, with
the text of every leaf in its place.
-/

set_option autoImplicit false

namespace Stencil.Settings

open Yaml Text

/-! ## Documents that nest back -/

/-- The text of a scalar; null has the empty one. -/
def scalarText? : Tree → Option String
  | .null => some ""
  | .bool true => some "true"
  | .bool false => some "false"
  | .number (.integer value) => some (toString value)
  | .number (.double value) => some (settingLayout.render value)
  | .string text => some text
  | .sequence _ | .mapping _ | .tagged .. => none

/-- A key among others: a scalar whose text is a single segment, not empty and not that of another
key. -/
structure IsSegmentKey (key : Tree) (others : List (Tree × Tree)) (text : String) : Prop where
  written : scalarText? key = some text
  named : text ≠ ""
  plain : IsPlain text
  fresh : ∀ pair ∈ others, scalarText? pair.1 ≠ some text

/-- Pairs of a mapping whose keys are distinct segments and whose values are scalars or mappings of
the same sort that are not empty. -/
inductive Nestable : List (Tree × Tree) → Prop where
  | nil : Nestable []
  | leaf {key value : Tree} {others : List (Tree × Tree)} {name text : String}
      (segment : IsSegmentKey key others name) (scalar : scalarText? value = some text)
      (rest : Nestable others) : Nestable ((key, value) :: others)
  | mapping {key : Tree} {inner others : List (Tree × Tree)} {name : String}
      (segment : IsSegmentKey key others name) (nonempty : inner ≠ []) (inside : Nestable inner)
      (rest : Nestable others) : Nestable ((key, .mapping inner) :: others)

mutual

/-- The tree with the text of each scalar in its place, as a value. -/
def textTree : Tree → Value
  | .mapping pairs => .object (textMembers pairs)
  | leaf => .string ((scalarText? leaf).getD "")

def textMembers : List (Tree × Tree) → Entries Value
  | [] => []
  | (key, value) :: rest =>
    (textMembers rest).insert ((scalarText? key).getD "") (textTree value)

end

/-! ## Leaves -/

mutual

/-- The dotted keys and the texts of the leaves below a parent, in document order. -/
def leaves (parent : String) : List (Tree × Tree) → List (String × String)
  | [] => []
  | (key, value) :: rest =>
    leavesAt (below parent ((scalarText? key).getD "")) value ++ leaves parent rest

def leavesAt (key : String) : Tree → List (String × String)
  | .mapping pairs => leaves key pairs
  | leaf => [(key, (scalarText? leaf).getD "")]

end

private theorem leafText?_of_scalar {value : Tree} {text : String}
    (scalar : scalarText? value = some text) : leafText? value = some text := by
  cases value with
  | null => exact scalar
  | bool flag => cases flag <;> exact scalar
  | number value => cases value <;> exact scalar
  | string => exact scalar
  | sequence | mapping | tagged => cases scalar

theorem IsSegmentKey.keyText? {key : Tree} {others : List (Tree × Tree)} {text : String}
    (segment : IsSegmentKey key others text) : Settings.keyText? key = some text := by
  have leaf := leafText?_of_scalar segment.written
  cases key with
  | null => exact absurd (Option.some.inj segment.written).symm segment.named
  | bool | number | string => exact leaf
  | sequence | mapping | tagged => cases segment.written

private theorem textTree_of_scalar {value : Tree} {text : String}
    (scalar : scalarText? value = some text) :
    textTree value = .string text := by
  cases value with
  | mapping => cases scalar
  | null | bool | number | string | sequence | tagged =>
    simp only [textTree, scalar, Option.getD_some]

theorem leavesAt_of_scalar {value : Tree} {text : String} (scalar : scalarText? value = some text)
    (key : String) : leavesAt key value = [(key, text)] := by
  cases value with
  | mapping => cases scalar
  | null | bool | number | string | sequence | tagged =>
    simp only [leavesAt, scalar, Option.getD_some]

/-! ## Flattening -/

theorem flatten_leaf {key value : Tree} {name text : String} (keyed : keyText? key = some name)
    (scalar : scalarText? value = some text) (settings : Settings) (parent : String)
    (rest : List (Tree × Tree)) :
    flatten settings parent ((key, value) :: rest) =
      flatten (settings.set (below parent name) text) parent rest := by
  have leaf := leafText?_of_scalar scalar
  cases value with
  | mapping => cases scalar
  | null | bool | number | string | sequence | tagged =>
    rw [flatten, keyed]
    simp only [leaf]

theorem flatten_mapping {key : Tree} {name : String} (keyed : keyText? key = some name)
    {settings inside : Settings} {parent : String} {inner : List (Tree × Tree)}
    (flattened : flatten settings (below parent name) inner = .ok inside)
    (rest : List (Tree × Tree)) :
    flatten settings parent ((key, .mapping inner) :: rest) = flatten inside parent rest := by
  rw [flatten, keyed]
  simp only [flattened]

/-! ## Accepted pairs -/

/-- A tree that can be a key, with its text: a scalar other than null. -/
structure IsKey (key : Tree) (name : String) : Prop where
  written : scalarText? key = some name
  notNull : key ≠ .null

theorem keyText?_eq_some_iff {key : Tree} {name : String} :
    keyText? key = some name ↔ IsKey key name := by
  constructor
  · intro keyed
    cases key with
    | null | sequence | mapping | tagged => cases keyed
    | string => exact ⟨keyed, nofun⟩
    | bool flag => cases flag <;> exact ⟨keyed, nofun⟩
    | number value => cases value <;> exact ⟨keyed, nofun⟩
  · intro isKey
    have leaf := leafText?_of_scalar isKey.written
    cases key with
    | null => exact absurd rfl isKey.notNull
    | string | bool | number => exact leaf
    | sequence | mapping | tagged => cases isKey.written

theorem IsSegmentKey.isKey {key : Tree} {others : List (Tree × Tree)} {text : String}
    (segment : IsSegmentKey key others text) : IsKey key text :=
  keyText?_eq_some_iff.mp segment.keyText?

/-- Pairs whose keys are scalars other than null and whose values are scalars or such mappings. -/
inductive Acceptable : List (Tree × Tree) → Prop where
  | nil : Acceptable []
  | leaf {key value : Tree} {others : List (Tree × Tree)} {name text : String}
      (keyed : IsKey key name) (scalar : scalarText? value = some text)
      (rest : Acceptable others) : Acceptable ((key, value) :: others)
  | mapping {key : Tree} {inner others : List (Tree × Tree)} {name : String}
      (keyed : IsKey key name) (inside : Acceptable inner) (rest : Acceptable others) :
      Acceptable ((key, .mapping inner) :: others)

theorem Nestable.acceptable {pairs : List (Tree × Tree)} (nestable : Nestable pairs) :
    Acceptable pairs := by
  induction nestable with
  | nil => exact .nil
  | leaf segment scalar rest ih => exact .leaf segment.isKey scalar ih
  | mapping segment nonempty inside rest ihInside ih => exact .mapping segment.isKey ihInside ih

theorem flatten_of_acceptable {pairs : List (Tree × Tree)} (acceptable : Acceptable pairs)
    (settings : Settings) (parent : String) :
    flatten settings parent pairs = .ok ⟨settings.values.insertMany (leaves parent pairs)⟩ := by
  induction acceptable generalizing settings parent with
  | nil => rw [flatten, leaves]; rfl
  | leaf keyed scalar rest ih =>
    rw [flatten_leaf (keyText?_eq_some_iff.mpr keyed) scalar, ih, leaves, keyed.written,
      leavesAt_of_scalar scalar]
    rfl
  | mapping keyed inside rest ihInside ih =>
    rw [flatten_mapping (keyText?_eq_some_iff.mpr keyed) (ihInside settings _), ih, leaves,
      keyed.written, leavesAt, Dictionary.insertMany, Dictionary.insertMany, ← List.foldl_append]
    rfl

theorem flatten_of_nestable {pairs : List (Tree × Tree)} (nestable : Nestable pairs)
    (settings : Settings) (parent : String) :
    flatten settings parent pairs = .ok ⟨settings.values.insertMany (leaves parent pairs)⟩ :=
  flatten_of_acceptable nestable.acceptable settings parent

/-! ## Keys of leaves -/

theorem below_of_named {parent : String} (named : parent ≠ "") (key : String) :
    below parent key = parent ++ "." ++ key := by
  rw [below, if_neg (by rwa [String.isEmpty_iff])]

/-- The leaves below a parent are those of the document alone, behind the parent's name. -/
theorem leaves_eq_map {pairs : List (Tree × Tree)} (nestable : Nestable pairs) {parent : String}
    (named : parent ≠ "") :
    leaves parent pairs =
      (leaves "" pairs).map fun entry => (parent ++ "." ++ entry.1, entry.2) := by
  induction nestable generalizing parent with
  | nil => rw [leaves, leaves]; rfl
  | leaf segment scalar rest ih =>
    rw [leaves, leaves, segment.written, leavesAt_of_scalar scalar, leavesAt_of_scalar scalar,
      ih named, Option.getD_some, below_of_named named]
    rfl
  | @mapping key inner others name segment nonempty inside rest ihInside ih =>
    have outer := ihInside (append_dot_ne_empty parent name)
    have alone : leaves (below "" name) inner =
        (leaves "" inner).map fun entry => (name ++ "." ++ entry.1, entry.2) :=
      ihInside segment.named
    rw [leaves, leaves, segment.written, leavesAt, leavesAt, ih named, Option.getD_some,
      below_of_named named, outer, alone, List.map_append, List.map_map]
    simp only [Function.comp_def, String.append_assoc]

/-- A key is a name or lies below it. -/
def Under (name key : String) : Prop :=
  key = name ∨ ∃ rest, key = name ++ "." ++ rest

private theorem Under.unique {left right key : String} (plainLeft : IsPlain left)
    (plainRight : IsPlain right) (underLeft : Under left key) (underRight : Under right key) :
    left = right := by
  rcases underLeft with rfl | ⟨rest, rfl⟩
  · rcases underRight with same | ⟨following, split⟩
    · exact same
    · exact absurd (split ▸ plainLeft) (not_isPlain_append right following)
  · rcases underRight with same | ⟨following, split⟩
    · exact absurd (same ▸ plainRight) (not_isPlain_append left rest)
    · exact (append_dot_inj plainLeft plainRight split).1

private theorem under_of_mem_leavesAt_mapping {inner : List (Tree × Tree)} (inside : Nestable inner)
    {name : String} (named : name ≠ "") {entry : String × String}
    (member : entry ∈ leaves name inner) : ∃ rest, entry.1 = name ++ "." ++ rest := by
  rw [leaves_eq_map inside named] at member
  obtain ⟨deeper, -, rfl⟩ := List.mem_map.mp member
  exact ⟨deeper.1, rfl⟩

private theorem exists_under_of_mem_leaves {pairs : List (Tree × Tree)} (nestable : Nestable pairs)
    {entry : String × String} (member : entry ∈ leaves "" pairs) :
    ∃ pair ∈ pairs, ∃ name, scalarText? pair.1 = some name ∧ IsPlain name ∧
      Under name entry.1 := by
  induction nestable with
  | nil => rw [leaves] at member; cases member
  | @leaf key value others name text segment scalar rest ih =>
    rw [leaves, segment.written, leavesAt_of_scalar scalar] at member
    rcases List.mem_cons.mp member with rfl | later
    · exact ⟨(key, value), List.mem_cons_self, name, segment.written, segment.plain, .inl rfl⟩
    · obtain ⟨pair, among, found⟩ := ih later
      exact ⟨pair, List.mem_cons_of_mem _ among, found⟩
  | @mapping key inner others name segment nonempty inside rest ihInside ih =>
    rw [leaves, segment.written, leavesAt] at member
    rcases List.mem_append.mp member with here | later
    · exact ⟨(key, .mapping inner), List.mem_cons_self, name, segment.written, segment.plain,
        .inr (under_of_mem_leavesAt_mapping inside segment.named here)⟩
    · obtain ⟨pair, among, found⟩ := ih later
      exact ⟨pair, List.mem_cons_of_mem _ among, found⟩

/-! ## The settings of a document -/

/-- The settings that a document is flattened to. -/
def ofLeaves (entries : List (String × String)) : Settings :=
  ⟨.ofList entries⟩

/-- The other keys of a mapping say nothing about what lies under a key. -/
private theorem get?_ofLeaves_of_fresh {others : List (Tree × Tree)} (nestable : Nestable others)
    {key : Tree} {name : String} (segment : IsSegmentKey key others name) {sought : String}
    (under : Under name sought) : (ofLeaves (leaves "" others)).get? sought = none := by
  refine Dictionary.get?_ofList_of_absent fun entry member same => ?_
  obtain ⟨pair, among, other, written, plain, underOther⟩ :=
    exists_under_of_mem_leaves nestable member
  rw [same] at underOther
  refine segment.fresh pair among ?_
  rw [written, under.unique segment.plain plain underOther]

theorem ofLeaves_append (left right : List (String × String)) (sought : String) :
    (ofLeaves (left ++ right)).get? sought =
      ((ofLeaves right).get? sought).or ((ofLeaves left).get? sought) :=
  Dictionary.get?_ofList_append left right sought

/-- The first entries say nothing about a key that does not lie under their name. -/
private theorem get?_ofLeaves_of_apart {name sought : String} {first : List (String × String)}
    (under : ∀ entry ∈ first, Under name entry.1) (apart : ¬ Under name sought)
    (others : List (String × String)) :
    (ofLeaves (first ++ others)).get? sought = (ofLeaves others).get? sought := by
  have absent : (ofLeaves first).get? sought = none :=
    Dictionary.get?_ofList_of_absent fun entry member same => apart (same ▸ under entry member)
  rw [ofLeaves_append, absent, Option.or_none]

/-- The settings under a segment determine its member in the nested view. -/
private theorem child?_toValue_congr {left right : Settings} {segment : String}
    (plain : IsPlain segment)
    (agree : ∀ key, Under segment key → left.get? key = right.get? key) :
    left.toValue.child? segment = right.toValue.child? segment := by
  have same : left.within segment = right.within segment := by
    refine ext_get? fun key => ?_
    rw [get?_within, get?_within]
    exact agree _ (.inr ⟨key, rfl⟩)
  rw [child?_toValue left plain, child?_toValue right plain, agree segment (.inl rfl), same]

private theorem child?_toValue_of_apart {name segment : String} (plainName : IsPlain name)
    (plain : IsPlain segment) (apart : segment ≠ name) {first : List (String × String)}
    (under : ∀ entry ∈ first, Under name entry.1) (others : List (String × String)) :
    (ofLeaves (first ++ others)).toValue.child? segment =
      (ofLeaves others).toValue.child? segment := by
  refine child?_toValue_congr plain fun key underSegment => ?_
  refine get?_ofLeaves_of_apart under (fun underName => apart ?_) others
  exact underSegment.unique plain plainName underName

theorem leaves_ne_nil {pairs : List (Tree × Tree)} (nestable : Nestable pairs)
    (nonempty : pairs ≠ []) (parent : String) : leaves parent pairs ≠ [] := by
  induction nestable generalizing parent with
  | nil => exact absurd rfl nonempty
  | leaf segment scalar rest ih =>
    rw [leaves, leavesAt_of_scalar scalar]
    exact List.cons_ne_nil _ _
  | mapping segment nonemptyInner inside rest ihInside ih =>
    rw [leaves, leavesAt]
    intro empty
    exact ihInside nonemptyInner _ (List.append_eq_nil_iff.mp empty).1

/-- The settings below the name of a nested mapping are those of that mapping. -/
private theorem within_ofLeaves {inner others : List (Tree × Tree)} (inside : Nestable inner)
    (rest : Nestable others) {key : Tree} {name : String} (segment : IsSegmentKey key others name) :
    (ofLeaves (leaves name inner ++ leaves "" others)).within name =
      ofLeaves (leaves "" inner) := by
  refine ext_get? fun sought => ?_
  have fresh := get?_ofLeaves_of_fresh rest segment (.inr ⟨sought, rfl⟩)
  rw [get?_within, ofLeaves_append, fresh, Option.none_or, leaves_eq_map inside segment.named]
  exact Dictionary.get?_ofList_map (fun _ _ => (String.append_right_inj _).mp) _ sought

/-! ## Nesting back -/

private theorem child?_of_leaf {others : List (Tree × Tree)} (rest : Nestable others) {key : Tree}
    {name : String} (segment : IsSegmentKey key others name) (text : String) :
    (ofLeaves ((name, text) :: leaves "" others)).toValue.child? name = some (.string text) := by
  have found : (ofLeaves ((name, text) :: leaves "" others)).get? name = some text := by
    have fresh : (Dictionary.ofList (leaves "" others)).get? name = none :=
      get?_ofLeaves_of_fresh rest segment (.inl rfl)
    have whole := Dictionary.get?_ofList_cons (name, text) (leaves "" others) name
    rw [fresh, Option.none_or, if_pos rfl] at whole
    exact whole
  rw [child?_toValue _ segment.plain, found]

private theorem child?_of_mapping {inner others : List (Tree × Tree)} (nonempty : inner ≠ [])
    (inside : Nestable inner) (rest : Nestable others) {key : Tree} {name : String}
    (segment : IsSegmentKey key others name) :
    (ofLeaves (leaves name inner ++ leaves "" others)).toValue.child? name =
      some (ofLeaves (leaves "" inner)).toValue := by
  have absent : (ofLeaves (leaves name inner ++ leaves "" others)).get? name = none := by
    have fresh := get?_ofLeaves_of_fresh rest segment (.inl rfl)
    rw [ofLeaves_append, fresh, Option.none_or]
    refine Dictionary.get?_ofList_of_absent fun entry member same => ?_
    obtain ⟨following, split⟩ := under_of_mem_leavesAt_mapping inside segment.named member
    exact not_isPlain_append name following (split ▸ same ▸ segment.plain)
  have listed : (ofLeaves (leaves "" inner)).toList.isEmpty = false := by
    obtain ⟨entry, more, listed⟩ := List.exists_cons_of_ne_nil (leaves_ne_nil inside nonempty "")
    have present : ((ofLeaves (leaves "" inner)).get? entry.1).isSome = true :=
      Dictionary.isSome_get?_ofList (listed ▸ List.mem_cons_self)
    exact (toList_isEmpty_eq_false_iff _).mpr ⟨entry.1, present⟩
  rw [child?_toValue _ segment.plain, absent, within_ofLeaves inside rest segment]
  simp only [listed, Bool.false_eq_true, if_false]

private theorem ascending_textMembers (pairs : List (Tree × Tree)) :
    Entries.Ascending (textMembers pairs) := by
  induction pairs with
  | nil => rw [textMembers]; exact List.Pairwise.nil
  | cons pair rest ih =>
    obtain ⟨key, value⟩ := pair
    rw [textMembers]
    exact ih.insert _ _

private theorem get?_textMembers_cons {key : Tree} {name : String}
    (written : scalarText? key = some name)
    (value : Tree) (others : List (Tree × Tree)) (sought : String) :
    Entries.get? (textMembers ((key, value) :: others)) sought =
      if sought = name then some (textTree value)
      else Entries.get? (textMembers others) sought := by
  rw [textMembers, written, Option.getD_some, Entries.get?_insert]

private theorem get?_textMembers_of_not_isPlain {pairs : List (Tree × Tree)}
    (nestable : Nestable pairs)
    {sought : String} (split : ¬ IsPlain sought) :
    Entries.get? (textMembers pairs) sought = none := by
  induction nestable with
  | nil => rw [textMembers]; rfl
  | @leaf key value others name text segment scalar rest ih =>
    have apart : sought ≠ name := fun same => split (same.symm ▸ segment.plain)
    rw [get?_textMembers_cons segment.written, ih, if_neg apart]
  | @mapping key inner others name segment nonempty inside rest ihInside ih =>
    have apart : sought ≠ name := fun same => split (same.symm ▸ segment.plain)
    rw [get?_textMembers_cons segment.written, ih, if_neg apart]

private theorem toValue_of_children {pairs : List (Tree × Tree)} (nestable : Nestable pairs)
    (children : ∀ segment, IsPlain segment →
      (ofLeaves (leaves "" pairs)).toValue.child? segment =
        Entries.get? (textMembers pairs) segment) :
    (ofLeaves (leaves "" pairs)).toValue = textTree (.mapping pairs) := by
  rw [textTree]
  exact toValue_eq_object (ascending_textMembers pairs)
    (fun _ split => get?_textMembers_of_not_isPlain nestable split) children

theorem child?_toValue_ofLeaves {pairs : List (Tree × Tree)} (nestable : Nestable pairs)
    {sought : String} (plain : IsPlain sought) :
    (ofLeaves (leaves "" pairs)).toValue.child? sought =
      Entries.get? (textMembers pairs) sought := by
  induction nestable generalizing sought with
  | nil =>
    rw [leaves, textMembers]
    rfl
  | @leaf key value others name text segment scalar rest ih =>
    rw [leaves, segment.written, leavesAt_of_scalar scalar, get?_textMembers_cons segment.written,
      textTree_of_scalar scalar]
    by_cases here : sought = name
    · rw [if_pos here, here]
      exact child?_of_leaf rest segment text
    · rw [if_neg here, ← ih plain]
      refine child?_toValue_of_apart segment.plain plain here ?_ (leaves "" others)
      intro entry member
      rw [List.mem_singleton.mp member]
      exact .inl rfl
  | @mapping key inner others name segment nonempty inside rest ihInside ih =>
    have view := toValue_of_children inside fun _ plainInside => ihInside plainInside
    rw [leaves, segment.written, leavesAt, get?_textMembers_cons segment.written, ← view]
    by_cases here : sought = name
    · rw [if_pos here, here]
      exact child?_of_mapping nonempty inside rest segment
    · rw [if_neg here, ← ih plain]
      refine child?_toValue_of_apart segment.plain plain here ?_ (leaves "" others)
      intro entry member
      exact .inr (under_of_mem_leavesAt_mapping inside segment.named member)

/-- A document whose keys are distinct single segments, whose nested mappings are not empty and
whose leaves are scalars is accepted, and the nested view of its settings is the document with the
text of every leaf in its place. -/
theorem toValue_ofYaml {text : String} {pairs : List (Tree × Tree)}
    (parsed : Tree.ofText? text = some (.mapping pairs)) (nestable : Nestable pairs) :
    ∃ settings, ofYaml text = .ok settings ∧ settings.toValue = textTree (.mapping pairs) := by
  have flattened := flatten_of_nestable nestable empty ""
  refine ⟨ofLeaves (leaves "" pairs), ?_, ?_⟩
  · rw [ofYaml, parsed]
    exact flattened
  · exact toValue_of_children nestable fun _ plain => child?_toValue_ofLeaves nestable plain

theorem ofText?_nested_beside_flag :
    Tree.ofText? "'a': \x7b'c': ~\x7d\n'a-b': true\n" =
      some (.mapping
        [(.string "a", .mapping [(.string "c", .null)]), (.string "a-b", .bool true)]) := by
  have tokens : Token.ofText? "'a': \x7b'c': ~\x7d\n'a-b': true\n" =
      some [.blockMappingStart, .key, .scalar .singleQuoted "a", .value, .flowMappingStart, .key,
        .scalar .singleQuoted "c", .value, .scalar .plain "~", .flowMappingEnd, .key,
        .scalar .singleQuoted "a-b", .value, .scalar .plain "true", .blockEnd] := by
    decide +kernel
  rw [Tree.ofText?, Document.ofText?, tokens]
  cbv

/-- A nested mapping, and beside it a key that comes between the mapping's name and its members. -/
theorem toValue_ofYaml_nested_beside_flag :
    ∃ settings, ofYaml "'a': \x7b'c': ~\x7d\n'a-b': true\n" = .ok settings ∧
      settings.toValue = .object [("a", .object [("c", .string "")]), ("a-b", .string "true")] := by
  have inside : Nestable [(.string "c", .null)] :=
    .leaf ⟨rfl, by decide, by decide, by decide⟩ rfl .nil
  have flag : Nestable [(.string "a-b", .bool true)] :=
    .leaf ⟨rfl, by decide, by decide, by decide⟩ rfl .nil
  have document :
      Nestable [(.string "a", .mapping [(.string "c", .null)]), (.string "a-b", .bool true)] :=
    .mapping ⟨rfl, by decide, by decide, by decide⟩ (List.cons_ne_nil _ _) inside flag
  exact toValue_ofYaml ofText?_nested_beside_flag document

end Stencil.Settings
