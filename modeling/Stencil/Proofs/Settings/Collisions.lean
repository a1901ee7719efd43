import Mathlib
import Stencil.Proofs.Settings.Acceptance

/-!
# Leaves with one key

Whether a dot is put before a key is decided by the text of the prefix, and the prefix is empty
below an empty key as well as at the top. So leaves at different places have one key when their
places differ in the empty key texts in front, and then a setting is lost. Otherwise there are as
many settings as leaves.
-/

set_option autoImplicit false

namespace Stencil

namespace Dictionary

variable {α : Type}

theorem nodup_keys (dictionary : Dictionary α) : dictionary.keys.Nodup := by
  refine dictionary.ascending.imp ?_
  intro left right less same
  rw [same] at less
  exact String.lt_irrefl right less

theorem size_ofList (entries : List (String × α)) :
    (ofList entries).size = (entries.map Prod.fst).dedup.length := by
  have same : (ofList entries).keys.Perm (entries.map Prod.fst).dedup := by
    rw [List.perm_ext_iff_of_nodup (nodup_keys _) (List.nodup_dedup _)]
    intro key
    rw [mem_keys_ofList_iff, List.mem_dedup]
  rw [← same.length_eq]
  exact (List.length_map _).symm

/-- As many keys as entries are listed exactly when no key is listed twice. -/
theorem size_ofList_eq_length_iff {entries : List (String × α)} :
    (ofList entries).size = entries.length ↔ (entries.map Prod.fst).Nodup := by
  have length : entries.length = (entries.map Prod.fst).length :=
    (List.length_map _).symm
  rw [size_ofList, length, ← List.dedup_eq_self]
  constructor
  · exact (List.dedup_sublist _).eq_of_length
  · intro same
    rw [same]

end Dictionary

namespace Settings

open Yaml Text

/-! ## Distinct keys -/

/-- At every depth the texts of the keys are single segments, and siblings have different ones. -/
inductive KeysApart : List (Tree × Tree) → Prop where
  | nil : KeysApart []
  | cons {key value : Tree} {others : List (Tree × Tree)}
      (plain : ∀ name, scalarText? key = some name → IsPlain name)
      (fresh : ∀ name, scalarText? key = some name →
        ∀ pair ∈ others, scalarText? pair.1 ≠ some name)
      (inside : ∀ inner, value = .mapping inner → KeysApart inner)
      (rest : KeysApart others) : KeysApart ((key, value) :: others)

/-- The texts of the keys on the way to each leaf, in document order. -/
def places (pairs : List (Tree × Tree)) : List (List String) :=
  (placedLeaves pairs).map Prod.fst

theorem places_leaf {key value : Tree} {name text : String} (keyed : IsKey key name)
    (scalar : scalarText? value = some text) (others : List (Tree × Tree)) :
    places ((key, value) :: others) = [name] :: places others := by
  rw [places, placedLeaves, keyed.written, placedLeavesAt_of_scalar scalar]
  rfl

theorem places_mapping {key : Tree} {name : String} (keyed : IsKey key name)
    (inner others : List (Tree × Tree)) :
    places ((key, .mapping inner) :: others) =
      (places inner).map (List.cons name) ++ places others := by
  rw [places, placedLeaves, keyed.written, placedLeavesAt, List.map_append, List.map_map, places,
    List.map_map]
  rfl

/-- A place starts with the text of a key, and goes on only where that key has a mapping. -/
private theorem exists_key_of_mem_places {pairs : List (Tree × Tree)}
    (acceptable : Acceptable pairs)
    {place : List String} (member : place ∈ places pairs) :
    ∃ pair ∈ pairs, ∃ name rest, place = name :: rest ∧ scalarText? pair.1 = some name ∧
      (rest = [] ∨ ∃ inner, pair.2 = .mapping inner) := by
  induction acceptable with
  | nil => cases member
  | leaf keyed scalar rest ih =>
    rw [places_leaf keyed scalar] at member
    cases List.mem_cons.mp member with
    | inl here => exact ⟨_, List.mem_cons_self, _, [], here, keyed.written, .inl rfl⟩
    | inr later =>
      obtain ⟨pair, among, found⟩ := ih later
      exact ⟨pair, List.mem_cons_of_mem _ among, found⟩
  | mapping keyed inside rest ihInside ih =>
    rw [places_mapping keyed] at member
    cases List.mem_append.mp member with
    | inl here =>
      obtain ⟨deeper, -, split⟩ := List.mem_map.mp here
      exact ⟨_, List.mem_cons_self, _, deeper, split.symm, keyed.written, .inr ⟨_, rfl⟩⟩
    | inr later =>
      obtain ⟨pair, among, found⟩ := ih later
      exact ⟨pair, List.mem_cons_of_mem _ among, found⟩

private theorem cons_not_mem_places {others : List (Tree × Tree)} (acceptable : Acceptable others)
    {name : String} (fresh : ∀ pair ∈ others, scalarText? pair.1 ≠ some name)
    (rest : List String) : name :: rest ∉ places others := by
  intro member
  obtain ⟨pair, among, other, following, split, written, -⟩ :=
    exists_key_of_mem_places acceptable member
  rw [(List.cons.inj split).1] at fresh
  exact fresh pair among written

theorem nodup_places {pairs : List (Tree × Tree)} (acceptable : Acceptable pairs)
    (apart : KeysApart pairs) : (places pairs).Nodup := by
  induction acceptable with
  | nil => exact List.nodup_nil
  | leaf keyed scalar acceptable ih =>
    cases apart with
    | cons plain fresh inside rest =>
      rw [places_leaf keyed scalar]
      have absent := cons_not_mem_places acceptable (fresh _ keyed.written) []
      exact List.nodup_cons.mpr ⟨absent, ih rest⟩
  | mapping keyed nested acceptable ihInside ih =>
    cases apart with
    | cons plain fresh inside rest =>
      rw [places_mapping keyed]
      refine List.Nodup.append ((ihInside (inside _ rfl)).map List.cons_injective) (ih rest) ?_
      intro place here later
      obtain ⟨deeper, -, rfl⟩ := List.mem_map.mp here
      exact cons_not_mem_places acceptable (fresh _ keyed.written) deeper later

theorem plain_of_mem_places {pairs : List (Tree × Tree)} (acceptable : Acceptable pairs)
    (apart : KeysApart pairs) {place : List String} (member : place ∈ places pairs) :
    ∀ segment ∈ place, IsPlain segment := by
  induction acceptable generalizing place with
  | nil => cases member
  | leaf keyed scalar acceptable ih =>
    cases apart with
    | cons plain fresh inside rest =>
      rw [places_leaf keyed scalar] at member
      cases List.mem_cons.mp member with
      | inl here =>
        rw [here]
        exact List.forall_mem_singleton.mpr (plain _ keyed.written)
      | inr later => exact ih rest later
  | mapping keyed nested acceptable ihInside ih =>
    cases apart with
    | cons plain fresh inside rest =>
      rw [places_mapping keyed] at member
      cases List.mem_append.mp member with
      | inl here =>
        obtain ⟨deeper, below, rfl⟩ := List.mem_map.mp here
        exact List.forall_mem_cons.mpr ⟨plain _ keyed.written, ihInside (inside _ rfl) below⟩
      | inr later => exact ih rest later

/-! ## Places with one key -/

theorem settingKey_eq_empty_iff {path : List String} :
    settingKey path = "" ↔ path.dropWhile String.isEmpty = [] := by
  rw [settingKey]
  cases dropped : path.dropWhile String.isEmpty with
  | nil => exact ⟨fun _ => rfl, fun _ => rfl⟩
  | cons head rest =>
    constructor
    · intro empty
      exact absurd empty (dotted_cons_ne_empty (head_ne_empty_of_dropWhile dropped) rest)
    · nofun

theorem segments_settingKey {path : List String} (plain : ∀ segment ∈ path, IsPlain segment)
    (named : settingKey path ≠ "") :
    segments (settingKey path) = path.dropWhile String.isEmpty := by
  refine segments_dotted (fun empty => named (settingKey_eq_empty_iff.mpr empty)) ?_
  intro segment member
  exact plain segment ((List.dropWhile_suffix _).subset member)

/-- Two places have one key exactly when they differ in the empty texts in front at most. -/
theorem settingKey_eq_iff {left right : List String} (plainLeft : ∀ segment ∈ left, IsPlain segment)
    (plainRight : ∀ segment ∈ right, IsPlain segment) :
    settingKey left = settingKey right ↔
      left.dropWhile String.isEmpty = right.dropWhile String.isEmpty := by
  constructor
  · intro same
    by_cases empty : settingKey left = ""
    · rw [settingKey_eq_empty_iff.mp empty, settingKey_eq_empty_iff.mp (same.symm.trans empty)]
    · rw [← segments_settingKey plainLeft empty, same,
        segments_settingKey plainRight (same ▸ empty)]
  · intro same
    rw [settingKey, same, settingKey]

/-- No mapping stands under an empty key at the top. -/
def NamedAtTop (pairs : List (Tree × Tree)) : Prop :=
  ∀ pair ∈ pairs, scalarText? pair.1 = some "" → ∀ inner, pair.2 ≠ .mapping inner

private theorem eq_or_dropWhile_of_mem_places {pairs : List (Tree × Tree)}
    (acceptable : Acceptable pairs)
    (named : NamedAtTop pairs) {place : List String} (member : place ∈ places pairs) :
    place = [""] ∨ (place ≠ [] ∧ place.dropWhile String.isEmpty = place) := by
  obtain ⟨pair, among, name, rest, rfl, written, goesOn⟩ :=
    exists_key_of_mem_places acceptable member
  by_cases empty : name = ""
  · subst empty
    cases goesOn with
    | inl ends => exact .inl (ends ▸ rfl)
    | inr deeper =>
      obtain ⟨inner, nested⟩ := deeper
      exact absurd nested (named pair among written inner)
  · refine .inr ⟨List.cons_ne_nil name rest, List.dropWhile_cons_of_neg ?_⟩
    rwa [String.isEmpty_iff]

private theorem eq_of_dropWhile_eq {pairs : List (Tree × Tree)} (acceptable : Acceptable pairs)
    (named : NamedAtTop pairs) {left right : List String} (memberLeft : left ∈ places pairs)
    (memberRight : right ∈ places pairs)
    (same : left.dropWhile String.isEmpty = right.dropWhile String.isEmpty) : left = right := by
  obtain rfl | ⟨someLeft, keptLeft⟩ := eq_or_dropWhile_of_mem_places acceptable named memberLeft
  · obtain rfl | ⟨someRight, keptRight⟩ :=
      eq_or_dropWhile_of_mem_places acceptable named memberRight
    · rfl
    · exact absurd (keptRight.symm.trans same.symm) someRight
  · obtain rfl | ⟨someRight, keptRight⟩ :=
      eq_or_dropWhile_of_mem_places acceptable named memberRight
    · exact absurd (keptLeft.symm.trans same) someLeft
    · rw [← keptLeft, same, keptRight]

/-! ## A mapping beside a leaf -/

private theorem acceptable_beside (outer inner other : String) :
    Acceptable
      [(.string outer, .mapping [(.string inner, .null)]), (.string other, .bool true)] := by
  have keyed (name : String) : IsKey (.string name) name := ⟨rfl, nofun⟩
  exact .mapping (keyed outer) (.leaf (keyed inner) rfl .nil) (.leaf (keyed other) rfl .nil)

private theorem keysApart_single {name : String} {leaf : Tree} (plain : IsPlain name)
    (ends : ∀ inner, leaf ≠ .mapping inner) : KeysApart [(.string name, leaf)] := by
  refine .cons ?_ ?_ ?_ .nil
  · intro text written
    exact Option.some.inj written ▸ plain
  · intro text written
    exact List.forall_mem_nil _
  · intro inner same
    exact absurd same (ends inner)

private theorem keysApart_beside {outer inner other : String} (plainOuter : IsPlain outer)
    (plainInner : IsPlain inner) (plainOther : IsPlain other) (apart : other ≠ outer) :
    KeysApart
      [(.string outer, .mapping [(.string inner, .null)]), (.string other, .bool true)] := by
  refine .cons ?_ ?_ ?_ (keysApart_single plainOther fun _ same => by cases same)
  · intro text written
    exact Option.some.inj written ▸ plainOuter
  · intro text written
    refine List.forall_mem_singleton.mpr fun same => apart ?_
    exact Option.some.inj (same.trans written.symm)
  · intro pairs same
    cases same
    exact keysApart_single plainInner fun _ same => by cases same

/-! ## The number of settings -/

private theorem ofYaml_of_acceptable {text : String} {pairs : List (Tree × Tree)}
    (parsed : Tree.ofText? text = some (.mapping pairs)) (acceptable : Acceptable pairs) :
    ofYaml text = .ok (ofLeaves (settingLeaves (.mapping pairs))) := by
  rw [ofYaml, parsed]
  exact flatten_empty acceptable

private theorem acceptable_of_ofYaml {text : String} {pairs : List (Tree × Tree)}
    {settings : Settings}
    (parsed : Tree.ofText? text = some (.mapping pairs)) (accepted : ofYaml text = .ok settings) :
    Acceptable pairs ∧ settings = ofLeaves (settingLeaves (.mapping pairs)) := by
  rw [ofYaml, parsed] at accepted
  refine ⟨?_, eq_ofLeaves_of_ofTree accepted⟩
  cases exists_ofTree_iff.mp ⟨settings, accepted⟩ with
  | mapping acceptable => exact acceptable

private theorem map_fst_settingLeaves (pairs : List (Tree × Tree)) :
    (settingLeaves (.mapping pairs)).map Prod.fst = (places pairs).map settingKey := by
  rw [settingLeaves, places, List.map_map, List.map_map]
  rfl

/-- No setting is lost exactly when no two places differ in the empty texts in front alone. -/
theorem size_settingLeaves_eq_iff {pairs : List (Tree × Tree)} (acceptable : Acceptable pairs)
    (apart : KeysApart pairs) :
    (ofLeaves (settingLeaves (.mapping pairs))).values.size = (places pairs).length ↔
      ∀ left ∈ places pairs, ∀ right ∈ places pairs,
        left.dropWhile String.isEmpty = right.dropWhile String.isEmpty → left = right := by
  have plain {place : List String} (member : place ∈ places pairs) :
      ∀ segment ∈ place, IsPlain segment :=
    plain_of_mem_places acceptable apart member
  have length : (settingLeaves (.mapping pairs)).length = (places pairs).length := by
    rw [settingLeaves, places, List.length_map, List.length_map]
  rw [← length, ofLeaves, Dictionary.size_ofList_eq_length_iff, map_fst_settingLeaves,
    List.nodup_map_iff_inj_on (nodup_places acceptable apart)]
  constructor
  · intro injective left memberLeft right memberRight same
    have sameKey := (settingKey_eq_iff (plain memberLeft) (plain memberRight)).mpr same
    exact injective left memberLeft right memberRight sameKey
  · intro determined left memberLeft right memberRight sameKey
    have same := (settingKey_eq_iff (plain memberLeft) (plain memberRight)).mp sameKey
    exact determined left memberLeft right memberRight same

/-- The leaves of an accepted document have different places, and its settings are the keys of these
places. Two places have one key exactly when they differ in the empty key texts in front at most, so
there are as many settings as leaves exactly when no two places differ in these alone. That is so
where no mapping stands under an empty key at the top. -/
theorem size_ofYaml {text : String} {pairs : List (Tree × Tree)} {settings : Settings}
    (parsed : Tree.ofText? text = some (.mapping pairs)) (accepted : ofYaml text = .ok settings)
    (apart : KeysApart pairs) :
    (places pairs).Nodup ∧
    (∀ key, (settings.get? key).isSome = true ↔ ∃ place ∈ places pairs, settingKey place = key) ∧
    (∀ left ∈ places pairs, ∀ right ∈ places pairs, settingKey left = settingKey right ↔
      left.dropWhile String.isEmpty = right.dropWhile String.isEmpty) ∧
    (settings.values.size = (places pairs).length ↔
      ∀ left ∈ places pairs, ∀ right ∈ places pairs,
        left.dropWhile String.isEmpty = right.dropWhile String.isEmpty → left = right) ∧
    (NamedAtTop pairs → settings.values.size = (places pairs).length) := by
  obtain ⟨acceptable, rfl⟩ := acceptable_of_ofYaml parsed accepted
  have counted := size_settingLeaves_eq_iff acceptable apart
  refine ⟨nodup_places acceptable apart, ?_, ?_, counted, ?_⟩
  · intro key
    rw [← List.mem_map, ← map_fst_settingLeaves, ← Dictionary.mem_keys_ofList_iff]
    exact Dictionary.mem_keys_iff.symm
  · intro left memberLeft right memberRight
    exact settingKey_eq_iff (plain_of_mem_places acceptable apart memberLeft)
      (plain_of_mem_places acceptable apart memberRight)
  · intro named
    refine counted.mpr fun left memberLeft right memberRight same => ?_
    exact eq_of_dropWhile_eq acceptable named memberLeft memberRight same

/-- The leaves of a nested mapping and of a flag beside it are two settings. -/
theorem size_ofYaml_nested_beside_flag :
    ∃ settings, ofYaml "'a': \x7b'c': ~\x7d\n'a-b': true\n" = .ok settings ∧
      settings.values.size = 2 := by
  have accepted :=
    ofYaml_of_acceptable ofText?_nested_beside_flag (acceptable_beside "a" "c" "a-b")
  have apart := @keysApart_beside "a" "c" "a-b" (by decide) (by decide) (by decide) (by decide)
  have named : NamedAtTop
      [(.string "a", .mapping [(.string "c", .null)]), (.string "a-b", .bool true)] := by
    intro pair among empty
    simp only [List.mem_cons, List.not_mem_nil, or_false] at among
    obtain rfl | rfl := among <;> exact absurd empty (by decide)
  obtain ⟨-, -, -, -, counted⟩ := size_ofYaml ofText?_nested_beside_flag accepted apart
  exact ⟨_, accepted, counted named⟩

private theorem ofText?_empty_key_beside :
    Tree.ofText? "'': \x7b'a': ~\x7d\n'a': true\n" =
      some (.mapping
        [(.string "", .mapping [(.string "a", .null)]), (.string "a", .bool true)]) := by
  have tokens : Token.ofText? "'': \x7b'a': ~\x7d\n'a': true\n" =
      some [.blockMappingStart, .key, .scalar .singleQuoted "", .value, .flowMappingStart, .key,
        .scalar .singleQuoted "a", .value, .scalar .plain "~", .flowMappingEnd, .key,
        .scalar .singleQuoted "a", .value, .scalar .plain "true", .blockEnd] := by
    decide +kernel
  rw [Tree.ofText?, Document.ofText?, tokens]
  cbv

/-- A leaf below an empty key and one beside it have the same key, and one setting is left of the
two. -/
theorem not_forall_size_ofYaml :
    ¬ ∀ (text : String) (pairs : List (Tree × Tree)) (settings : Settings),
      Tree.ofText? text = some (.mapping pairs) → ofYaml text = .ok settings → KeysApart pairs →
        settings.values.size = (places pairs).length := by
  intro every
  have accepted := ofYaml_of_acceptable ofText?_empty_key_beside (acceptable_beside "" "a" "a")
  have apart := @keysApart_beside "" "a" "a" (by decide) (by decide) (by decide) (by decide)
  have size := every _ _ _ ofText?_empty_key_beside accepted apart
  exact absurd size (by decide)

end Settings

end Stencil
