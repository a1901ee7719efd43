import Mathlib.Data.List.Nodup
import Stencil.Proofs.Settings.Nesting
import Stencil.Proofs.Value.Walking

/-!
# What the nested view shows of the settings

A dotted name leads to the text of its setting, to an object or nowhere, and the settings tell
which. The leaves of the view are the settings that no shorter setting hides, each of them once:
nothing else is left out, changed or added.
-/

set_option autoImplicit false

namespace Stencil

/-! ## Leaves of a value -/

namespace Value

mutual

/-- What a value holds that is no object, each with the keys on the way to it. -/
def leaves : Value → List (List String × Value)
  | .object members => memberLeaves members
  | leaf => [([], leaf)]

def memberLeaves : List (String × Value) → List (List String × Value)
  | [] => []
  | (key, member) :: rest =>
    ((leaves member).map fun leaf => (key :: leaf.1, leaf.2)) ++ memberLeaves rest

end

private theorem memberLeaves_eq_flatMap (members : List (String × Value)) :
    memberLeaves members =
      members.flatMap fun entry => entry.2.leaves.map fun leaf => (entry.1 :: leaf.1, leaf.2) := by
  induction members with
  | nil => simp only [memberLeaves, List.flatMap_nil]
  | cons entry rest ih => simp only [memberLeaves, List.flatMap_cons, ih]

/-- Texts, and objects whose keys are single segments in ascending order and whose members are of
the same sort. -/
inductive IsNested : Value → Prop where
  | text (text : String) : IsNested (.string text)
  | object {members : Entries Value} (ascending : members.Ascending)
      (plain : ∀ key member, members.get? key = some member → Text.IsPlain key)
      (inside : ∀ key member, members.get? key = some member → IsNested member) :
      IsNested (.object members)

namespace IsNested

variable {value leaf : Value} {path : List String}

/-- The leaves are the texts that a walk can end at. -/
theorem mem_leaves_iff (nested : IsNested value) :
    (path, leaf) ∈ value.leaves ↔ (∃ text, leaf = .string text) ∧ value.walk path = .ok leaf := by
  induction nested generalizing path with
  | text text =>
    rw [leaves, List.mem_singleton, Prod.mk.injEq]
    · constructor
      · intro same
        obtain ⟨rfl, rfl⟩ := same
        exact ⟨⟨text, rfl⟩, rfl⟩
      · intro reached
        cases path with
        | nil => exact ⟨rfl, (Except.ok.inj reached.2).symm⟩
        | cons segment rest => cases reached.2
    · nofun
  | @object members ascending plain inside ih =>
    rw [leaves, memberLeaves_eq_flatMap]
    simp only [List.mem_flatMap, List.mem_map, Prod.mk.injEq]
    constructor
    · intro listed
      obtain ⟨⟨key, member⟩, among, ⟨rest, other⟩, below, rfl, rfl⟩ := listed
      have child : (Value.object members).child? key = some member := ascending.get?_of_mem among
      obtain ⟨isText, leads⟩ := (ih key member child).mp below
      exact ⟨isText, (walk_cons_of_child? child rest).trans leads⟩
    · intro reached
      obtain ⟨⟨text, rfl⟩, leads⟩ := reached
      cases path with
      | nil => cases leads
      | cons key rest =>
        obtain ⟨member, child⟩ := exists_child_of_walk_cons leads
        rw [walk_cons_of_child? child] at leads
        have below := (ih key member child).mpr ⟨⟨text, rfl⟩, leads⟩
        exact ⟨(key, member), Entries.mem_of_get? child, (rest, .string text), below, rfl, rfl⟩

theorem nodup_paths (nested : IsNested value) : (value.leaves.map Prod.fst).Nodup := by
  induction nested with
  | text text =>
    rw [leaves]
    · exact List.nodup_singleton []
    · nofun
  | @object members ascending plain inside ih =>
    rw [leaves, memberLeaves_eq_flatMap, List.map_flatMap, List.nodup_flatMap]
    constructor
    · intro entry among
      have below := ih entry.1 entry.2 (ascending.get?_of_mem among)
      have paths := below.map (List.cons_injective (a := entry.1))
      rwa [List.map_map] at paths ⊢
    · -- Members stand under different keys, so their paths differ in the first segment.
      refine (List.pairwise_map.mp ascending).imp ?_
      intro left right less path inLeft inRight
      simp only [List.map_map, List.mem_map, Function.comp_apply] at inLeft inRight
      obtain ⟨leftLeaf, -, rfl⟩ := inLeft
      obtain ⟨rightLeaf, -, same⟩ := inRight
      rw [(List.cons.inj same).1] at less
      exact String.lt_irrefl _ less

private theorem plain_of_walk (nested : IsNested value) (leads : value.walk path = .ok leaf) :
    ∀ segment ∈ path, Text.IsPlain segment := by
  induction path generalizing value with
  | nil => nofun
  | cons segment rest ih =>
    obtain ⟨member, child⟩ := exists_child_of_walk_cons leads
    rw [walk_cons_of_child? child] at leads
    cases nested with
    | text => cases child
    | object ascending plain inside =>
      have below := ih (inside segment member child) leads
      exact List.forall_mem_cons.mpr ⟨plain segment member child, below⟩

end IsNested

end Value

namespace Settings

open Text Value

/-! ## The nested view is a tree of texts -/

private theorem isNested_empty : IsNested (.object []) :=
  .object List.Pairwise.nil nofun nofun

private theorem isNested_graft {text : String} {tail : List String} {member : Option Value}
    (kept : ∀ value ∈ member, IsNested value)
    (nested : ∀ inner : Entries Value, IsNested (.object inner) →
      IsNested (.object (nest inner text tail))) :
    IsNested (graft text member tail) := by
  cases member with
  | none =>
    cases tail with
    | nil => exact .text text
    | cons segment rest => exact nested [] isNested_empty
  | some value =>
    have whole := kept value rfl
    cases tail with
    | nil => cases value <;> exact whole
    | cons segment rest =>
      cases value with
      | object inner => exact nested inner whole
      | null | bool | number | string | array => exact whole

private theorem isNested_nest {members : Entries Value} (nested : IsNested (.object members))
    (text : String) {path : List String} (plainPath : ∀ segment ∈ path, IsPlain segment) :
    IsNested (.object (nest members text path)) := by
  induction path generalizing members with
  | nil => exact nested
  | cons head tail ih =>
    obtain ⟨plainHead, plainTail⟩ := List.forall_mem_cons.mp plainPath
    cases nested with
    | object ascending plain inside =>
      have grafted : IsNested (graft text (members.get? head) tail) :=
        isNested_graft (fun value found => inside head value found)
          fun inner whole => ih whole plainTail
      refine .object (ascending_nest ascending text (head :: tail)) ?_ ?_
      · intro key member found
        rw [get?_nest] at found
        split at found
        case isTrue same => exact same ▸ plainHead
        case isFalse => exact plain key member found
      · intro key member found
        rw [get?_nest] at found
        split at found
        case isTrue => exact Option.some.inj found ▸ grafted
        case isFalse => exact inside key member found

private theorem isNested_nestAll {members : Entries Value} (nested : IsNested (.object members))
    (entries : Entries String) : IsNested (.object (nestAll members entries)) := by
  induction entries generalizing members with
  | nil => exact nested
  | cons entry rest ih =>
    exact ih (isNested_nest nested entry.2 fun _ member => isPlain_of_mem_segments member)

theorem isNested_toValue (settings : Settings) : IsNested settings.toValue :=
  isNested_nestAll isNested_empty settings.values.entries

/-! ## Where a dotted name leads -/

section Outcomes

variable {settings : Settings} {name : String}

private theorem walk_eq_string_iff {text : String} :
    settings.toValue.walk (segments name) = .ok (.string text) ↔
      settings.get? name = some text ∧ ¬ settings.Shadowed name := by
  have shows := settings.shows_walk name
  constructor
  · intro leads
    rw [leads] at shows
    cases shows with
    | setting visible found => exact ⟨found, visible⟩
  · intro visible
    exact shows.eq_of_setting visible.2 visible.1

private theorem exists_walk_eq_object_iff :
    (∃ members, settings.toValue.walk (segments name) = .ok (.object members)) ↔
      settings.get? name = none ∧ ¬ settings.Shadowed name ∧ settings.HasBelow name := by
  have shows := settings.shows_walk name
  constructor
  · intro leads
    obtain ⟨members, leads⟩ := leads
    generalize settings.toValue.walk (segments name) = outcome at shows leads
    cases shows with
    | subtree visible absent below => exact ⟨absent, visible, below⟩
    | hidden | setting | missing => cases leads
  · intro inside
    obtain ⟨absent, visible, below⟩ := inside
    exact ⟨_, shows.eq_of_below visible absent below⟩

private theorem exists_walk_eq_error_iff :
    (∃ blamed, settings.toValue.walk (segments name) = .error blamed) ↔
      settings.Shadowed name ∨ (settings.get? name = none ∧ ¬ settings.HasBelow name) := by
  have shows := settings.shows_walk name
  constructor
  · intro fails
    obtain ⟨blamed, fails⟩ := fails
    rw [fails] at shows
    cases shows with
    | hidden shadowed => exact .inl shadowed
    | missing visible absent nothing => exact .inr ⟨absent, nothing⟩
  · intro nowhere
    cases nowhere with
    | inl shadowed => exact shows.exists_error_of_shadowed shadowed
    | inr missing => exact shows.exists_error_of_missing missing.1 missing.2

end Outcomes

/-- The leaves of the nested view are the settings that no shorter setting hides. -/
theorem mem_leaves_toValue_iff {settings : Settings} {path : List String} {leaf : Value} :
    (path, leaf) ∈ settings.toValue.leaves ↔
      ∃ name text, path = segments name ∧ leaf = .string text ∧
        settings.get? name = some text ∧ ¬ settings.Shadowed name := by
  have nested := isNested_toValue settings
  rw [nested.mem_leaves_iff]
  constructor
  · intro reached
    obtain ⟨⟨text, rfl⟩, leads⟩ := reached
    have some : path ≠ [] := by
      intro empty
      subst empty
      cases leads
    have split := segments_dotted some (nested.plain_of_walk leads)
    rw [← split] at leads
    exact ⟨dotted path, text, split.symm, rfl, walk_eq_string_iff.mp leads⟩
  · intro visible
    obtain ⟨name, text, rfl, rfl, visible⟩ := visible
    exact ⟨⟨text, rfl⟩, walk_eq_string_iff.mpr visible⟩

/-- A dotted name leads to the text of its setting exactly when no shorter setting hides it, to an
object exactly when it is no setting, is not hidden and some setting lies below it, and nowhere
otherwise. The leaves of the view are the settings that are not hidden, each of them once. -/
theorem resolvePath_toValue (settings : Settings) :
    (∀ name : String,
      let outcome := settings.toValue.resolvePath (segments name)
      (∀ text, outcome = .ok (.string text) ↔
        settings.get? name = some text ∧ ¬ settings.Shadowed name) ∧
      ((∃ members, outcome = .ok (.object members)) ↔
        settings.get? name = none ∧ ¬ settings.Shadowed name ∧ settings.HasBelow name) ∧
      ((∃ error, outcome = .error error) ↔
        settings.Shadowed name ∨ (settings.get? name = none ∧ ¬ settings.HasBelow name))) ∧
    (settings.toValue.leaves.map Prod.fst).Nodup ∧
    ∀ path leaf, (path, leaf) ∈ settings.toValue.leaves ↔
      ∃ name text, path = segments name ∧ leaf = .string text ∧
        settings.get? name = some text ∧ ¬ settings.Shadowed name := by
  refine ⟨fun name => ⟨fun text => ?_, ?_, ?_⟩, (isNested_toValue settings).nodup_paths, ?_⟩
  · exact resolvePath_eq_ok_iff.trans walk_eq_string_iff
  · simp only [resolvePath_eq_ok_iff]
    exact exists_walk_eq_object_iff
  · refine Iff.trans ?_ exists_walk_eq_error_iff
    constructor
    · intro fails
      obtain ⟨error, fails⟩ := fails
      exact ⟨error.segment, (resolvePath_eq_error_iff.mp fails).1⟩
    · intro fails
      obtain ⟨blamed, fails⟩ := fails
      exact ⟨⟨blamed, segments name⟩, resolvePath_eq_error_iff.mpr ⟨fails, rfl⟩⟩
  · intro path leaf
    exact mem_leaves_toValue_iff

-- The shorter key hides the longer one, whatever comes between the two in the order of keys.
example : (Settings.mk (.ofList [("a.b", "1"), ("a-b", "2"), ("a", "3")])).toValue.leaves =
    [(["a"], .string "3"), (["a-b"], .string "2")] := by
  rfl

end Settings

end Stencil
