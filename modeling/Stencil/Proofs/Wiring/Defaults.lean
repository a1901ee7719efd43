import Mathlib.Logic.Relation
import Stencil.Proofs.Wiring.Fields
import Stencil.Proofs.Wiring.Written

/-!
# Defaults in values

A field with a default may be left out of a value or written out, in the configuration itself and in
the source of any token, by name or at the end of a list; the configuration is the same.
-/

set_option autoImplicit false

namespace Stencil

open Yaml

/-! ### Sources -/

private theorem Entries.ne_of_absent {α : Type} {entries : Entries α} {key : String}
    (absent : entries.get? key = none) {entry : String × α} (member : entry ∈ entries) :
    entry.1 ≠ key := by
  intro same
  have present := mem_keys_iff.mp (List.mem_map_of_mem member)
  rw [same, contains, absent] at present
  cases present

/-- A new key is set by one more entry among the others. -/
private theorem Entries.exists_insert {α : Type} {entries : Entries α} {key : String}
    (absent : entries.get? key = none) (value : α) :
    ∃ before after, entries = before ++ after ∧
      entries.insert key value = before ++ (key, value) :: after := by
  have missing : entries.contains key = false := by
    rw [contains, absent]
    rfl
  have placed : entries.insert key value = entries.place key value := by
    rw [insert, missing]
    rfl
  rw [placed]
  clear placed missing absent
  induction entries with
  | nil => exact ⟨[], [], rfl, rfl⟩
  | cons entry rest ih =>
    obtain ⟨candidate, old⟩ := entry
    rw [place]
    split
    case isTrue => exact ⟨[], (candidate, old) :: rest, rfl, rfl⟩
    case isFalse =>
      obtain ⟨before, after, split, placed⟩ := ih
      exact ⟨(candidate, old) :: before, after, congrArg _ split, congrArg _ placed⟩

namespace Value

private theorem toPairs_append (before after : List (String × Value)) :
    toPairs (before ++ after) = toPairs before ++ toPairs after := by
  induction before with
  | nil => rfl
  | cons entry rest ih =>
    obtain ⟨key, value⟩ := entry
    rw [List.cons_append, toPairs, toPairs, ih, List.cons_append]

private theorem toItems_append (before after : List Value) :
    toItems (before ++ after) = toItems before ++ toItems after := by
  induction before with
  | nil => rfl
  | cons item rest ih => rw [List.cons_append, toItems, toItems, ih, List.cons_append]

private theorem length_toItems (items : List Value) : (toItems items).length = items.length := by
  induction items with
  | nil => rfl
  | cons item rest ih => rw [toItems, List.length_cons, List.length_cons, ih]

/-- Keys are texts, so the name alone can be in the way. -/
private theorem leavesOut_toPairs {members : List (String × Value)} {name : String} (index : Nat)
    (absent : ∀ entry ∈ members, entry.1 ≠ name) :
    SourceFields.LeavesOut name index (toPairs members) := by
  induction members with
  | nil => exact .nil name index
  | cons entry rest ih =>
    obtain ⟨key, value⟩ := entry
    obtain ⟨first, others⟩ := List.forall_mem_cons.mp absent
    rw [toPairs]
    refine List.forall_mem_cons.mpr ⟨⟨?_, ?_⟩, ih others⟩
    · exact fun same => first (Tree.string.inj same)
    · intro wrong
      cases wrong

end Value

namespace TokenSource

/-- The second value of a source is the first with a default written out. -/
inductive WritesDefault : Value → Value → Prop
  | named {kind name : String} {index : Nat} {value : Value} {members : Entries Value}
      (default : DefaultMember kind name index value.toTree)
      (absent : members.get? name = none) :
      WritesDefault (.object members) (.object (members.insert name value))
  | listed {kind name : String} {index : Nat} {value : Value} {items : List Value}
      (default : DefaultMember kind name index value.toTree) (reached : items.length = index) :
      WritesDefault (.array (.string kind :: items)) (.array (.string kind :: items ++ [value]))

private theorem DefaultMember.ne_kind {kind name : String} {index : Nat} {tree : Tree}
    (default : DefaultMember kind name index tree) : name ≠ "kind" := by
  cases default <;> decide

theorem WritesDefault.sourceOfValue?_eq {short long : Value} (writes : WritesDefault short long) :
    TokenConfig.sourceOfValue? long = TokenConfig.sourceOfValue? short := by
  cases writes with
  | @named kind name index value members default absent =>
    have sameKind : (members.insert name value).get? "kind" = members.get? "kind" :=
      Entries.get?_insert_other default.ne_kind.symm
    obtain ⟨before, after, split, inserted⟩ := Entries.exists_insert absent value
    -- The other fields are those of the entries around the new one, less the kind.
    have rest : Entries.erase members "kind" =
        Entries.erase before "kind" ++ Entries.erase after "kind" := by
      rw [split]
      exact List.filter_append ..
    have whole : Entries.erase (members.insert name value) "kind" =
        Entries.erase before "kind" ++ (name, value) :: Entries.erase after "kind" := by
      rw [inserted]
      refine (List.filter_append ..).trans (congrArg _ (List.filter_cons_of_pos ?_))
      exact decide_eq_true default.ne_kind
    have others : ∀ entry ∈ Entries.erase members "kind", entry.1 ≠ name :=
      fun entry member => Entries.ne_of_absent absent (List.mem_of_mem_filter member)
    have leavesOut := Value.leavesOut_toPairs index others
    rw [rest, Value.toPairs_append] at leavesOut
    rw [TokenConfig.sourceOfValue?, TokenConfig.sourceOfValue?, sameKind, whole, rest,
      Value.toPairs_append, Value.toPairs_append, Value.toPairs]
    simp only [ofFields?_default default leavesOut]
  | @listed kind name index value items default reached =>
    rw [List.cons_append, TokenConfig.sourceOfValue?, TokenConfig.sourceOfValue?,
      Value.toItems_append]
    exact ofFields?_default_inOrder default ((Value.length_toItems items).trans reached)

end TokenSource

/-! ### Configurations -/

namespace TokenConfig

/-- A field of a configuration, with its place and what its default is written as. -/
inductive DefaultField : String → Nat → Value → Prop
  | strict : DefaultField "strict" 0 (.bool false)
  | caseSensitive : DefaultField "case_sensitive" 1 (.bool true)
  | wildcardSettings : DefaultField "wildcard_settings" 2 (.bool false)
  | tokens : DefaultField "tokens" 3 (.object [])

/-- The second value of a configuration is the first with one default written out: a field of its
own, or one of the source of a token. -/
inductive WritesDefault : Value → Value → Prop
  | named {name : String} {index : Nat} {value : Value} {members : Entries Value}
      (default : DefaultField name index value) (absent : members.get? name = none) :
      WritesDefault (.object members) (.object (members.insert name value))
  | listed {name : String} {index : Nat} {value : Value} {items : List Value}
      (default : DefaultField name index value) (reached : items.length = index) :
      WritesDefault (.array items) (.array (items ++ [value]))
  | sourceNamed {token : String} {short long : Value} {before after : List (String × Value)}
      {members : Entries Value} (source : TokenSource.WritesDefault short long)
      (tokens : members.get? "tokens" = some (.object (before ++ (token, short) :: after))) :
      WritesDefault (.object members)
        (.object (members.insert "tokens" (.object (before ++ (token, long) :: after))))
  | sourceListed {token : String} {short long : Value} {before after : List (String × Value)}
      {items : List Value} (source : TokenSource.WritesDefault short long)
      (reached : items.length = 3) :
      WritesDefault (.array (items ++ [.object (before ++ (token, short) :: after)]))
        (.array (items ++ [.object (before ++ (token, long) :: after)]))

private theorem sourcesOfValue?_congr {token : String} {short long : Value}
    {before after : List (String × Value)} (same : sourceOfValue? long = sourceOfValue? short) :
    sourcesOfValue? (.object (before ++ (token, long) :: after)) =
      sourcesOfValue? (.object (before ++ (token, short) :: after)) := by
  rw [sourcesOfValue?, sourcesOfValue?, List.mapM_append, List.mapM_append, List.mapM_cons,
    List.mapM_cons]
  simp only [same]

private theorem ofFields?_congr (strict caseSensitive wildcardSettings : Option Value)
    {short long : Value} (same : sourcesOfValue? long = sourcesOfValue? short) :
    ofFields? strict caseSensitive wildcardSettings (some long) =
      ofFields? strict caseSensitive wildcardSettings (some short) := by
  simp only [ofFields?, field?, same]

theorem WritesDefault.ofValue?_eq {short long : Value} (writes : WritesDefault short long) :
    ofValue? long = ofValue? short := by
  cases writes with
  | named default absent =>
    rw [ofValue?_object, ofValue?_object]
    cases default <;>
    · rw [Entries.get?_insert_self, absent]
      simp only [Entries.get?_insert_other, ne_eq, String.reduceEq, not_false_eq_true]
      rfl
  | listed default reached =>
    cases default with
    | strict =>
      obtain rfl := List.length_eq_zero_iff.mp reached
      rfl
    | caseSensitive =>
      obtain ⟨strict, rfl⟩ := List.length_eq_one_iff.mp reached
      rfl
    | wildcardSettings =>
      obtain ⟨strict, caseSensitive, rfl⟩ := List.length_eq_two.mp reached
      rfl
    | tokens =>
      obtain ⟨strict, caseSensitive, wildcardSettings, rfl⟩ := List.length_eq_three.mp reached
      rfl
  | sourceNamed source tokens =>
    rw [ofValue?_object, ofValue?_object, Entries.get?_insert_self, tokens]
    simp only [Entries.get?_insert_other, ne_eq, String.reduceEq, not_false_eq_true]
    exact ofFields?_congr _ _ _ (sourcesOfValue?_congr source.sourceOfValue?_eq)
  | sourceListed source reached =>
    obtain ⟨strict, caseSensitive, wildcardSettings, rfl⟩ := List.length_eq_three.mp reached
    exact ofFields?_congr _ _ _ (sourcesOfValue?_congr source.sourceOfValue?_eq)

end TokenConfig

end Stencil
