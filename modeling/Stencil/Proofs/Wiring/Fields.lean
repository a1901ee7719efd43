import Mathlib.Data.List.Nodup
import Stencil.Wiring.Source

/-!
# Fields of a source

Which pairs of a mapping are fields, and at which places. A mapping can be read when each key is a
text or a place and no field is named twice. So one more pair, for a field that no other pair names,
sets that field and no other, and a field with a default is the same left out and written out.
-/

set_option autoImplicit false

namespace Stencil

open Yaml

namespace SourceFields

variable {names : List String} {pairs before after : List (Tree × Tree)}

private theorem eq_of_position? {key : Tree} {index : Nat}
    (named : position? names key = some (some index)) :
    (∃ name, key = .string name ∧ names.idxOf? name = some index) ∨
      key = .number (.integer index) := by
  unfold position? at named
  split at named
  case h_1 name => exact .inl ⟨name, rfl, Option.some.inj named⟩
  case h_2 place =>
    split at named
    case isTrue => cases named
    case isFalse notNegative =>
      split at named
      case isTrue =>
        obtain rfl := Option.some.inj (Option.some.inj named)
        exact .inr (by rw [Int.toNat_of_nonneg (Int.not_lt.mp notNegative)])
      case isFalse => cases named
  case h_3 => cases named

/-! ### Places -/

/-- The fields among the pairs of a mapping, with their places. -/
def placed (names : List String) (pairs : List (Tree × Tree)) : List (Nat × Tree) :=
  pairs.filterMap fun pair => (position? names pair.1).join.map fun index => (index, pair.2)

theorem placed_append (names : List String) (before after : List (Tree × Tree)) :
    placed names (before ++ after) = placed names before ++ placed names after :=
  List.filterMap_append

private theorem placed_cons_ignored {key : Tree} (value : Tree) (rest : List (Tree × Tree))
    (ignored : position? names key = some none) :
    placed names ((key, value) :: rest) = placed names rest := by
  simp only [placed, List.filterMap_cons, ignored, Option.join_some, Option.map_none]

private theorem placed_cons_field {key : Tree} {index : Nat} (value : Tree)
    (rest : List (Tree × Tree))
    (named : position? names key = some (some index)) :
    placed names ((key, value) :: rest) = (index, value) :: placed names rest := by
  simp only [placed, List.filterMap_cons, named, Option.join_some, Option.map_some]

private theorem not_mem_placed {index : Nat}
    (unnamed : ∀ pair ∈ pairs, position? names pair.1 ≠ some (some index)) :
    index ∉ (placed names pairs).map Prod.fst := by
  intro listed
  obtain ⟨field, member, rfl⟩ := List.mem_map.mp listed
  obtain ⟨pair, among, placed⟩ := List.mem_filterMap.mp member
  obtain ⟨place, named, rfl⟩ := Option.map_eq_some_iff.mp placed
  exact unnamed pair among (Option.join_eq_some_iff.mp named)

theorem isSome_lookup_iff {found : List (Nat × Tree)} {index : Nat} :
    (found.lookup index).isSome = true ↔ index ∈ found.map Prod.fst := by
  rw [List.lookup_isSome_iff, List.mem_map]
  refine exists_congr fun field => and_congr_right' ?_
  rw [beq_iff_eq, eq_comm]

private theorem lookup_unnamed {index : Nat}
    (unnamed : ∀ pair ∈ pairs, position? names pair.1 ≠ some (some index)) :
    (placed names pairs).reverse.lookup index = none := by
  rw [← Option.not_isSome_iff_eq_none, isSome_lookup_iff, List.map_reverse, List.mem_reverse]
  exact not_mem_placed unnamed

/-- Gathering succeeds when every key can stand for a field and no field occurs twice. -/
theorem gather?_eq_some_iff {found gathered : List (Nat × Tree)}
    (distinct : (found.map Prod.fst).Nodup) :
    gather? names found pairs = some gathered ↔
      (∀ pair ∈ pairs, position? names pair.1 ≠ none) ∧
        (((placed names pairs).reverse ++ found).map Prod.fst).Nodup ∧
          gathered = (placed names pairs).reverse ++ found := by
  induction pairs generalizing found with
  | nil =>
    rw [gather?]
    constructor
    · intro same
      exact ⟨nofun, distinct, (Option.some.inj same).symm⟩
    · intro listed
      exact congrArg some listed.2.2.symm
  | cons pair rest ih =>
    obtain ⟨key, value⟩ := pair
    rw [gather?, List.forall_mem_cons]
    cases named : position? names key with
    | none =>
      refine iff_of_false nofun fun listed => ?_
      exact listed.1.1 rfl
    | some place =>
      have acceptable : (some place : Option (Option Nat)) ≠ none := Option.some_ne_none place
      cases place with
      | none =>
        rw [placed_cons_ignored value rest named, and_iff_right acceptable]
        exact ih distinct
      | some index =>
        rw [placed_cons_field value rest named, List.reverse_cons, List.append_assoc,
          and_iff_right acceptable]
        simp only
        split
        case isTrue twice =>
          refine iff_of_false nofun fun listed => ?_
          have apart := (List.nodup_append'.mp (List.map_append ▸ listed.2.1)).2.1
          rw [List.map_append] at apart
          exact (List.nodup_cons.mp apart).1 (isSome_lookup_iff.mp twice)
        case isFalse once =>
          have absent : index ∉ found.map Prod.fst := fun listed =>
            once (isSome_lookup_iff.mpr listed)
          exact ih (List.nodup_cons.mpr ⟨absent, distinct⟩)

/-! ### Reading by name -/

/-- The keys of a mapping can stand for fields, and no field is named twice. -/
structure Readable (names : List String) (pairs : List (Tree × Tree)) : Prop where
  acceptable : ∀ pair ∈ pairs, position? names pair.1 ≠ none
  once : ((placed names pairs).map Prod.fst).Nodup

theorem read?_byName_eq_some_iff {fields : List (Option Tree)} :
    (byName pairs).read? names = some fields ↔
      Readable names pairs ∧
        fields = (List.range names.length).map fun index =>
          (placed names pairs).reverse.lookup index := by
  have start : (([] : List (Nat × Tree)).map Prod.fst).Nodup := List.nodup_nil
  have reversed : (((placed names pairs).reverse ++ []).map Prod.fst).Nodup ↔
      ((placed names pairs).map Prod.fst).Nodup := by
    rw [List.append_nil, List.map_reverse, List.nodup_reverse]
  rw [read?, Option.map_eq_some_iff]
  constructor
  · intro read
    obtain ⟨gathered, gathers, rfl⟩ := read
    obtain ⟨acceptable, once, rfl⟩ := (gather?_eq_some_iff start).mp gathers
    refine ⟨⟨acceptable, reversed.mp once⟩, ?_⟩
    rw [List.append_nil]
  · intro listed
    obtain ⟨⟨acceptable, once⟩, rfl⟩ := listed
    refine ⟨_, (gather?_eq_some_iff start).mpr ⟨acceptable, reversed.mpr once, rfl⟩, ?_⟩
    rw [List.append_nil]

private theorem acceptable_insert_iff (before after : List (Tree × Tree)) {key : Tree}
    (value : Tree)
    (named : position? names key ≠ none) :
    (∀ pair ∈ before ++ (key, value) :: after, position? names pair.1 ≠ none) ↔
      ∀ pair ∈ before ++ after, position? names pair.1 ≠ none := by
  rw [List.forall_mem_append, List.forall_mem_append, List.forall_mem_cons,
    and_iff_right named]

/-- A pair that is no field changes nothing. -/
theorem read?_ignored {key : Tree} (value : Tree) (ignored : position? names key = some none) :
    (byName (before ++ (key, value) :: after)).read? names =
      (byName (before ++ after)).read? names := by
  have same : placed names (before ++ (key, value) :: after) = placed names (before ++ after) := by
    rw [placed_append, placed_append, placed_cons_ignored value after ignored]
  have readable : Readable names (before ++ (key, value) :: after) ↔
      Readable names (before ++ after) := by
    have acceptable := acceptable_insert_iff before after value
      (ignored ▸ Option.some_ne_none none)
    constructor
    · intro whole
      exact ⟨acceptable.mp whole.acceptable, same ▸ whole.once⟩
    · intro rest
      exact ⟨acceptable.mpr rest.acceptable, same ▸ rest.once⟩
  refine Option.ext fun fields => ?_
  rw [read?_byName_eq_some_iff, read?_byName_eq_some_iff, same, readable]

section Inserted

variable {key value : Tree} {index : Nat} (named : position? names key = some (some index))
  (alone : ∀ pair ∈ before ++ after, position? names pair.1 ≠ some (some index))

include named in
private theorem placed_insert :
    placed names (before ++ (key, value) :: after) =
      placed names before ++ (index, value) :: placed names after := by
  rw [placed_append, placed_cons_field value after named]

include named alone

private theorem readable_insert_iff :
    Readable names (before ++ (key, value) :: after) ↔ Readable names (before ++ after) := by
  have acceptable := acceptable_insert_iff before after value
    (named ▸ Option.some_ne_none (some index))
  have once : ((placed names (before ++ (key, value) :: after)).map Prod.fst).Nodup ↔
      ((placed names (before ++ after)).map Prod.fst).Nodup := by
    have absent := not_mem_placed alone
    rw [placed_append, List.map_append] at absent
    rw [placed_insert named, placed_append, List.map_append, List.map_append, List.map_cons,
      List.nodup_middle, List.nodup_cons, and_iff_right absent]
  constructor
  · intro whole
    exact ⟨acceptable.mp whole.acceptable, once.mp whole.once⟩
  · intro rest
    exact ⟨acceptable.mpr rest.acceptable, once.mpr rest.once⟩

/-- One more pair sets its field, which was missing, and leaves the other fields. -/
private theorem lookup_insert (other : Nat) :
    (placed names (before ++ (key, value) :: after)).reverse.lookup other =
      if other = index then some value
      else (placed names (before ++ after)).reverse.lookup other := by
  rw [placed_insert named, placed_append, List.reverse_append, List.reverse_append,
    List.reverse_cons, List.lookup_append, List.lookup_append, List.lookup_append,
    List.lookup_cons, List.lookup_nil]
  by_cases same : other = index
  · subst same
    have later : (placed names after).reverse.lookup other = none :=
      lookup_unnamed fun pair member => alone pair (List.mem_append_right before member)
    rw [if_pos rfl, later, beq_self_eq_true]
    rfl
  · have apart : (other == index) = false := beq_false_of_ne same
    rw [if_neg same, apart, Option.or_none]

/-- So what is read differs in that field only. -/
theorem read?_insert :
    (byName (before ++ (key, value) :: after)).read? names =
      ((byName (before ++ after)).read? names).map fun fields => fields.set index (some value) := by
  have fields : ((List.range names.length).map fun other =>
        (placed names (before ++ (key, value) :: after)).reverse.lookup other) =
      ((List.range names.length).map fun other =>
        (placed names (before ++ after)).reverse.lookup other).set index (some value) := by
    have lengths : ∀ read : Nat → Option Tree, ((List.range names.length).map read).length =
        names.length := fun read => by rw [List.length_map, List.length_range]
    refine List.ext_getElem ?_ fun other _ _ => ?_
    · rw [List.length_set, lengths, lengths]
    · rw [List.getElem_set, List.getElem_map, List.getElem_map, List.getElem_range,
        lookup_insert named alone]
      exact if_congr eq_comm rfl rfl
  refine Option.ext fun read => ?_
  rw [read?_byName_eq_some_iff, Option.map_eq_some_iff, readable_insert_iff named alone, fields]
  constructor
  · intro listed
    obtain ⟨readable, rfl⟩ := listed
    exact ⟨_, read?_byName_eq_some_iff.mpr ⟨readable, rfl⟩, rfl⟩
  · intro listed
    obtain ⟨rest, reads, rfl⟩ := listed
    obtain ⟨readable, rfl⟩ := read?_byName_eq_some_iff.mp reads
    exact ⟨readable, rfl⟩

end Inserted

/-- When no pair names the last field, only the others can be found. -/
private theorem exists_eq_append_none {fields : List (Option Tree)} {last : Nat}
    (read : (byName pairs).read? names = some fields) (count : names.length = last + 1)
    (unnamed : ∀ pair ∈ pairs, position? names pair.1 ≠ some (some last)) :
    ∃ others, others.length = last ∧ fields = others ++ [none] := by
  obtain ⟨-, rfl⟩ := read?_byName_eq_some_iff.mp read
  refine ⟨(List.range last).map fun index => (placed names pairs).reverse.lookup index, ?_, ?_⟩
  · rw [List.length_map, List.length_range]
  · rw [count, List.range_succ, List.map_append, List.map_singleton, lookup_unnamed unnamed]

/-! ### Leaving a field out -/

/-- No pair names a field, by its name or by its place. -/
def LeavesOut (name : String) (index : Nat) (pairs : List (Tree × Tree)) : Prop :=
  ∀ pair ∈ pairs, pair.1 ≠ .string name ∧ pair.1 ≠ .number (.integer index)

theorem LeavesOut.nil (name : String) (index : Nat) : LeavesOut name index [] :=
  List.forall_mem_nil _

theorem LeavesOut.unnamed {name : String} {index : Nat} (leavesOut : LeavesOut name index pairs)
    (named : names.idxOf? name = some index) :
    ∀ pair ∈ pairs, position? names pair.1 ≠ some (some index) := by
  intro pair member placed
  obtain ⟨otherName, otherPlace⟩ := leavesOut pair member
  rcases eq_of_position? placed with ⟨other, written, found⟩ | written
  · obtain ⟨_, here, -⟩ := List.idxOf?_eq_some_iff.mp named
    obtain ⟨_, there, -⟩ := List.idxOf?_eq_some_iff.mp found
    exact otherName (written.trans (congrArg Tree.string (there.symm.trans here)))
  · exact otherPlace written

end SourceFields

namespace TokenSource

open SourceFields

variable {before after : List (Tree × Tree)}

/-- A field with a default: the kind of source that has it, its name and place there, and what the
default is written as. -/
inductive DefaultMember : String → String → Nat → Tree → Prop
  | value : DefaultMember "env" "default" 1 .null
  | parameters : DefaultMember "method" "params" 2 (.sequence [])

/-- A source is the same with a default left out and written out; where its kind has no such field,
the pair is ignored. -/
theorem ofFields?_default {owner name kind : String} {index : Nat} {tree : Tree}
    (default : DefaultMember owner name index tree)
    (leavesOut : LeavesOut name index (before ++ after)) :
    ofFields? kind (.byName (before ++ (.string name, tree) :: after)) =
      ofFields? kind (.byName (before ++ after)) := by
  cases default with
  | value =>
    unfold ofFields?
    split
    case h_3 =>
      rw [read?_insert rfl (leavesOut.unnamed rfl)]
      cases read : (byName (before ++ after)).read? ["var", "default"] with
      | none => rfl
      | some fields =>
        obtain ⟨others, count, rfl⟩ := exists_eq_append_none read rfl (leavesOut.unnamed rfl)
        obtain ⟨name?, rfl⟩ := List.length_eq_one_iff.mp count
        cases name? <;> rfl
    case h_7 => rfl
    all_goals rw [read?_ignored _ rfl]
  | parameters =>
    unfold ofFields?
    split
    case h_6 =>
      rw [read?_insert rfl (leavesOut.unnamed rfl)]
      cases read : (byName (before ++ after)).read? ["type", "member", "params"] with
      | none => rfl
      | some fields =>
        obtain ⟨others, count, rfl⟩ := exists_eq_append_none read rfl (leavesOut.unnamed rfl)
        obtain ⟨type?, member?, rfl⟩ := List.length_eq_two.mp count
        cases type? <;> cases member? <;> rfl
    case h_7 => rfl
    all_goals rw [read?_ignored _ rfl]

/-- In a list a default that is left out is the last item that is missing. -/
theorem ofFields?_default_inOrder {kind name : String} {index : Nat} {tree : Tree}
    (default : DefaultMember kind name index tree) {items : List Tree}
    (reached : items.length = index) :
    ofFields? kind (.inOrder (items ++ [tree])) = ofFields? kind (.inOrder items) := by
  cases default with
  | value =>
    obtain ⟨name, rfl⟩ := List.length_eq_one_iff.mp reached
    rfl
  | parameters =>
    obtain ⟨type, member, rfl⟩ := List.length_eq_two.mp reached
    rfl

end TokenSource

end Stencil
