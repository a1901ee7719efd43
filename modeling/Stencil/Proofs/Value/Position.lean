import Stencil.Proofs.Number.Integer
import Stencil.Proofs.Value.Frame
import Stencil.Proofs.Value.Walking

/-!
# Positions in arrays

The name of an array item is its position written in digits, with or without a plus sign in front.
Single members and both walks read it alike: a name of this form for a number below the size stands
for the item there, and every other name is a miss for reading and refused for writing, which leaves
the array as it was. This holds wherever in a root the array is.
-/

set_option autoImplicit false

namespace Stencil.Value

/-- The place that a name denotes in an array. Positions have 64 bits, which is more than any array
has items. -/
structure Denotes (name : String) (size index : Nat) : Prop where
  spells : Number.SpellsNatural name.toList index
  within : index < size
  bounded : index < 18446744073709551616

variable {root middle item new changed : Value} {items : List Value} {above path : List String}
  {name segment : String} {size index : Nat}

theorem position?_eq_some_iff_denotes :
    position? size name = some index ↔ Denotes name size index := by
  have greatest : Number.IntegerRange.position.greatest.toNat = 18446744073709551615 := rfl
  rw [position?_eq_some_iff, Number.readInteger, Number.readIntegerIn_eq_ok_natural_iff rfl,
    greatest]
  constructor
  · intro placed
    obtain ⟨⟨spells, bound⟩, within⟩ := placed
    exact ⟨spells, within, by omega⟩
  · intro denotes
    have bounded := denotes.bounded
    exact ⟨⟨denotes.spells, by omega⟩, denotes.within⟩

theorem position?_eq_none_iff : position? size name = none ↔ ∀ index, ¬ Denotes name size index := by
  simp only [Option.eq_none_iff_forall_ne_some, ne_eq, position?_eq_some_iff_denotes]

/-! ## Walks through a place -/

/-- A writing goes through, whether it gives a new root or works in place. -/
structure Writes (root : Value) (path : List String) (new changed : Value) : Prop where
  assigned : root.assignPath path new = .ok changed
  inPlace : root.assignInPlace path new = (.ok (), changed)

/-- A writing blames a segment and leaves the root as it was. -/
structure Blames (root : Value) (path : List String) (new : Value) (segment : String) : Prop where
  assigned : root.assignPath path new = .error ⟨segment, path⟩
  inPlace : root.assignInPlace path new = (.error ⟨segment, path⟩, root)

private theorem writes_of_assign (assigned : root.assign new path = .ok changed) :
    Writes root path new changed := by
  have whole : root.assignPath path new = .ok changed := by
    rw [assignPath, assigned]
    rfl
  exact ⟨whole, by rw [assignInPlace_eq, whole]⟩

private theorem blames_of_assign (fails : root.assign new path = .error segment) :
    Blames root path new segment := by
  have whole : root.assignPath path new = .error ⟨segment, path⟩ := by
    rw [assignPath, fails]
    rfl
  exact ⟨whole, by rw [assignInPlace_eq, whole]⟩

/-- A writing through a place is one in what is there, which is then put back. -/
private theorem assign_append (new : Value) (reaches : root.walk above = .ok middle)
    (more : path ≠ []) :
    ∃ putBack : Value → Value,
      root.assign new (above ++ path) = (middle.assign new path).map putBack ∧
        ∀ below, (putBack below).walk above = .ok below := by
  induction above generalizing root with
  | nil =>
    obtain rfl := Except.ok.inj reaches
    refine ⟨id, ?_, fun below => rfl⟩
    rw [Except.map_id]
    rfl
  | cons first rest ih =>
    obtain ⟨child, found⟩ := exists_child_of_walk_cons reaches
    have has : Has first root child := child?_eq_some_iff.mp found
    rw [walk_cons_of_has has] at reaches
    obtain ⟨putBack, assigned, walks⟩ := ih reaches
    refine ⟨fun below => root.exchangeChild first (putBack below), ?_, fun below => ?_⟩
    · -- Something is left to write below the first segment, so the writing enters its child.
      obtain ⟨next, others, split⟩ :=
        List.exists_cons_of_ne_nil (List.append_ne_nil_of_right_ne_nil rest more)
      rw [List.cons_append, split, assign_inside has, ← split, assigned]
      cases middle.assign new path with
      | ok below => rfl
      | error blamed => rfl
    · rw [walk_cons_of_has (has.exchanged _), walks]

private theorem exists_writes_append {below : Value} (reaches : root.walk above = .ok middle)
    (more : path ≠ []) (assigned : middle.assign new path = .ok below) :
    ∃ changed, Writes root (above ++ path) new changed ∧ changed.walk above = .ok below := by
  obtain ⟨putBack, goesOn, walks⟩ := assign_append new reaches more
  rw [assigned] at goesOn
  exact ⟨putBack below, writes_of_assign goesOn, walks below⟩

private theorem blames_append (reaches : root.walk above = .ok middle) (more : path ≠ [])
    (fails : middle.assign new path = .error segment) :
    Blames root (above ++ path) new segment := by
  obtain ⟨putBack, goesOn, -⟩ := assign_append new reaches more
  rw [fails] at goesOn
  exact blames_of_assign goesOn

private theorem resolvePath_append (reaches : root.walk above = .ok middle) (path : List String) :
    root.resolvePath (above ++ path) =
      (middle.walk path).mapError (PathError.mk · (above ++ path)) := by
  rw [resolvePath, walk_append, reaches]
  rfl

/-! ## Names of items -/

/-- A name stands for an item of the array at a place of a root. -/
structure Addresses (root : Value) (above : List String) (items : List Value) (name : String)
    (index : Nat) (item : Value) : Prop where
  child : (array items).child? name = some item
  withChild : ∀ new, (array items).withChild? name new = some (.array (items.set index new))
  reading : ∀ rest, root.resolvePath (above ++ name :: rest) =
    (item.walk rest).mapError (PathError.mk · (above ++ name :: rest))
  writing : ∀ new, ∃ changed, Writes root (above ++ [name]) new changed ∧
    changed.walk above = .ok (.array (items.set index new))
  writingBelow : ∀ new rest, rest ≠ [] →
    match item.assign new rest with
    | .ok below => ∃ changed, Writes root (above ++ name :: rest) new changed ∧
        changed.walk above = .ok (.array (items.set index below))
    | .error blamed => Blames root (above ++ name :: rest) new blamed

/-- A name stands for nothing in the array at a place of a root. -/
structure Misses (root : Value) (above : List String) (items : List Value) (name : String) :
    Prop where
  child : (array items).child? name = none
  withChild : ∀ new, (array items).withChild? name new = none
  reading : ∀ rest, root.resolvePath (above ++ name :: rest) =
    .error ⟨name, above ++ name :: rest⟩
  writing : ∀ new rest, Blames root (above ++ name :: rest) new name

private theorem addresses_of_position? (there : root.walk above = .ok (.array items))
    (placed : position? items.length name = some index) (found : items[index]? = some item) :
    Addresses root above items name index item := by
  have has : Has name (.array items) item := .position placed found
  have takes (new : Value) : Takes name new (.array items) (.array (items.set index new)) :=
    .position placed
  refine ⟨child?_eq_some_iff.mpr has, fun new => withChild?_eq_some_iff.mpr (takes new), ?_, ?_, ?_⟩
  · intro rest
    rw [resolvePath_append there, walk_cons_of_has has]
  · intro new
    have assigned := assign_eq_ok_iff.mpr (.last (takes new))
    exact exists_writes_append there (List.cons_ne_nil name []) assigned
  · intro new rest more
    obtain ⟨next, others, rfl⟩ := List.exists_cons_of_ne_nil more
    have assigned := assign_inside has new next others
    cases inner : item.assign new (next :: others) with
    | ok below =>
      have exchanged : (array items).exchangeChild name below = .array (items.set index below) := by
        rw [exchangeChild, placed]
      rw [inner, Except.map, exchanged] at assigned
      exact exists_writes_append there (List.cons_ne_nil name _) assigned
    | error blamed =>
      rw [inner, Except.map] at assigned
      exact blames_append there (List.cons_ne_nil name _) assigned

private theorem misses_of_position? (there : root.walk above = .ok (.array items))
    (placeless : position? items.length name = none) : Misses root above items name := by
  have absent : (array items).child? name = none := by
    rw [child?, placeless, Option.bind_none]
  have refused (new : Value) : (array items).withChild? name new = none := by
    rw [withChild?, placeless, Option.map_none]
  refine ⟨absent, refused, ?_, ?_⟩
  · intro rest
    rw [resolvePath_append there, walk_cons_of_no_child absent]
    rfl
  · intro new rest
    apply blames_append there (List.cons_ne_nil name rest)
    cases rest with
    | nil => rw [assign, refused]
    | cons next others => exact assign_of_no_child absent new next others

/-- A name that denotes a place in an array stands for the item there, for single members as for
both walks and wherever in a root the array is. Any other name is a miss, and writing under it fails
with everything as it was. -/
theorem array_positions (there : root.walk above = .ok (.array items)) (name : String) :
    (∀ index, Denotes name items.length index →
      ∃ item, items[index]? = some item ∧ Addresses root above items name index item) ∧
    ((∀ index, ¬ Denotes name items.length index) → Misses root above items name) := by
  constructor
  · intro index denotes
    have found := List.getElem?_eq_getElem denotes.within
    have placed := position?_eq_some_iff_denotes.mpr denotes
    exact ⟨_, found, addresses_of_position? there placed found⟩
  · intro nowhere
    exact misses_of_position? there (position?_eq_none_iff.mpr nowhere)

/-- A sign and a zero before the position of an array inside an object, and a number that is that
position again in its lowest 64 bits. -/
theorem array_positions_signed :
    let items : List Value := [.null, .array [.bool true]]
    let root : Value := .object [("rows", .array items)]
    root.walk ["rows"] = .ok (.array items) ∧
      Denotes "+01" 2 1 ∧ Addresses root ["rows"] items "+01" 1 (.array [.bool true]) ∧
      (∀ index, ¬ Denotes "18446744073709551617" 2 index) ∧
      Misses root ["rows"] items "18446744073709551617" := by
  intro items root
  have there : root.walk ["rows"] = .ok (.array items) := by rfl
  have denotes : Denotes "+01" 2 1 := position?_eq_some_iff_denotes.mp (by rfl)
  have nowhere : ∀ index, ¬ Denotes "18446744073709551617" 2 index :=
    position?_eq_none_iff.mp (by rfl)
  obtain ⟨item, found, addresses⟩ := (array_positions there "+01").1 1 denotes
  obtain rfl : .array [.bool true] = item := Option.some.inj found
  exact ⟨there, denotes, addresses, nowhere, (array_positions there _).2 nowhere⟩

/-- Digits alone do not tell which names an array has: a plus sign may stand before them. -/
theorem not_forall_child?_iff_digits :
    ¬ ∀ (items : List Value) (name : String),
      (∃ item, (array items).child? name = some item) ↔
        ∃ index, Number.IsDecimal name.toList index ∧ index < items.length := by
  intro digits
  have signed : (array [.integer 10, .integer 20]).child? "+1" = some (.integer 20) := by rfl
  obtain ⟨index, decimal, -⟩ := (digits _ "+1").mp ⟨_, signed⟩
  cases decimal.decimal '+' List.mem_cons_self

end Stencil.Value
