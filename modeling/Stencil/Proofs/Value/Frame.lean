import Stencil.Proofs.Value.Lens

/-!
# What a writing leaves alone

A writing works inside the root it is given, so it could leave half of its work behind. It does not:
the value reached so far is kept as a focus, with the containers it was reached through, and a
writing that fails at any depth leaves the whole as it was. One that goes through changes what lies
at its own path; every path that leaves it on the way reads as before, and the containers on the way
keep their positions and their keys.
-/

set_option autoImplicit false

namespace Stencil.Value

/-! ## Places in a container -/

/-- A place in a container. Positions are numbers here, however a segment spells them. -/
inductive Slot where
  | key (name : String)
  | position (index : Nat)
deriving DecidableEq, Repr

def slot? (value : Value) (name : String) : Option Slot :=
  match value with
  | object _ => some (.key name)
  | array items => (position? items.length name).map .position
  | _ => none

variable {value child new changed : Value} {name other : String}

private theorem child?_eq_of_slot?_eq (same : value.slot? name = value.slot? other) :
    value.child? name = value.child? other := by
  cases value with
  | object members =>
    obtain rfl : name = other := Slot.key.inj (Option.some.inj same)
    rfl
  | array items =>
    have placed : position? items.length name = position? items.length other :=
      Option.map_injective (fun _ _ => Slot.position.inj) same
    rw [child?, child?, placed]
  | null | bool | number | string => rfl

example : (array [null, bool true]).child? "+01" = (array [null, bool true]).child? "1" := by rfl

/-- Containers of one kind, arrays of the same length or objects where the second one has the keys
of the first and those it gains. -/
inductive Keeps (gained : String → Prop) : Value → Value → Prop where
  | items {before after : List Value} (length : after.length = before.length) :
      Keeps gained (.array before) (.array after)
  | members {before after : Entries Value}
      (keys : ∀ key, key ∈ after.keys ↔ key ∈ before.keys ∨ gained key) :
      Keeps gained (.object before) (.object after)

namespace Keeps

variable {gained : String → Prop}

private theorem slot?_eq (keeps : Keeps gained value changed) (name : String) :
    changed.slot? name = value.slot? name := by
  cases keeps with
  | items length => rw [slot?, slot?, length]
  | members => rfl

end Keeps

theorem Takes.keeps (takes : Takes name new value changed) : Keeps (· = name) value changed := by
  cases takes with
  | key => exact .members fun _ => Entries.mem_keys_insert
  | position => exact .items List.length_set

private theorem Takes.child?_other (takes : Takes name new value changed)
    (apart : value.slot? name ≠ value.slot? other) : changed.child? other = value.child? other := by
  cases takes with
  | key =>
    have different : other ≠ name := fun same => apart (by rw [same])
    exact Entries.get?_insert_other different
  | @position items index placed =>
    rw [child?, child?, List.length_set]
    cases placedOther : position? items.length other with
    | none => rfl
    | some place =>
      have different : index ≠ place := by
        rintro rfl
        exact apart (by rw [slot?, slot?, placed, placedOther])
      exact List.getElem?_set_ne different

theorem Has.keeps (has : Has name value child) (new : Value) :
    Keeps (fun _ => False) value (value.exchangeChild name new) := by
  cases has with
  | key =>
    refine .members fun key => ?_
    rw [Entries.keys_replace, or_false]
  | position placed =>
    rw [exchangeChild, placed]
    exact .items List.length_set

private theorem Has.child?_other (has : Has name value child) (new : Value)
    (apart : value.slot? name ≠ value.slot? other) :
    (value.exchangeChild name new).child? other = value.child? other := by
  cases has with
  | key =>
    have different : other ≠ name := fun same => apart (by rw [same])
    exact Entries.get?_replace_other different
  | @position items index child placed =>
    have takes : Takes name new (.array items) (.array (items.set index new)) := .position placed
    rw [exchangeChild, placed]
    exact takes.child?_other apart

/-! ## Paths that part -/

/-- Two paths lead to the same places of a value up to a container where they go on to different
ones. -/
inductive Parts : Value → List String → List String → Prop where
  | here {value : Value} {segment other : String} {rest others : List String}
      (apart : value.slot? segment ≠ value.slot? other) :
      Parts value (segment :: rest) (other :: others)
  | inside {value child : Value} {segment other : String} {rest others : List String}
      (same : value.slot? segment = value.slot? other) (has : Has segment value child)
      (parts : Parts child rest others) : Parts value (segment :: rest) (other :: others)

variable {root : Value} {path others : List String}

private theorem walk_congr {left right : Value} {segment : String} (rest : List String)
    (same : left.child? segment = right.child? segment) :
    left.walk (segment :: rest) = right.walk (segment :: rest) := by
  rw [walk, walk, same]

namespace Assigns

theorem walk_other (assigns : Assigns new root path changed) (parts : Parts root path others) :
    changed.walk others = root.walk others := by
  induction assigns generalizing others with
  | last takes =>
    cases parts with
    | here apart => exact walk_congr _ (takes.child?_other apart)
    | inside _ _ parts => cases parts
  | @inside value child changed segment next rest has _ ih =>
    cases parts with
    | here apart => exact walk_congr _ (has.child?_other changed apart)
    | @inside _ held _ other _ others same hasHeld parts =>
      -- Both go on below one child, which the other path may spell differently.
      have found : value.child? segment = some child := child?_eq_some_iff.mpr has
      obtain rfl : child = held :=
        Option.some.inj (found.symm.trans (child?_eq_some_iff.mpr hasHeld))
      have sameAfter : (value.exchangeChild segment changed).child? other = some changed := by
        rw [← child?_eq_some_iff.mpr (has.exchanged changed)]
        refine (child?_eq_of_slot?_eq ?_).symm
        rw [(has.keeps changed).slot?_eq, (has.keeps changed).slot?_eq, same]
      have sameBefore : value.child? other = some child := by
        rw [← child?_eq_of_slot?_eq same, found]
      rw [walk_cons_of_child? sameAfter, walk_cons_of_child? sameBefore]
      exact ih parts

/-- The containers on the way keep their places, but the last one may gain the last key. -/
theorem keeps (assigns : Assigns new root path changed) {before after : List String}
    {segment : String} (split : path = before ++ segment :: after) :
    ∃ outer outerAfter, root.walk before = .ok outer ∧ changed.walk before = .ok outerAfter ∧
      Keeps (fun key => after = [] ∧ key = segment) outer outerAfter := by
  induction assigns generalizing before with
  | @last value changed last takes =>
    cases before with
    | nil =>
      obtain ⟨rfl, rfl⟩ := List.cons.inj split
      refine ⟨value, changed, rfl, rfl, ?_⟩
      simpa only [true_and] using takes.keeps
    | cons first before =>
      have more : [] = before ++ segment :: after := (List.cons.inj split).2
      exact absurd more.symm (List.append_ne_nil_of_right_ne_nil before nofun)
  | @inside value child changed first next rest has assigns ih =>
    cases before with
    | nil =>
      obtain ⟨rfl, rfl⟩ := List.cons.inj split
      refine ⟨value, value.exchangeChild first changed, rfl, rfl, ?_⟩
      simpa only [List.cons_ne_nil, false_and] using has.keeps changed
    | cons head before =>
      obtain ⟨rfl, splitRest⟩ := List.cons.inj split
      obtain ⟨outer, outerAfter, reached, reachedAfter, keeps⟩ := ih splitRest
      refine ⟨outer, outerAfter, ?_, ?_, keeps⟩
      · rw [walk_cons_of_has has, reached]
      · rw [walk_cons_of_has (has.exchanged changed), reachedAfter]

end Assigns

/-! ## Writing in place -/

/-- A value inside a root, with the containers above it from the inside out and the names it was
reached under. -/
structure Focus where
  value : Value
  above : List (Value × String)

namespace Focus

/-- The root as it is now. -/
def whole (focus : Focus) : Value :=
  focus.above.foldl (fun inner frame => frame.1.exchangeChild frame.2 inner) focus.value

def enter? (focus : Focus) (name : String) : Option Focus :=
  (focus.value.child? name).map fun child => ⟨child, (focus.value, name) :: focus.above⟩

def write (focus : Focus) (new : Value) : List String → Except String Unit × Focus
  | [] => (.error "", focus)
  | [last] =>
    match focus.value.withChild? last new with
    | some changed => (.ok (), { focus with value := changed })
    | none => (.error last, focus)
  | segment :: rest =>
    match focus.enter? segment with
    | some inner => inner.write new rest
    | none => (.error segment, focus)

private theorem whole_enter (above : List (Value × String)) (has : Has name value child) :
    whole ⟨child, (value, name) :: above⟩ = whole ⟨value, above⟩ := by
  rw [whole, whole, List.foldl_cons, has.exchange_self]

private theorem write_inside {segment next : String} {rest : List String}
    {above : List (Value × String)}
    (has : Has segment value child) (new : Value) :
    write ⟨value, above⟩ new (segment :: next :: rest) =
      write ⟨child, (value, segment) :: above⟩ new (next :: rest) := by
  rw [write, enter?, child?_eq_some_iff.mpr has]
  · rfl
  · exact nofun

private theorem write_of_no_child {segment next : String} {rest : List String}
    {above : List (Value × String)} (absent : value.child? segment = none) (new : Value) :
    write ⟨value, above⟩ new (segment :: next :: rest) = (.error segment, ⟨value, above⟩) := by
  rw [write, enter?, absent]
  · rfl
  · exact nofun

private theorem write_of_assigns (above : List (Value × String))
    (assigns : Assigns new root path changed) :
    (write ⟨root, above⟩ new path).1 = .ok () ∧
      (write ⟨root, above⟩ new path).2.whole = whole ⟨changed, above⟩ := by
  induction assigns generalizing above with
  | last takes =>
    rw [write, withChild?_eq_some_iff.mpr takes]
    exact ⟨rfl, rfl⟩
  | @inside value child changed segment next rest has _ ih =>
    rw [write_inside has]
    exact ih ((value, segment) :: above)

/-- A writing that fails has exchanged nothing on its way down. -/
private theorem write_of_error {blamed : String} (above : List (Value × String))
    (fails : root.assign new path = .error blamed) :
    (write ⟨root, above⟩ new path).1 = .error blamed ∧
      (write ⟨root, above⟩ new path).2.whole = whole ⟨root, above⟩ := by
  induction path generalizing root above with
  | nil =>
    cases fails
    exact ⟨rfl, rfl⟩
  | cons segment rest ih =>
    cases rest with
    | nil =>
      rw [assign] at fails
      rw [write]
      cases set : root.withChild? segment new with
      | none =>
        rw [set] at fails
        cases fails
        exact ⟨rfl, rfl⟩
      | some changed =>
        rw [set] at fails
        cases fails
    | cons next rest =>
      cases found : root.child? segment with
      | none =>
        rw [assign_of_no_child found] at fails
        cases fails
        rw [write_of_no_child found]
        exact ⟨rfl, rfl⟩
      | some child =>
        have has : Has segment root child := child?_eq_some_iff.mp found
        rw [assign_inside has] at fails
        have inner : child.assign new (next :: rest) = .error blamed := map_eq_error_iff.mp fails
        rw [write_inside has, ← whole_enter above has]
        exact ih ((root, segment) :: above) inner

end Focus

/-- Walks to the parent of the last segment and sets it there, giving the root as it is then. -/
def assignInPlace (root : Value) (path : List String) (new : Value) :
    Except PathError Unit × Value :=
  let outcome := Focus.write ⟨root, []⟩ new path
  (outcome.1.mapError (PathError.mk · path), outcome.2.whole)

theorem assignInPlace_eq (root : Value) (path : List String) (new : Value) :
    root.assignInPlace path new =
      match root.assignPath path new with
      | .ok changed => (.ok (), changed)
      | .error error => (.error error, root) := by
  rw [assignInPlace, assignPath]
  cases assigned : root.assign new path with
  | error blamed =>
    obtain ⟨fails, left⟩ := Focus.write_of_error [] assigned
    simp only [fails, left]
    rfl
  | ok changed =>
    have assigns : Assigns new root path changed := assign_eq_ok_iff.mp assigned
    obtain ⟨succeeds, left⟩ := Focus.write_of_assigns [] assigns
    simp only [succeeds, left]
    rfl

/-- A writing fails with the root as it was, or goes through. Then every path that parts from the
written one gives the value or the failure it gave before, and each container above the end of the
written path keeps its length or its keys, but that the last one has the last key now. -/
theorem assignInPlace_local (root : Value) (path : List String) (new : Value) :
    match root.assignInPlace path new with
    | (.error error, after) => after = root ∧ root.assignPath path new = .error error
    | (.ok (), after) =>
      root.assignPath path new = .ok after ∧
        (∀ others, Parts root path others → after.resolvePath others = root.resolvePath others) ∧
        ∀ above segment below, path = above ++ segment :: below →
          ∃ outer outerAfter, root.walk above = .ok outer ∧ after.walk above = .ok outerAfter ∧
            Keeps (fun key => below = [] ∧ key = segment) outer outerAfter := by
  rw [assignInPlace_eq]
  cases assigned : root.assignPath path new with
  | error error => exact ⟨rfl, rfl⟩
  | ok after =>
    have assigns : Assigns new root path after := assignPath_eq_ok_iff.mp assigned
    refine ⟨rfl, ?_, ?_⟩
    · intro others parts
      rw [resolvePath, resolvePath, assigns.walk_other parts]
    · intro above segment below split
      exact assigns.keeps split

end Stencil.Value
