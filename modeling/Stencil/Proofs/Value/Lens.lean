import Stencil.Value.Path

/-!
# Reading back what was written

Paths are lenses where they can be written: a written value is read back, a second writing makes the
first one as if it had not been, and writing what is there already changes nothing. Each law is one
for a single member, carried along the path.
-/

set_option autoImplicit false

namespace Stencil.Value

/-! ## Single members -/

private theorem position?_lt {size index : Nat} {name : String}
    (placed : position? size name = some index) : index < size := by
  rw [position?] at placed
  split at placed
  case h_1 =>
    split at placed
    case isTrue within =>
      cases placed
      exact within
    case isFalse => cases placed
  case h_2 => cases placed

/-- A value has a child under a name. -/
inductive Has (name : String) : Value → Value → Prop where
  | key {members : Entries Value} {child : Value} (found : members.get? name = some child) :
      Has name (.object members) child
  | position {items : List Value} {index : Nat} {child : Value}
      (placed : position? items.length name = some index) (found : items[index]? = some child) :
      Has name (.array items) child

/-- A value takes a new child under a name and becomes another one. -/
inductive Takes (name : String) (new : Value) : Value → Value → Prop where
  | key {members : Entries Value} (named : name ≠ "") :
      Takes name new (.object members) (.object (members.insert name new))
  | position {items : List Value} {index : Nat}
      (placed : position? items.length name = some index) :
      Takes name new (.array items) (.array (items.set index new))

variable {value child new changed : Value} {name : String}

theorem child?_eq_some_iff : value.child? name = some child ↔ Has name value child := by
  constructor
  · intro found
    cases value with
    | object members => exact .key found
    | array items =>
      obtain ⟨index, placed, found⟩ := Option.bind_eq_some_iff.mp found
      exact .position placed found
    | null | bool | number | string => cases found
  · intro has
    cases has with
    | key found => exact found
    | position placed found => exact Option.bind_eq_some_iff.mpr ⟨_, placed, found⟩

theorem withChild?_eq_some_iff :
    value.withChild? name new = some changed ↔ Takes name new value changed := by
  constructor
  · intro set
    cases value with
    | object members =>
      rw [withChild?] at set
      split at set
      case isTrue => cases set
      case isFalse named =>
        cases set
        exact .key fun empty => named (String.isEmpty_iff.mpr empty)
    | array items =>
      obtain ⟨index, placed, rfl⟩ := Option.map_eq_some_iff.mp set
      exact .position placed
    | null | bool | number | string => cases set
  · intro takes
    cases takes with
    | key named => rw [withChild?, if_neg fun empty => named (String.isEmpty_iff.mp empty)]
    | position placed => exact Option.map_eq_some_iff.mpr ⟨_, placed, rfl⟩

namespace Takes

theorem has (takes : Takes name new value changed) : Has name changed new := by
  cases takes with
  | key => exact .key (Entries.get?_insert_self _ name new)
  | @position items index placed =>
    have same : position? (items.set index new).length name = some index := by
      rwa [List.length_set]
    exact .position same (List.getElem?_set_self (position?_lt placed))

/-- What a value takes once it takes again, and the second child hides the first. -/
theorem again (takes : Takes name child value changed) (new : Value) :
    ∃ last, Takes name new value last ∧ Takes name new changed last := by
  cases takes with
  | @key members named =>
    refine ⟨_, .key named, ?_⟩
    rw [← Entries.insert_insert members name child new]
    exact .key named
  | @position items index placed =>
    have same : position? (items.set index child).length name = some index := by
      rwa [List.length_set]
    have hidden : (items.set index child).set index new = items.set index new :=
      List.set_set child
    refine ⟨_, .position placed, ?_⟩
    rw [← hidden]
    exact .position same

theorem eq_of_has (takes : Takes name child value changed) (has : Has name value child) :
    changed = value := by
  cases takes with
  | key =>
    cases has with
    | key found => rw [Entries.insert_of_get? found]
  | position placed =>
    cases has with
    | position placedThere found =>
      obtain rfl := Option.some.inj (placed.symm.trans placedThere)
      obtain ⟨within, rfl⟩ := List.getElem?_eq_some_iff.mp found
      rw [List.set_getElem_self]

end Takes

namespace Has

theorem exchanged (has : Has name value child) (new : Value) :
    Has name (value.exchangeChild name new) new := by
  cases has with
  | key found =>
    have present : Entries.contains _ name = true := congrArg Option.isSome found
    exact .key (Entries.get?_replace_self present)
  | @position items index child placed found =>
    have same : position? (items.set index new).length name = some index := by
      rwa [List.length_set]
    rw [exchangeChild, placed]
    exact .position same (List.getElem?_set_self (position?_lt placed))

theorem exchange_self (has : Has name value child) : value.exchangeChild name child = value := by
  cases has with
  | key found => rw [exchangeChild, Entries.replace_of_get? found]
  | position placed found =>
    obtain ⟨within, rfl⟩ := List.getElem?_eq_some_iff.mp found
    rw [exchangeChild, placed]
    simp only [List.set_getElem_self]

end Has

private theorem exchangeChild_exchangeChild (value : Value) (name : String) (first second : Value) :
    (value.exchangeChild name first).exchangeChild name second =
      value.exchangeChild name second := by
  cases value with
  | object members => simp only [exchangeChild, Entries.replace_replace]
  | array items =>
    cases placed : position? items.length name with
    | none => simp only [exchangeChild, placed]
    | some index => simp only [exchangeChild, placed, List.length_set, List.set_set]
  | null | bool | number | string => rfl

/-! ## Along a path -/

/-- A value takes a new one at the end of a path: a child of the value before the last segment, and
the values on the way have the child that they had exchanged. -/
inductive Assigns (new : Value) : Value → List String → Value → Prop where
  | last {value changed : Value} {segment : String} (takes : Takes segment new value changed) :
      Assigns new value [segment] changed
  | inside {value child changed : Value} {segment next : String} {rest : List String}
      (has : Has segment value child) (assigns : Assigns new child (next :: rest) changed) :
      Assigns new value (segment :: next :: rest) (value.exchangeChild segment changed)

variable {root : Value} {path : List String}

theorem assign_inside {segment : String} (has : Has segment value child) (new : Value)
    (next : String) (rest : List String) :
    value.assign new (segment :: next :: rest) =
      (child.assign new (next :: rest)).map (value.exchangeChild segment) := by
  rw [assign, child?_eq_some_iff.mpr has]
  exact nofun

theorem assign_of_no_child {segment : String} (absent : value.child? segment = none)
    (new : Value) (next : String) (rest : List String) :
    value.assign new (segment :: next :: rest) = .error segment := by
  rw [assign, absent]
  exact nofun

theorem assign_eq_ok_iff : root.assign new path = .ok changed ↔ Assigns new root path changed := by
  constructor
  · intro assigned
    induction path generalizing root changed with
    | nil => cases assigned
    | cons segment rest ih =>
      cases rest with
      | nil =>
        rw [assign] at assigned
        split at assigned
        case h_1 set =>
          cases assigned
          exact .last (withChild?_eq_some_iff.mp set)
        case h_2 => cases assigned
      | cons next rest =>
        cases found : root.child? segment with
        | none =>
          rw [assign_of_no_child found] at assigned
          cases assigned
        | some child =>
          have has : Has segment root child := child?_eq_some_iff.mp found
          rw [assign_inside has] at assigned
          cases inner : child.assign new (next :: rest) with
          | error blamed =>
            rw [inner] at assigned
            cases assigned
          | ok below =>
            rw [inner] at assigned
            cases assigned
            exact .inside has (ih inner)
  · intro assigns
    induction assigns with
    | last takes => rw [assign, withChild?_eq_some_iff.mpr takes]
    | inside has _ ih =>
      rw [assign_inside has, ih]
      rfl

theorem walk_cons_of_has {segment : String} (has : Has segment value child) (rest : List String) :
    value.walk (segment :: rest) = child.walk rest :=
  walk_cons_of_child? (child?_eq_some_iff.mpr has) rest

namespace Assigns

theorem walk_eq (assigns : Assigns new root path changed) : changed.walk path = .ok new := by
  induction assigns with
  | last takes => exact walk_cons_of_has takes.has []
  | @inside _ _ inner segment next rest has _ ih =>
    rw [walk_cons_of_has (has.exchanged inner)]
    exact ih

/-- A path that was written can be written again, before as after, with one result. -/
theorem again (assigns : Assigns child root path changed) (new : Value) :
    ∃ last, Assigns new root path last ∧ Assigns new changed path last := by
  induction assigns with
  | last takes =>
    obtain ⟨last, before, after⟩ := takes.again new
    exact ⟨last, .last before, .last after⟩
  | @inside value _ inner segment next rest has _ ih =>
    obtain ⟨last, before, after⟩ := ih
    refine ⟨value.exchangeChild segment last, .inside has before, ?_⟩
    rw [← exchangeChild_exchangeChild value segment inner last]
    exact .inside (has.exchanged inner) after

theorem eq_of_walk (assigns : Assigns new root path changed) (found : root.walk path = .ok new) :
    changed = root := by
  induction assigns with
  | @last value _ segment takes =>
    cases has : value.child? segment with
    | none =>
      rw [walk, has] at found
      cases found
    | some there =>
      rw [walk, has] at found
      cases found
      exact takes.eq_of_has (child?_eq_some_iff.mp has)
  | inside has _ ih =>
    rw [walk_cons_of_has has] at found
    rw [ih found, has.exchange_self]

end Assigns

private theorem mapError_eq_ok_iff {ε δ α : Type} {result : Except ε α} {convert : ε → δ}
    {value : α} :
    result.mapError convert = .ok value ↔ result = .ok value := by
  cases result with
  | error error => exact ⟨nofun, nofun⟩
  | ok other =>
    constructor
    · intro same
      cases same
      rfl
    · intro same
      cases same
      rfl

theorem map_eq_error_iff {ε α β : Type} {result : Except ε α} {convert : α → β} {error : ε} :
    result.map convert = .error error ↔ result = .error error := by
  cases result with
  | ok value => exact ⟨nofun, nofun⟩
  | error other =>
    constructor
    · intro same
      cases same
      rfl
    · intro same
      cases same
      rfl

theorem assignPath_eq_ok_iff :
    root.assignPath path new = .ok changed ↔ Assigns new root path changed :=
  mapError_eq_ok_iff.trans assign_eq_ok_iff

theorem resolvePath_eq_ok_iff {value : Value} :
    root.resolvePath path = .ok value ↔ root.walk path = .ok value :=
  mapError_eq_ok_iff

/-- Once a value is written at a path, reading the path gives it, and writing any other value there
goes through and comes to the same as if only that one had been written. Writing what the path leads
to already changes nothing. -/
theorem resolvePath_assignPath (assigned : root.assignPath path new = .ok changed) :
    changed.resolvePath path = .ok new ∧
      (∀ other, ∃ last, root.assignPath path other = .ok last ∧
        changed.assignPath path other = .ok last) ∧
      (root.resolvePath path = .ok new → changed = root) := by
  have assigns : Assigns new root path changed := assignPath_eq_ok_iff.mp assigned
  refine ⟨resolvePath_eq_ok_iff.mpr assigns.walk_eq, ?_, ?_⟩
  · intro other
    obtain ⟨last, before, after⟩ := assigns.again other
    exact ⟨last, assignPath_eq_ok_iff.mpr before, assignPath_eq_ok_iff.mpr after⟩
  · intro found
    exact assigns.eq_of_walk (resolvePath_eq_ok_iff.mp found)

/-- The path goes through a position written with a sign and a zero and ends at a new key. -/
theorem resolvePath_assignPath_new_key :
    let root : Value := .object [("rows", .array [.null, .object [("b", .bool true)]])]
    let changed : Value :=
      .object [("rows", .array [.null, .object [("a", .integer 7), ("b", .bool true)]])]
    let path := ["rows", "+01", "a"]
    root.assignPath path (.integer 7) = .ok changed ∧
      changed.resolvePath path = .ok (.integer 7) ∧
      ∃ last, root.assignPath path .null = .ok last ∧ changed.assignPath path .null = .ok last := by
  intro root changed path
  have assigned : root.assignPath path (.integer 7) = .ok changed := by rfl
  obtain ⟨read, again, -⟩ := resolvePath_assignPath assigned
  exact ⟨assigned, read, again .null⟩

end Stencil.Value
