import Mathlib.Data.List.Basic
import Stencil.Proofs.Value.Lens

/-!
# Where walks stop

Reading and writing walk a path in the same way. A path can be written where the path to its last
segment can be read and leads to a container that takes that segment. Where a walk stops, both blame
the segment it stopped at, and a writing that reached a container blames the last segment.
-/

set_option autoImplicit false

namespace Stencil.Value

variable {root container reached new : Value} {path parents before : List String}
  {segment last name : String}

/-! ## Reading -/

theorem walk_append (root : Value) (first second : List String) :
    root.walk (first ++ second) = (root.walk first).bind fun middle => middle.walk second := by
  induction first generalizing root with
  | nil => rfl
  | cons segment rest ih =>
    cases found : root.child? segment with
    | none =>
      rw [List.cons_append, walk_cons_of_no_child found, walk_cons_of_no_child found]
      rfl
    | some child =>
      rw [List.cons_append, walk_cons_of_child? found, walk_cons_of_child? found, ih]

theorem walk_append_eq_ok_iff {first second : List String} {value : Value} :
    root.walk (first ++ second) = .ok value ↔
      ∃ middle, root.walk first = .ok middle ∧ middle.walk second = .ok value := by
  rw [walk_append]
  cases root.walk first with
  | error blamed =>
    constructor
    · intro impossible
      cases impossible
    · intro goesOn
      obtain ⟨middle, impossible, -⟩ := goesOn
      cases impossible
  | ok middle =>
    constructor
    · intro leads
      exact ⟨middle, rfl, leads⟩
    · intro goesOn
      obtain ⟨other, same, leads⟩ := goesOn
      cases same
      exact leads

theorem exists_child_of_walk_cons {rest : List String} {value : Value}
    (leads : root.walk (segment :: rest) = .ok value) :
    ∃ child, root.child? segment = some child := by
  cases found : root.child? segment with
  | some child => exact ⟨child, rfl⟩
  | none =>
    rw [walk_cons_of_no_child found] at leads
    cases leads

/-- A walk stops at a segment after others: each of those leads on to a member, and the value that
they reach has no member under the segment. -/
structure Stops (root : Value) (before : List String) (segment : String) : Prop where
  leads : ∀ earlier name later, before = earlier ++ name :: later →
    ∃ holder child, root.resolvePath earlier = .ok holder ∧ holder.child? name = some child
  stuck : ∃ reached, root.resolvePath before = .ok reached ∧ reached.child? segment = none

theorem stops_of_walk (reaches : root.walk before = .ok reached)
    (absent : reached.child? segment = none) : Stops root before segment where
  leads := by
    intro earlier name later split
    rw [split] at reaches
    obtain ⟨holder, reachesHolder, goesOn⟩ := walk_append_eq_ok_iff.mp reaches
    obtain ⟨child, has⟩ := exists_child_of_walk_cons goesOn
    exact ⟨holder, child, resolvePath_eq_ok_iff.mpr reachesHolder, has⟩
  stuck := ⟨reached, resolvePath_eq_ok_iff.mpr reaches, absent⟩

private theorem exists_stuck_of_walk (fails : root.walk path = .error segment) :
    ∃ before after reached, path = before ++ segment :: after ∧
      root.walk before = .ok reached ∧ reached.child? segment = none := by
  induction path generalizing root with
  | nil => cases fails
  | cons first rest ih =>
    cases found : root.child? first with
    | none =>
      rw [walk_cons_of_no_child found] at fails
      cases fails
      exact ⟨[], rest, root, rfl, rfl, found⟩
    | some child =>
      rw [walk_cons_of_child? found] at fails
      obtain ⟨before, after, reached, split, reaches, absent⟩ := ih fails
      refine ⟨first :: before, after, reached, congrArg (first :: ·) split, ?_, absent⟩
      rw [walk_cons_of_child? found, reaches]

theorem walk_eq_error_iff :
    root.walk path = .error segment ↔
      ∃ before after, path = before ++ segment :: after ∧ Stops root before segment := by
  constructor
  · intro fails
    obtain ⟨before, after, reached, split, reaches, absent⟩ := exists_stuck_of_walk fails
    exact ⟨before, after, split, stops_of_walk reaches absent⟩
  · intro stuck
    obtain ⟨before, after, split, stops⟩ := stuck
    obtain ⟨reached, reaches, absent⟩ := stops.stuck
    rw [split, walk_append, resolvePath_eq_ok_iff.mp reaches]
    exact walk_cons_of_no_child absent after

private theorem mapError_eq_error_iff {result : Except String Value} {error : PathError} :
    result.mapError (PathError.mk · path) = .error error ↔
      result = .error error.segment ∧ error.path = path := by
  cases result with
  | ok value => exact ⟨nofun, nofun⟩
  | error blamed =>
    constructor
    · intro fails
      cases fails
      exact ⟨rfl, rfl⟩
    · intro told
      obtain ⟨same, rfl⟩ := told
      cases same
      rfl

theorem resolvePath_eq_error_iff {error : PathError} :
    root.resolvePath path = .error error ↔
      root.walk path = .error error.segment ∧ error.path = path :=
  mapError_eq_error_iff

/-! ## Writing -/

/-- A container takes a member under a name: an object under any but the empty one, an array under
the positions that it has. -/
inductive Accepts (name : String) : Value → Prop where
  | key {members : Entries Value} (named : name ≠ "") : Accepts name (.object members)
  | position {items : List Value} {index : Nat}
      (reads : Number.readInteger .position name = .ok index) (within : index < items.length) :
      Accepts name (.array items)

theorem position?_eq_some_iff {size index : Nat} :
    position? size name = some index ↔
      Number.readInteger .position name = .ok index ∧ index < size := by
  rw [position?]
  cases reads : Number.readInteger .position name with
  | error fault =>
    constructor
    · intro placed
      cases placed
    · intro placed
      cases placed.1
  | ok value =>
    obtain ⟨natural, rfl⟩ := Number.exists_natural_of_readInteger reads
    simp only [Int.toNat_natCast, Option.ite_none_right_eq_some, Option.some.injEq,
      Except.ok.injEq, Int.natCast_inj]
    constructor
    · intro placed
      obtain ⟨within, rfl⟩ := placed
      exact ⟨rfl, within⟩
    · intro placed
      obtain ⟨rfl, within⟩ := placed
      exact ⟨within, rfl⟩

theorem accepts_iff (new : Value) :
    Accepts name container ↔ ∃ changed, container.withChild? name new = some changed := by
  constructor
  · intro accepts
    cases accepts with
    | key named => exact ⟨_, withChild?_eq_some_iff.mpr (.key named)⟩
    | position reads within =>
      have placed := position?_eq_some_iff.mpr ⟨reads, within⟩
      exact ⟨_, withChild?_eq_some_iff.mpr (.position placed)⟩
  · intro settable
    obtain ⟨changed, set⟩ := settable
    have takes : Takes name new container changed := withChild?_eq_some_iff.mp set
    cases takes with
    | key named => exact .key named
    | position placed =>
      obtain ⟨reads, within⟩ := position?_eq_some_iff.mp placed
      exact .position reads within

private theorem Accepts.ne_empty (accepts : Accepts name container) : name ≠ "" := by
  cases accepts with
  | key named => exact named
  | position reads =>
    intro empty
    rw [empty] at reads
    cases reads

/-- What refuses a name has no member under it, unless the name is empty. -/
private theorem child?_of_not_accepts (refuses : ¬ Accepts name container) (named : name ≠ "") :
    container.child? name = none := by
  cases container with
  | object members => exact absurd (.key named) refuses
  | array items =>
    have placeless : position? items.length name = none := by
      cases placed : position? items.length name with
      | none => rfl
      | some index =>
        obtain ⟨reads, within⟩ := position?_eq_some_iff.mp placed
        exact absurd (.position reads within) refuses
    rw [child?, placeless, Option.bind_none]
  | null | bool | number | string => rfl

private theorem assign_single_eq_error_iff :
    root.assign new [last] = .error segment ↔ ¬ Accepts last root ∧ segment = last := by
  rw [assign, accepts_iff new]
  cases root.withChild? last new with
  | none =>
    constructor
    · intro fails
      cases fails
      refine ⟨fun settable => ?_, rfl⟩
      obtain ⟨changed, impossible⟩ := settable
      cases impossible
    · intro refuses
      rw [refuses.2]
  | some changed =>
    constructor
    · intro fails
      cases fails
    · intro refuses
      exact absurd ⟨changed, rfl⟩ refuses.1

/-- A writing stops where reading the way to the last segment stops, and else at a container that
refuses the last segment. -/
theorem assign_concat_eq_error_iff :
    root.assign new (parents ++ [last]) = .error segment ↔
      root.walk parents = .error segment ∨
        ∃ container, root.walk parents = .ok container ∧ ¬ Accepts last container ∧
          segment = last := by
  induction parents generalizing root with
  | nil =>
    rw [List.nil_append, assign_single_eq_error_iff]
    constructor
    · intro stops
      exact .inr ⟨root, rfl, stops⟩
    · intro stopped
      rcases stopped with impossible | ⟨container, same, stops⟩
      · cases impossible
      · cases same
        exact stops
  | cons first rest ih =>
    -- Something is left to write below the first segment, so the writing enters its child.
    obtain ⟨next, others, split⟩ := List.exists_cons_of_ne_nil (List.concat_ne_nil last rest)
    rw [List.cons_append, split]
    cases found : root.child? first with
    | none =>
      rw [assign_of_no_child found, walk_cons_of_no_child found]
      constructor
      · exact .inl
      · intro stopped
        rcases stopped with stops | ⟨container, impossible, -⟩
        · exact stops
        · cases impossible
    | some child =>
      rw [assign_inside (child?_eq_some_iff.mp found), map_eq_error_iff, ← split, ih,
        walk_cons_of_child? found]

theorem exists_assign_concat_iff :
    (∃ changed, root.assign new (parents ++ [last]) = .ok changed) ↔
      ∃ container, root.walk parents = .ok container ∧ Accepts last container := by
  constructor
  · intro goes
    obtain ⟨changed, assigned⟩ := goes
    have goesThrough : ∀ blamed, root.assign new (parents ++ [last]) ≠ .error blamed := by
      intro blamed fails
      rw [assigned] at fails
      cases fails
    cases reaches : root.walk parents with
    | error blamed =>
      exact absurd (assign_concat_eq_error_iff.mpr (.inl reaches)) (goesThrough blamed)
    | ok container =>
      refine ⟨container, rfl, Classical.byContradiction fun refuses => goesThrough last ?_⟩
      exact assign_concat_eq_error_iff.mpr (.inr ⟨container, reaches, refuses, rfl⟩)
  · intro accepted
    obtain ⟨container, reaches, accepts⟩ := accepted
    cases assigned : root.assign new (parents ++ [last]) with
    | ok changed => exact ⟨changed, rfl⟩
    | error blamed =>
      rcases assign_concat_eq_error_iff.mp assigned with fails | ⟨other, same, refuses, -⟩
      · rw [reaches] at fails
        cases fails
      · rw [reaches] at same
        cases same
        exact absurd accepts refuses

/-- Where one value can be written, no value that refuses to be written there can be read. -/
theorem exists_walk_error_of_assign {other changed : Value}
    (assigns : Assigns new other path changed) (fails : root.assign new path = .error segment) :
    ∃ blamed, root.walk path = .error blamed := by
  have assigned := assign_eq_ok_iff.mpr assigns
  rcases List.eq_nil_or_concat' path with rfl | ⟨parents, last, rfl⟩
  · cases assigned
  · obtain ⟨there, -, accepts⟩ := exists_assign_concat_iff.mp ⟨changed, assigned⟩
    rw [walk_append]
    rcases assign_concat_eq_error_iff.mp fails with stops | ⟨container, reaches, refuses, -⟩
    · rw [stops]
      exact ⟨segment, rfl⟩
    · rw [reaches]
      exact ⟨last, walk_cons_of_no_child (child?_of_not_accepts refuses accepts.ne_empty) []⟩

theorem assignPath_eq_error_iff {error : PathError} :
    root.assignPath path new = .error error ↔
      root.assign new path = .error error.segment ∧ error.path = path :=
  mapError_eq_error_iff

/-- The segment at which reading a path fails, and another one when it does not. -/
def blamedOr (otherwise : String) : Except PathError Value → String
  | .error error => error.segment
  | .ok _ => otherwise

/-- Writing goes through where the path to the last segment can be read and ends at a container that
takes the segment, and otherwise it blames the segment that reading blames, or else the last one.
Reading goes on from where reading a part of the path ends, and it blames the first segment that
leads nowhere. Either way the error tells the whole path, joined with dots. The empty path leads to
the root and cannot be written. -/
theorem resolvePath_assignPath_agree (root new : Value) :
    (∀ parents last,
      ((∃ changed, root.assignPath (parents ++ [last]) new = .ok changed) ↔
        ∃ container, root.resolvePath parents = .ok container ∧ Accepts last container) ∧
      ∀ error, root.assignPath (parents ++ [last]) new = .error error →
        error.segment = blamedOr last (root.resolvePath parents) ∧
          error.path = parents ++ [last]) ∧
    (∀ first second value, root.resolvePath (first ++ second) = .ok value ↔
      ∃ middle, root.resolvePath first = .ok middle ∧ middle.resolvePath second = .ok value) ∧
    (∀ path error, root.resolvePath path = .error error ↔
      error.path = path ∧
        ∃ before after, path = before ++ error.segment :: after ∧
          Stops root before error.segment) ∧
    (∀ path error, root.resolvePath path = .error error ∨ root.assignPath path new = .error error →
      error.message =
        "'" ++ error.segment ++ "' not found in '" ++ ".".intercalate path ++ "'") ∧
    root.resolvePath [] = .ok root ∧ root.assignPath [] new = .error ⟨"", []⟩ := by
  refine ⟨fun parents last => ⟨?_, ?_⟩, ?_, ?_, ?_, rfl, rfl⟩
  · simp only [assignPath_eq_ok_iff, ← assign_eq_ok_iff, resolvePath_eq_ok_iff]
    exact exists_assign_concat_iff
  · intro error fails
    obtain ⟨assigned, tells⟩ := assignPath_eq_error_iff.mp fails
    refine ⟨?_, tells⟩
    rw [resolvePath]
    rcases assign_concat_eq_error_iff.mp assigned with stops | ⟨container, reaches, -, same⟩
    · rw [stops]
      rfl
    · rw [reaches]
      exact same
  · intro first second value
    simp only [resolvePath_eq_ok_iff]
    exact walk_append_eq_ok_iff
  · intro path error
    rw [resolvePath_eq_error_iff, walk_eq_error_iff, and_comm]
  · intro path error fails
    have tells : error.path = path :=
      fails.elim (fun reads => (resolvePath_eq_error_iff.mp reads).2)
        fun writes => (assignPath_eq_error_iff.mp writes).2
    rw [PathError.message, Text.dotted, tells]

end Stencil.Value
