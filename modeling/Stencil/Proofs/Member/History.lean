import Mathlib.Data.List.Induction
import Stencil.Member.Builtin
import Stencil.Proofs.Member.Resolution

/-!
# What a history of registrations resolves to

A registry is what registrations made of an empty or of the builtin one, and it answers from their
history alone. Of the members that were registered under one type and name only the last counts, and
members of other types never do. A request that cannot be met may be open to several objections; the
first of them, in the order of `ResolutionError.rank`, is reported.
-/

set_option autoImplicit false

namespace Stencil

structure Registration (σ : Type) where
  type : String
  name : String
  member : Member σ

variable {σ : Type}

def Registration.Concerns (registration : Registration σ) (type name : String) : Prop :=
  registration.type = type ∧ registration.name = name

/-- The member that was registered last under a type and a name. -/
def LastRegistered (history : List (Registration σ)) (type name : String) (member : Member σ) :
    Prop :=
  ∃ before after, history = before ++ ⟨type, name, member⟩ :: after ∧
    ∀ later ∈ after, ¬ later.Concerns type name

/-- The place of an error in the order in which a request is checked. -/
def ResolutionError.rank : ResolutionError → Nat
  | unknownType _ => 0
  | unknownMember .. => 1
  | notPublic .. => 2
  | notStatic .. => 3
  | kindMismatch .. => 4
  | parameterCount .. => 5
  | parameterType .. => 6

/-- What can be held against a request, whatever else can. -/
inductive Objection (history : List (Registration σ)) (type name : String) :
    MemberShape → ResolutionError → Prop where
  | unknownType {asked : MemberShape}
      (absent : ∀ registration ∈ history, registration.type ≠ type) :
      Objection history type name asked (.unknownType type)
  | unknownMember {asked : MemberShape}
      (absent : ∀ registration ∈ history, ¬ registration.Concerns type name) :
      Objection history type name asked (.unknownMember type name)
  | notPublic {asked : MemberShape} {member : Member σ}
      (last : LastRegistered history type name member) (hidden : member.visibility ≠ .publicly) :
      Objection history type name asked (.notPublic type name)
  | notStatic {asked : MemberShape} {member : Member σ}
      (last : LastRegistered history type name member) (bound : member.isStatic = false) :
      Objection history type name asked (.notStatic type name)
  | kindMismatch {asked : MemberShape} {member : Member σ}
      (last : LastRegistered history type name member) (differ : member.shape.name ≠ asked.name) :
      Objection history type name asked (.kindMismatch type name asked.name member.shape.name)
  | parameterCount {member : Member σ} {declared given : List ParameterKind}
      (last : LastRegistered history type name member) (shape : member.shape = .method declared)
      (lengths : declared.length ≠ given.length) :
      Objection history type name (.method given)
        (.parameterCount type name declared.length given.length)
  | parameterType {member : Member σ} {declared given : List ParameterKind} {index : Nat}
      {expected actual : ParameterKind}
      (last : LastRegistered history type name member) (shape : member.shape = .method declared)
      (mismatch : FirstMismatch declared given index expected actual) :
      Objection history type name (.method given)
        (.parameterType type name index expected actual)

structure FirstObjection (history : List (Registration σ)) (type name : String)
    (asked : MemberShape) (error : ResolutionError) : Prop where
  applies : Objection history type name asked error
  first : ∀ other, Objection history type name asked other → error.rank ≤ other.rank

/-- What a member of a type and a name computes when it is resolved. -/
def Member.computation (type name : String) (member : Member σ) : Computed σ :=
  match member.shape with
  | .property => ⟨type ++ "." ++ name, fun _ => member.compute []⟩
  | .method declared =>
    ⟨type ++ "." ++ name, Registry.call (type ++ "." ++ name) declared member.compute⟩

namespace Registry

def resolve (registry : Registry σ) (type name : String) :
    MemberShape → Except ResolutionError (Computed σ)
  | .property => registry.resolveProperty type name
  | .method given => registry.resolveMethod type name given

/-- The registrations of the builtin registry. -/
def builtinMembers [Situated σ] : List (Registration σ) :=
  [⟨"DateTime", "Today", .today⟩, ⟨"DateTime", "UtcNow", .utcNow⟩,
   ⟨"Environment", "CurrentDirectory", .currentDirectory⟩,
   ⟨"Environment", "MachineName", .machineName⟩,
   ⟨"Environment", "GetEnvironmentVariable", .environmentVariable⟩]

/-- The registries that registering leads to, with everything that was registered, in order. -/
inductive Reached [Situated σ] : List (Registration σ) → Registry σ → Prop where
  | empty : Reached [] .empty
  | builtin : Reached builtinMembers .builtin
  | register {history : List (Registration σ)} {registry : Registry σ}
      (reached : Reached history registry) (type name : String) (member : Member σ) :
      Reached (history ++ [⟨type, name, member⟩]) (registry.register type name member)

end Registry

/-! ## The last registration -/

section Last

variable {history : List (Registration σ)} {type name : String} {member : Member σ}

private theorem LastRegistered.mem (last : LastRegistered history type name member) :
    ⟨type, name, member⟩ ∈ history := by
  obtain ⟨before, after, split, -⟩ := last
  rw [split]
  exact List.mem_append_right before List.mem_cons_self

private theorem lastRegistered_concat {registration : Registration σ} :
    LastRegistered (history ++ [registration]) type name member ↔
      registration = ⟨type, name, member⟩ ∨
        ¬ registration.Concerns type name ∧ LastRegistered history type name member := by
  constructor
  · intro last
    obtain ⟨before, after, split, later⟩ := last
    induction after using List.reverseRecOn with
    | nil => exact .inl (List.singleton_inj.mp (List.append_inj_right' split rfl))
    | append_singleton after newest _ =>
      have regrouped : history ++ [registration] =
          (before ++ ⟨type, name, member⟩ :: after) ++ [newest] := by
        rw [split, List.append_assoc, List.cons_append]
      obtain ⟨earlier, same⟩ := List.append_inj' regrouped rfl
      obtain rfl : registration = newest := List.singleton_inj.mp same
      refine .inr ⟨later registration (List.mem_append_right after List.mem_cons_self), before,
        after, earlier, ?_⟩
      intro other among
      exact later other (List.mem_append_left _ among)
  · intro either
    cases either with
    | inl same =>
      subst same
      exact ⟨history, [], rfl, nofun⟩
    | inr earlier =>
      obtain ⟨apart, before, after, rfl, later⟩ := earlier
      refine ⟨before, after ++ [registration], by rw [List.append_assoc, List.cons_append], ?_⟩
      intro other among
      cases List.mem_append.mp among with
      | inl among => exact later other among
      | inr newest =>
        obtain rfl := List.mem_singleton.mp newest
        exact apart

private theorem exists_lastRegistered {registration : Registration σ}
    (among : registration ∈ history)
    (concerns : registration.Concerns type name) :
    ∃ member, LastRegistered history type name member := by
  induction history using List.reverseRecOn with
  | nil => cases among
  | append_singleton history newest ih =>
    by_cases same : newest.Concerns type name
    · obtain ⟨rfl, rfl⟩ := same
      exact ⟨newest.member, lastRegistered_concat.mpr (.inl rfl)⟩
    · cases List.mem_append.mp among with
      | inl earlier =>
        obtain ⟨member, last⟩ := ih earlier
        exact ⟨member, lastRegistered_concat.mpr (.inr ⟨same, last⟩)⟩
      | inr newly =>
        obtain rfl := List.mem_singleton.mp newly
        exact absurd concerns same

/-- Only the registrations under a type decide which member of it was registered last. -/
private theorem lastRegistered_filter :
    LastRegistered (history.filter (·.type = type)) type name member ↔
      LastRegistered history type name member := by
  induction history using List.reverseRecOn with
  | nil => rfl
  | append_singleton history newest ih =>
    rw [lastRegistered_concat, ← ih]
    by_cases concerned : newest.type = type
    · have kept : (history ++ [newest]).filter (·.type = type) =
          history.filter (·.type = type) ++ [newest] := by
        simp only [List.filter_append, List.filter_cons, List.filter_nil, concerned, decide_true,
          if_true]
      rw [kept, lastRegistered_concat]
    · have dropped : (history ++ [newest]).filter (·.type = type) =
          history.filter (·.type = type) := by
        simp only [List.filter_append, List.filter_cons, List.filter_nil, concerned, decide_false,
          Bool.false_eq_true, if_false, List.append_nil]
      have apart : newest ≠ ⟨type, name, member⟩ := by
        intro same
        exact concerned (congrArg Registration.type same)
      have other : ¬ newest.Concerns type name := fun concerns => concerned concerns.1
      rw [dropped]
      simp only [apart, other, not_false_eq_true, false_or, true_and]

end Last

namespace Registry

variable {history : List (Registration σ)} {registry : Registry σ}

/-! ## What a registry remembers of its history -/

structure Records (history : List (Registration σ)) (registry : Registry σ) : Prop where
  types : ∀ type, registry.types.get? type = none ↔
    ∀ registration ∈ history, registration.type ≠ type
  members : ∀ type name member, registry.member? type name = some member ↔
    LastRegistered history type name member

private theorem types_register (registry : Registry σ) (type name : String) (member : Member σ)
    (other : String) :
    (registry.register type name member).types.get? other =
      if other = type then
        some (((registry.types.get? type).getD .empty).insert name member)
      else registry.types.get? other :=
  Dictionary.get?_insert ..

private theorem member?_register (registry : Registry σ) (type name : String) (member : Member σ)
    (otherType other : String) :
    (registry.register type name member).member? otherType other =
      if otherType = type ∧ other = name then some member
      else registry.member? otherType other := by
  rw [member?, types_register]
  by_cases sameType : otherType = type
  · subst sameType
    rw [if_pos rfl, Option.bind_some, Dictionary.get?_insert]
    simp only [true_and]
    by_cases same : other = name
    · rw [if_pos same, if_pos same]
    · rw [if_neg same, if_neg same, member?]
      cases registry.types.get? otherType <;> rfl
  · rw [if_neg sameType, if_neg fun both => sameType both.1, member?]

theorem records_empty : Records [] (empty : Registry σ) := by
  constructor
  · intro type
    exact ⟨fun _ => nofun, fun _ => rfl⟩
  · intro type name member
    constructor
    · nofun
    · intro last
      cases last.mem

theorem Records.register (records : Records history registry) (type name : String)
    (member : Member σ) :
    Records (history ++ [⟨type, name, member⟩]) (registry.register type name member) := by
  constructor
  · intro other
    rw [types_register, List.forall_mem_append, List.forall_mem_singleton]
    by_cases same : other = type
    · rw [if_pos same]
      exact ⟨nofun, fun absent => absurd same.symm absent.2⟩
    · rw [if_neg same, records.types]
      exact ⟨fun absent => ⟨absent, Ne.symm same⟩, And.left⟩
  · intro otherType other otherMember
    rw [member?_register, lastRegistered_concat, ← records.members]
    by_cases same : otherType = type ∧ other = name
    · obtain ⟨rfl, rfl⟩ := same
      have concerns : Registration.Concerns ⟨otherType, other, member⟩ otherType other := ⟨rfl, rfl⟩
      simp only [and_self, if_true, concerns, not_true_eq_false, false_and, or_false,
        Option.some.injEq, Registration.mk.injEq, true_and]
    · have apart : ¬ Registration.Concerns ⟨type, name, member⟩ otherType other :=
        fun concerns => same ⟨concerns.1.symm, concerns.2.symm⟩
      have different :
          (⟨type, name, member⟩ : Registration σ) ≠ ⟨otherType, other, otherMember⟩ := by
        intro equal
        cases equal
        exact same ⟨rfl, rfl⟩
      simp only [if_neg same, apart, different, not_false_eq_true, true_and, false_or]

theorem records_of_reached [Situated σ] (reached : Reached history registry) :
    Records history registry := by
  induction reached with
  | empty => exact records_empty
  | builtin =>
    exact ((((records_empty.register _ _ _).register _ _ _).register _ _ _).register _ _ _).register
      _ _ _
  | register _ type name member ih => exact ih.register type name member

theorem Records.member?_eq_none_iff (records : Records history registry) {type name : String} :
    registry.member? type name = none ↔
      ∀ registration ∈ history, ¬ registration.Concerns type name := by
  constructor
  · intro missing registration among concerns
    obtain ⟨member, last⟩ := exists_lastRegistered among concerns
    cases ((records.members ..).mpr last).symm.trans missing
  · intro absent
    cases found : registry.member? type name with
    | none => rfl
    | some member => exact absurd ⟨rfl, rfl⟩ (absent _ ((records.members ..).mp found).mem)

private theorem Records.last_unique (records : Records history registry) {type name : String}
    {member other : Member σ} (last : LastRegistered history type name member)
    (lastOther : LastRegistered history type name other) : member = other := by
  have found := (records.members ..).mpr last
  rw [(records.members ..).mpr lastOther] at found
  exact (Option.some.inj found).symm

/-! ## Objections -/

variable {type name : String} {asked : MemberShape} {error : ResolutionError}

theorem resolve_eq_ok_iff {computation : Computed σ} :
    registry.resolve type name asked = .ok computation ↔
      ∃ member, registry.Exposes type name member ∧ member.shape = asked ∧
        computation = member.computation type name := by
  cases asked with
  | property =>
    refine resolveProperty_eq_ok_iff.trans (exists_congr fun member => and_congr_right fun _ => ?_)
    refine and_congr_right fun shape => ?_
    simp only [Member.computation, shape, eq_comm]
  | method given =>
    refine resolveMethod_eq_ok_iff.trans (exists_congr fun member => and_congr_right fun _ => ?_)
    refine and_congr_right fun shape => ?_
    simp only [Member.computation, shape, eq_comm]

theorem resolve_eq_error_iff :
    registry.resolve type name asked = .error error ↔ registry.Refuses type name asked error := by
  cases asked with
  | property => exact resolveProperty_eq_error_iff
  | method given => exact resolveMethod_eq_error_iff

theorem Refuses.unique {other : ResolutionError} (refuses : registry.Refuses type name asked error)
    (refusesOther : registry.Refuses type name asked other) : error = other := by
  have reported := resolve_eq_error_iff.mpr refuses
  rw [resolve_eq_error_iff.mpr refusesOther] at reported
  exact (Except.error.inj reported).symm

private theorem Refuses.objection (records : Records history registry)
    (refuses : registry.Refuses type name asked error) :
    Objection history type name asked error := by
  have last : ∀ {member : Member σ}, registry.member? type name = some member →
      LastRegistered history type name member := (records.members ..).mp
  cases refuses with
  | hidden hidden =>
    cases hidden with
    | unknownType absent => exact .unknownType ((records.types type).mp absent)
    | unknownMember listed absent =>
      have missing : registry.member? type name = none := by
        rw [member?, listed, Option.bind_some, absent]
      exact .unknownMember (records.member?_eq_none_iff.mp missing)
    | notPublic found hidden => exact .notPublic (last found) hidden
    | notStatic found _ bound => exact .notStatic (last found) bound
  | @notProperty member declared exposed shape =>
    have differ : member.shape.name ≠ MemberShape.property.name := by
      rw [shape]
      exact of_decide_eq_true rfl
    simpa only [shape, MemberShape.name] using Objection.kindMismatch (last exposed.found) differ
  | @notMethod member given exposed shape =>
    have differ : member.shape.name ≠ (MemberShape.method given).name := by
      rw [shape]
      exact of_decide_eq_true rfl
    simpa only [shape, MemberShape.name] using Objection.kindMismatch (last exposed.found) differ
  | count exposed shape lengths => exact .parameterCount (last exposed.found) shape lengths
  | parameter exposed shape _ mismatch => exact .parameterType (last exposed.found) shape mismatch

private theorem refuses_of_missing (missing : registry.member? type name = none) :
    ∃ reported, registry.Refuses type name asked reported ∧ reported.rank ≤ 1 := by
  cases listed : registry.types.get? type with
  | none => exact ⟨_, .hidden (.unknownType listed), Nat.zero_le 1⟩
  | some members =>
    rw [member?, listed, Option.bind_some] at missing
    exact ⟨_, .hidden (.unknownMember listed missing), Nat.le_refl 1⟩

private theorem exposes_or_refuses (asked : MemberShape) {member : Member σ}
    (found : registry.member? type name = some member) :
    registry.Exposes type name member ∨
      ∃ reported, registry.Refuses type name asked reported ∧ reported.rank ≤ 3 := by
  by_cases visible : member.visibility = .publicly
  · cases bound : member.isStatic with
    | true => exact .inl ⟨found, visible, bound⟩
    | false => exact .inr ⟨_, .hidden (.notStatic found visible bound), Nat.le_refl 3⟩
  · exact .inr ⟨_, .hidden (.notPublic found visible), Nat.le_succ 2⟩

/-- Where there is an objection, something is reported, and nothing that is checked later. -/
private theorem exists_refuses (records : Records history registry)
    (objection : Objection history type name asked error) :
    ∃ reported, registry.Refuses type name asked reported ∧ reported.rank ≤ error.rank := by
  have found : ∀ {member : Member σ}, LastRegistered history type name member →
      registry.member? type name = some member := (records.members ..).mpr
  cases objection with
  | unknownType absent =>
    exact ⟨_, .hidden (.unknownType ((records.types type).mpr absent)), Nat.le_refl 0⟩
  | unknownMember absent => exact refuses_of_missing (records.member?_eq_none_iff.mpr absent)
  | notPublic last hidden => exact ⟨_, .hidden (.notPublic (found last) hidden), Nat.le_refl 2⟩
  | notStatic last bound =>
    cases exposes_or_refuses _ (found last) with
    | inl exposed => cases exposed.isStatic.symm.trans bound
    | inr refused => exact refused
  | @kindMismatch _ member last differ =>
    cases exposes_or_refuses asked (found last) with
    | inl exposed =>
      cases shape : member.shape with
      | property =>
        cases asked with
        | property => exact absurd (congrArg MemberShape.name shape) differ
        | method given => exact ⟨_, .notMethod exposed shape, Nat.le_refl 4⟩
      | method declared =>
        cases asked with
        | property => exact ⟨_, .notProperty exposed shape, Nat.le_refl 4⟩
        | method given => exact absurd (congrArg MemberShape.name shape) differ
    | inr refused =>
      obtain ⟨reported, refuses, early⟩ := refused
      exact ⟨reported, refuses, Nat.le_succ_of_le early⟩
  | parameterCount last shape lengths =>
    cases exposes_or_refuses _ (found last) with
    | inl exposed => exact ⟨_, .count exposed shape lengths, Nat.le_refl 5⟩
    | inr refused =>
      obtain ⟨reported, refuses, early⟩ := refused
      exact ⟨reported, refuses, Nat.le_add_right_of_le (k := 2) early⟩
  | @parameterType member declared given index expected actual last shape mismatch =>
    cases exposes_or_refuses _ (found last) with
    | inl exposed =>
      by_cases lengths : declared.length = given.length
      · exact ⟨_, .parameter exposed shape lengths mismatch, Nat.le_refl 6⟩
      · exact ⟨_, .count exposed shape lengths, Nat.le_succ 5⟩
    | inr refused =>
      obtain ⟨reported, refuses, early⟩ := refused
      exact ⟨reported, refuses, Nat.le_add_right_of_le (k := 3) early⟩

private theorem firstMismatch_unique {declared given : List ParameterKind} {index otherIndex : Nat}
    {expected actual otherExpected otherActual : ParameterKind}
    (mismatch : FirstMismatch declared given index expected actual)
    (other : FirstMismatch declared given otherIndex otherExpected otherActual) :
    index = otherIndex ∧ expected = otherExpected ∧ actual = otherActual := by
  have found : firstDifference? 0 declared given = some (0 + index, expected, actual) :=
    firstDifference?_of_mismatch mismatch
  rw [firstDifference?_of_mismatch other] at found
  simpa [eq_comm] using found

/-- At most one objection of each kind can be made to a request. -/
private theorem Objection.eq_of_rank (records : Records history registry) {other : ResolutionError}
    (objection : Objection history type name asked error)
    (objectionOther : Objection history type name asked other) (same : error.rank = other.rank) :
    error = other := by
  cases objection with
  | unknownType _ =>
    cases objectionOther with
    | unknownType _ => rfl
    | _ => cases same
  | unknownMember _ =>
    cases objectionOther with
    | unknownMember _ => rfl
    | _ => cases same
  | notPublic _ _ =>
    cases objectionOther with
    | notPublic _ _ => rfl
    | _ => cases same
  | notStatic _ _ =>
    cases objectionOther with
    | notStatic _ _ => rfl
    | _ => cases same
  | kindMismatch last _ =>
    cases objectionOther with
    | kindMismatch lastOther _ => rw [records.last_unique last lastOther]
    | _ => cases same
  | parameterCount last shape _ =>
    cases objectionOther with
    | parameterCount lastOther shapeOther _ =>
      obtain rfl := records.last_unique last lastOther
      obtain rfl := MemberShape.method.inj (shape.symm.trans shapeOther)
      rfl
    | _ => cases same
  | parameterType last shape mismatch =>
    cases objectionOther with
    | parameterType lastOther shapeOther mismatchOther =>
      obtain rfl := records.last_unique last lastOther
      obtain rfl := MemberShape.method.inj (shape.symm.trans shapeOther)
      obtain ⟨rfl, rfl, rfl⟩ := firstMismatch_unique mismatch mismatchOther
      rfl
    | _ => cases same

/-- What a registry reports is the first objection. -/
theorem refuses_iff_firstObjection (records : Records history registry) :
    registry.Refuses type name asked error ↔ FirstObjection history type name asked error := by
  constructor
  · intro refuses
    refine ⟨refuses.objection records, fun other objection => ?_⟩
    obtain ⟨reported, refusesReported, early⟩ := exists_refuses records objection
    rwa [refuses.unique refusesReported]
  · intro first
    obtain ⟨reported, refuses, early⟩ := exists_refuses records first.applies
    have objection := refuses.objection records
    have late := first.first reported objection
    have same := Objection.eq_of_rank records first.applies objection (Nat.le_antisymm late early)
    rwa [same]

/-! ## Registries with one history of a type -/

theorem Records.types_eq {others : List (Registration σ)} {other : Registry σ}
    (records : Records history registry) (recordsOther : Records others other)
    (same : history.filter (·.type = type) = others.filter (·.type = type)) :
    registry.types.get? type = other.types.get? type := by
  have found : ∀ name, registry.member? type name = other.member? type name := by
    intro name
    apply Option.ext
    intro member
    rw [records.members, recordsOther.members, ← lastRegistered_filter, same,
      lastRegistered_filter]
  have known : registry.types.get? type = none ↔ other.types.get? type = none := by
    have absent : ∀ list : List (Registration σ),
        (∀ registration ∈ list, registration.type ≠ type) ↔
          list.filter (·.type = type) = [] := by
      intro list
      simp only [List.filter_eq_nil_iff, decide_eq_true_eq, ne_eq]
    rw [records.types, recordsOther.types, absent, absent, same]
  cases listed : registry.types.get? type with
  | none => exact (known.mp listed).symm
  | some members =>
    cases listedOther : other.types.get? type with
    | none => cases (known.mpr listedOther).symm.trans listed
    | some otherMembers =>
      refine congrArg some (Dictionary.ext_get? fun name => ?_)
      simpa only [member?, listed, listedOther, Option.bind_some] using found name

theorem resolve_congr {other : Registry σ}
    (same : registry.types.get? type = other.types.get? type) :
    registry.resolve type name asked = other.resolve type name asked := by
  cases asked <;>
    simp only [resolve, resolveProperty, resolveMethod, lookup, same]

/-- A registry resolves the members that were registered last under their type and name, are public
and static and have the whole shape that is asked for. Otherwise it reports the first objection.
What was registered under other types never matters. -/
theorem resolve_reached [Situated σ] (reached : Reached history registry) (type name : String)
    (asked : MemberShape) :
    (∀ computation, registry.resolve type name asked = .ok computation ↔
      ∃ member, LastRegistered history type name member ∧ member.visibility = .publicly ∧
        member.isStatic = true ∧ member.shape = asked ∧
        computation = member.computation type name) ∧
    (∀ error, registry.resolve type name asked = .error error ↔
      FirstObjection history type name asked error) ∧
    ∀ others other, Reached others other →
      history.filter (·.type = type) = others.filter (·.type = type) →
        registry.resolve type name asked = other.resolve type name asked := by
  have records := records_of_reached reached
  refine ⟨fun computation => ?_, fun error => ?_, fun others other reachedOther same => ?_⟩
  · refine resolve_eq_ok_iff.trans (exists_congr fun member => ?_)
    constructor
    · intro resolved
      obtain ⟨exposed, shape, computes⟩ := resolved
      exact ⟨(records.members ..).mp exposed.found, exposed.visible, exposed.isStatic, shape,
        computes⟩
    · intro registered
      obtain ⟨last, visible, isStatic, shape, computes⟩ := registered
      exact ⟨⟨(records.members ..).mpr last, visible, isStatic⟩, shape, computes⟩
  · exact resolve_eq_error_iff.trans (refuses_iff_firstObjection records)
  · exact resolve_congr (records.types_eq (records_of_reached reachedOther) same)

/-- A method of instances that is not public, registered in place of a builtin property: of the
three objections to asking for the property, the visibility is reported. -/
theorem resolve_reached_in_place_of_builtin :
    let hidden : Member Surroundings :=
      ⟨.method [.integer], .internally, false, fun _ state => (.ok .null, state)⟩
    let history := builtinMembers ++ [⟨"Environment", "MachineName", hidden⟩]
    Reached history (builtin.register "Environment" "MachineName" hidden) ∧
      Objection history "Environment" "MachineName" .property
        (.kindMismatch "Environment" "MachineName" "property" "method") ∧
      Objection history "Environment" "MachineName" .property
        (.notStatic "Environment" "MachineName") ∧
      FirstObjection history "Environment" "MachineName" .property
        (.notPublic "Environment" "MachineName") := by
  intro hidden history
  have reached : Reached history (builtin.register "Environment" "MachineName" hidden) :=
    .register .builtin "Environment" "MachineName" hidden
  have last : LastRegistered history "Environment" "MachineName" hidden :=
    ⟨builtinMembers, [], rfl, nofun⟩
  have differ : hidden.shape.name ≠ MemberShape.property.name := by decide
  refine ⟨reached, .kindMismatch last differ, .notStatic last rfl, ?_⟩
  exact ((resolve_reached reached "Environment" "MachineName" .property).2.1 _).mp rfl

end Registry

end Stencil
