import Stencil.Member.Registry

/-!
# Which members resolve

A member resolves when it is exposed, that is public and static, and has the whole signature that is
asked for. Every other request is refused for the first reason that applies, in the order in which
the registry checks: the type, the member, its visibility, that it is static, its kind, the number
of its parameters and their kinds.
-/

set_option autoImplicit false

namespace Stencil

variable {σ : Type}

/-- Where two lists of kinds differ for the first time. -/
structure FirstMismatch (declared given : List ParameterKind) (index : Nat)
    (expected actual : ParameterKind) : Prop where
  ofDeclared : declared[index]? = some expected
  ofGiven : given[index]? = some actual
  differ : expected ≠ actual
  earlier : ∀ place < index, declared[place]? = given[place]?

namespace Registry

def member? (registry : Registry σ) (type name : String) : Option (Member σ) :=
  (registry.types.get? type).bind (·.get? name)

/-- The members that a configuration may name. -/
structure Exposes (registry : Registry σ) (type name : String) (member : Member σ) : Prop where
  found : registry.member? type name = some member
  visible : member.visibility = .publicly
  isStatic : member.isStatic = true

/-- Why no member is exposed under a name. -/
inductive Hides (registry : Registry σ) (type name : String) : ResolutionError → Prop where
  | unknownType (absent : registry.types.get? type = none) :
      Hides registry type name (.unknownType type)
  | unknownMember {members : Dictionary (Member σ)}
      (listed : registry.types.get? type = some members) (absent : members.get? name = none) :
      Hides registry type name (.unknownMember type name)
  | notPublic {member : Member σ} (found : registry.member? type name = some member)
      (hidden : member.visibility ≠ .publicly) :
      Hides registry type name (.notPublic type name)
  | notStatic {member : Member σ} (found : registry.member? type name = some member)
      (visible : member.visibility = .publicly) (bound : member.isStatic = false) :
      Hides registry type name (.notStatic type name)

/-- Why a request for a shape of member is refused. Each reason excludes those before it. -/
inductive Refuses (registry : Registry σ) (type name : String) :
    MemberShape → ResolutionError → Prop where
  | hidden {asked : MemberShape} {error : ResolutionError}
      (hidden : registry.Hides type name error) :
      Refuses registry type name asked error
  | notProperty {member : Member σ} {declared : List ParameterKind}
      (exposed : registry.Exposes type name member) (shape : member.shape = .method declared) :
      Refuses registry type name .property (.kindMismatch type name "property" "method")
  | notMethod {member : Member σ} {given : List ParameterKind}
      (exposed : registry.Exposes type name member) (shape : member.shape = .property) :
      Refuses registry type name (.method given) (.kindMismatch type name "method" "property")
  | count {member : Member σ} {declared given : List ParameterKind}
      (exposed : registry.Exposes type name member) (shape : member.shape = .method declared)
      (lengths : declared.length ≠ given.length) :
      Refuses registry type name (.method given)
        (.parameterCount type name declared.length given.length)
  | parameter {member : Member σ} {declared given : List ParameterKind} {index : Nat}
      {expected actual : ParameterKind}
      (exposed : registry.Exposes type name member) (shape : member.shape = .method declared)
      (lengths : declared.length = given.length)
      (mismatch : FirstMismatch declared given index expected actual) :
      Refuses registry type name (.method given) (.parameterType type name index expected actual)

variable {registry : Registry σ} {type name : String}

/-! ## Looking a member up -/

private theorem lookup_of_member? {member : Member σ}
    (found : registry.member? type name = some member) :
    registry.lookup type name =
      if member.visibility ≠ .publicly then .error (.notPublic type name)
      else if !member.isStatic then .error (.notStatic type name)
      else .ok member := by
  obtain ⟨members, listed, present⟩ := Option.bind_eq_some_iff.mp found
  simp only [lookup, listed, present]

private theorem hides_of_member?_eq_none (absent : registry.member? type name = none) :
    ∃ error, registry.lookup type name = .error error ∧ registry.Hides type name error := by
  cases listed : registry.types.get? type with
  | none => exact ⟨_, by simp only [lookup, listed], .unknownType listed⟩
  | some members =>
    simp only [member?, listed, Option.bind_some] at absent
    exact ⟨_, by simp only [lookup, listed, absent], .unknownMember listed absent⟩

theorem lookup_eq_ok_iff {member : Member σ} :
    registry.lookup type name = .ok member ↔ registry.Exposes type name member := by
  constructor
  · intro succeeded
    cases found : registry.member? type name with
    | none =>
      obtain ⟨error, refused, -⟩ := hides_of_member?_eq_none found
      cases refused.symm.trans succeeded
    | some candidate =>
      rw [lookup_of_member? found] at succeeded
      split at succeeded
      case isTrue => cases succeeded
      case isFalse visible =>
        split at succeeded
        case isTrue => cases succeeded
        case isFalse isStatic =>
          cases succeeded
          exact ⟨found, Decidable.not_not.mp visible, by simpa using isStatic⟩
  · rintro ⟨found, visible, isStatic⟩
    simp only [lookup_of_member? found, visible, isStatic, ne_eq, not_true_eq_false, if_false,
      Bool.not_true, Bool.false_eq_true]

theorem lookup_eq_error_iff {error : ResolutionError} :
    registry.lookup type name = .error error ↔ registry.Hides type name error := by
  constructor
  · intro refused
    cases found : registry.member? type name with
    | none =>
      obtain ⟨other, same, hidden⟩ := hides_of_member?_eq_none found
      cases same.symm.trans refused
      exact hidden
    | some member =>
      rw [lookup_of_member? found] at refused
      split at refused
      case isTrue hidden =>
        cases refused
        exact .notPublic found hidden
      case isFalse visible =>
        split at refused
        case isTrue bound =>
          cases refused
          exact .notStatic found (Decidable.not_not.mp visible) (by simpa using bound)
        case isFalse => cases refused
  · rintro (absent | ⟨listed, absent⟩ | ⟨found, hidden⟩ | ⟨found, visible, bound⟩)
    · simp only [lookup, absent]
    · simp only [lookup, listed, absent]
    · simp only [lookup_of_member? found, hidden, ne_eq, not_false_eq_true, if_true]
    · simp only [lookup_of_member? found, visible, bound, ne_eq, not_true_eq_false, if_false,
        Bool.not_false, if_true]

/-! ## Comparing parameters -/

private theorem firstDifference?_eq_some {start index : Nat} {declared given : List ParameterKind}
    {expected actual : ParameterKind}
    (found : firstDifference? start declared given = some (index, expected, actual)) :
    ∃ offset, index = start + offset ∧ FirstMismatch declared given offset expected actual := by
  induction declared generalizing given start with
  | nil => cases found
  | cons left declared ih =>
    cases given with
    | nil => cases found
    | cons right given =>
      rw [firstDifference?] at found
      split at found
      case isTrue same =>
        obtain ⟨offset, rfl, mismatch⟩ := ih found
        refine ⟨offset + 1, Nat.add_right_comm start 1 offset, mismatch.ofDeclared,
          mismatch.ofGiven, mismatch.differ, ?_⟩
        intro place before
        cases place with
        | zero => exact congrArg some same
        | succ place => exact mismatch.earlier place (Nat.lt_of_succ_lt_succ before)
      case isFalse differ =>
        cases found
        exact ⟨0, rfl, rfl, rfl, differ, nofun⟩

theorem firstDifference?_of_mismatch {start offset : Nat} {declared given : List ParameterKind}
    {expected actual : ParameterKind}
    (mismatch : FirstMismatch declared given offset expected actual) :
    firstDifference? start declared given = some (start + offset, expected, actual) := by
  induction declared generalizing given start offset with
  | nil => cases mismatch.ofDeclared
  | cons left declared ih =>
    cases given with
    | nil => cases mismatch.ofGiven
    | cons right given =>
      rw [firstDifference?]
      cases offset with
      | zero =>
        obtain rfl : left = expected := Option.some.inj mismatch.ofDeclared
        obtain rfl : right = actual := Option.some.inj mismatch.ofGiven
        rw [if_neg mismatch.differ, Nat.add_zero]
      | succ offset =>
        have same : left = right :=
          Option.some.inj (mismatch.earlier 0 (Nat.succ_pos offset))
        have later : FirstMismatch declared given offset expected actual :=
          ⟨mismatch.ofDeclared, mismatch.ofGiven, mismatch.differ,
            fun place before => mismatch.earlier (place + 1) (Nat.succ_lt_succ before)⟩
        rw [if_pos same, ih later, Nat.add_right_comm, Nat.add_assoc]

private theorem firstDifference?_self (start : Nat) (kinds : List ParameterKind) :
    firstDifference? start kinds kinds = none := by
  induction kinds generalizing start with
  | nil => rfl
  | cons kind kinds ih => rw [firstDifference?, if_pos rfl, ih]

private theorem firstDifference?_eq_none {declared given : List ParameterKind} {index : Nat}
    (lengths : declared.length = given.length)
    (agree : firstDifference? index declared given = none) : declared = given := by
  induction declared generalizing given index with
  | nil => exact (List.eq_nil_of_length_eq_zero lengths.symm).symm
  | cons expected declared ih =>
    cases given with
    | nil => cases lengths
    | cons actual given =>
      rw [firstDifference?] at agree
      split at agree
      case isTrue same => rw [same, ih (Nat.succ.inj lengths) agree]
      case isFalse => cases agree

/-! ## Resolving -/

theorem resolveProperty_eq_ok_iff {computation : Computed σ} :
    registry.resolveProperty type name = .ok computation ↔
      ∃ member, registry.Exposes type name member ∧ member.shape = .property ∧
        ⟨type ++ "." ++ name, fun _ => member.compute []⟩ = computation := by
  constructor
  · intro resolved
    rw [resolveProperty] at resolved
    split at resolved
    case h_1 => cases resolved
    case h_2 member found =>
      split at resolved
      case h_1 => cases resolved
      case h_2 shape =>
        exact ⟨member, lookup_eq_ok_iff.mp found, shape, Except.ok.inj resolved⟩
  · rintro ⟨member, exposed, shape, rfl⟩
    simp only [resolveProperty, lookup_eq_ok_iff.mpr exposed, shape]

theorem resolveProperty_eq_error_iff {error : ResolutionError} :
    registry.resolveProperty type name = .error error ↔
      registry.Refuses type name .property error := by
  constructor
  · intro refused
    rw [resolveProperty] at refused
    split at refused
    case h_1 hidden =>
      cases refused
      exact .hidden (lookup_eq_error_iff.mp hidden)
    case h_2 member found =>
      split at refused
      case h_1 declared shape =>
        rw [shape] at refused
        cases refused
        exact .notProperty (lookup_eq_ok_iff.mp found) shape
      case h_2 => cases refused
  · rintro (hidden | ⟨exposed, shape⟩)
    · simp only [resolveProperty, lookup_eq_error_iff.mpr hidden]
    · simp only [resolveProperty, lookup_eq_ok_iff.mpr exposed, shape, MemberShape.name]

theorem resolveMethod_eq_ok_iff {given : List ParameterKind} {computation : Computed σ} :
    registry.resolveMethod type name given = .ok computation ↔
      ∃ member, registry.Exposes type name member ∧ member.shape = .method given ∧
        ⟨type ++ "." ++ name, call (type ++ "." ++ name) given member.compute⟩ = computation := by
  constructor
  · intro resolved
    rw [resolveMethod] at resolved
    split at resolved
    case h_1 => cases resolved
    case h_2 member found =>
      split at resolved
      case h_1 => cases resolved
      case h_2 declared shape =>
        split at resolved
        case isTrue => cases resolved
        case isFalse lengths =>
          split at resolved
          case h_1 => cases resolved
          case h_2 agree =>
            obtain rfl := firstDifference?_eq_none (Decidable.not_not.mp lengths) agree
            exact ⟨member, lookup_eq_ok_iff.mp found, shape, Except.ok.inj resolved⟩
  · rintro ⟨member, exposed, shape, rfl⟩
    simp only [resolveMethod, lookup_eq_ok_iff.mpr exposed, shape, firstDifference?_self, ne_eq,
      not_true_eq_false, if_false]

theorem resolveMethod_eq_error_iff {given : List ParameterKind} {error : ResolutionError} :
    registry.resolveMethod type name given = .error error ↔
      registry.Refuses type name (.method given) error := by
  constructor
  · intro refused
    rw [resolveMethod] at refused
    split at refused
    case h_1 hidden =>
      cases refused
      exact .hidden (lookup_eq_error_iff.mp hidden)
    case h_2 member found =>
      have exposed := lookup_eq_ok_iff.mp found
      split at refused
      case h_1 shape =>
        rw [shape] at refused
        cases refused
        exact .notMethod exposed shape
      case h_2 declared shape =>
        split at refused
        case isTrue lengths =>
          cases refused
          exact .count exposed shape lengths
        case isFalse lengths =>
          split at refused
          case h_1 index expected actual different =>
            cases refused
            obtain ⟨offset, rfl, mismatch⟩ := firstDifference?_eq_some different
            rw [Nat.zero_add]
            exact .parameter exposed shape (Decidable.not_not.mp lengths) mismatch
          case h_2 => cases refused
  · rintro (hidden | _ | ⟨exposed, shape⟩ | ⟨exposed, shape, lengths⟩ |
      ⟨exposed, shape, lengths, mismatch⟩)
    · simp only [resolveMethod, lookup_eq_error_iff.mpr hidden]
    · simp only [resolveMethod, lookup_eq_ok_iff.mpr exposed, shape, MemberShape.name]
    · simp only [resolveMethod, lookup_eq_ok_iff.mpr exposed, shape, lengths, ne_eq,
        not_false_eq_true, if_true]
    · simp only [resolveMethod, lookup_eq_ok_iff.mpr exposed, shape, lengths,
        firstDifference?_of_mismatch mismatch, Nat.zero_add, ne_eq, not_true_eq_false, if_false]

end Registry

end Stencil
