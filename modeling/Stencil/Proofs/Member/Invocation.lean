import Stencil.Proofs.Member.Conversion
import Stencil.Proofs.Member.Resolution

/-!
# Which functions are invoked

The functions of members rely on their arguments: a method is given one value for each of its
parameters, of the kind of that parameter. To see when a function is invoked, and with what, every
member is made to write its invocations down beside the state that it works on. A method is invoked
once when the arguments of the token fit its parameters and otherwise not at all; a property is
invoked once with nothing, whatever the arguments.
-/

set_option autoImplicit false

namespace Stencil

/-! ## Tracing members -/

structure Invocation where
  type : String
  name : String
  values : List Value

/-- A state, and the invocations that were made on it. -/
structure Traced (σ : Type) where
  state : σ
  made : List Invocation

variable {σ : Type}

def Member.traced (type name : String) (member : Member σ) : Member (Traced σ) where
  shape := member.shape
  visibility := member.visibility
  isStatic := member.isStatic
  compute := fun values traced =>
    let (result, next) := member.compute values traced.state
    (result, ⟨next, traced.made ++ [⟨type, name, values⟩]⟩)

def Registry.traced (registry : Registry σ) : Registry (Traced σ) :=
  ⟨registry.types.map fun type members => members.map fun name member => member.traced type name⟩

/-! ## Arguments and parameters -/

namespace Member

/-- There is one argument for each parameter, and each of them converts. -/
structure Fits (parameters : List ParameterKind) (given : List String) : Prop where
  lengths : given.length = parameters.length
  converts : ∀ (place : Nat) (kind : ParameterKind) (argument : String),
    parameters[place]? = some kind → given[place]? = some argument →
      ∃ value, kind.convert argument = .ok value

/-- Values that the arguments are converted to, each of the kind of its parameter. -/
structure Converted (parameters : List ParameterKind) (given : List String)
    (values : List Value) : Prop where
  length : values.length = given.length
  each : ∀ (place : Nat) (kind : ParameterKind) (argument : String),
    parameters[place]? = some kind → given[place]? = some argument →
      ∃ value, values[place]? = some value ∧ kind.convert argument = .ok value ∧ kind.Admits value

/-- The leftmost argument that does not convert. -/
structure FirstUnfit (parameters : List ParameterKind) (given : List String) (place : Nat)
    (fault : ConversionFault) : Prop where
  fails : ∃ kind argument, parameters[place]? = some kind ∧ given[place]? = some argument ∧
    kind.convert argument = .error fault
  earlier : ∀ before < place, ∃ kind argument value, parameters[before]? = some kind ∧
    given[before]? = some argument ∧ kind.convert argument = .ok value

/-- Why arguments are refused: their number first, then the leftmost that does not convert. -/
inductive Unfit (label : String) (parameters : List ParameterKind) (given : List String) :
    Cause → Prop where
  | count (lengths : given.length ≠ parameters.length) :
      Unfit label parameters given (.argumentCount label parameters.length given.length)
  | conversion {place : Nat} {fault : ConversionFault} (lengths : given.length = parameters.length)
      (first : FirstUnfit parameters given place fault) :
      Unfit label parameters given (.conversion fault)

theorem FirstUnfit.not_fits {parameters : List ParameterKind} {given : List String} {place : Nat}
    {fault : ConversionFault} (first : FirstUnfit parameters given place fault) :
    ¬ Fits parameters given := by
  intro fits
  obtain ⟨kind, argument, declared, written, fails⟩ := first.fails
  obtain ⟨value, converts⟩ := fits.converts place kind argument declared written
  cases fails.symm.trans converts

theorem Converted.fits {parameters : List ParameterKind} {given : List String}
    {values : List Value} (converted : Converted parameters given values)
    (lengths : given.length = parameters.length) : Fits parameters given := by
  refine ⟨lengths, fun place kind argument declared written => ?_⟩
  obtain ⟨value, -, converts, -⟩ := converted.each place kind argument declared written
  exact ⟨value, converts⟩

private theorem Converted.cons {kind : ParameterKind} {kinds : List ParameterKind}
    {argument : String}
    {arguments : List String} {value : Value} {values : List Value}
    (converts : kind.convert argument = .ok value) (rest : Converted kinds arguments values) :
    Converted (kind :: kinds) (argument :: arguments) (value :: values) := by
  refine ⟨congrArg (· + 1) rest.length, ?_⟩
  intro place other text declared written
  cases place with
  | zero =>
    obtain rfl : kind = other := Option.some.inj declared
    obtain rfl : argument = text := Option.some.inj written
    exact ⟨value, rfl, converts, ParameterKind.admits_of_convert converts⟩
  | succ place => exact rest.each place other text declared written

private theorem FirstUnfit.here {kind : ParameterKind} {kinds : List ParameterKind}
    {argument : String}
    {arguments : List String} {fault : ConversionFault}
    (fails : kind.convert argument = .error fault) :
    FirstUnfit (kind :: kinds) (argument :: arguments) 0 fault :=
  ⟨⟨kind, argument, rfl, rfl, fails⟩, nofun⟩

private theorem FirstUnfit.cons {kind : ParameterKind} {kinds : List ParameterKind}
    {argument : String}
    {arguments : List String} {value : Value} {place : Nat} {fault : ConversionFault}
    (converts : kind.convert argument = .ok value)
    (rest : FirstUnfit kinds arguments place fault) :
    FirstUnfit (kind :: kinds) (argument :: arguments) (place + 1) fault := by
  refine ⟨rest.fails, ?_⟩
  intro before earlier
  cases before with
  | zero => exact ⟨kind, argument, value, rfl, rfl, converts⟩
  | succ before => exact rest.earlier before (Nat.lt_of_succ_lt_succ earlier)

end Member

namespace Registry

open Member (Fits Converted FirstUnfit Unfit)

/-- Arguments are converted from the left, up to the first that does not convert. -/
theorem converted_or_firstUnfit {parameters : List ParameterKind} {given : List String}
    (lengths : given.length = parameters.length) :
    (∃ values, convertAll parameters given = .ok values ∧ Converted parameters given values) ∨
      ∃ place fault, convertAll parameters given = .error fault ∧
        FirstUnfit parameters given place fault := by
  -- Equal lengths rule out that the conversion ends early for lack of an argument or a parameter.
  induction parameters generalizing given with
  | nil =>
    obtain rfl := List.eq_nil_of_length_eq_zero lengths
    exact .inl ⟨[], rfl, rfl, nofun⟩
  | cons kind kinds ih =>
    cases given with
    | nil => cases lengths
    | cons argument arguments =>
      rw [convertAll]
      cases converts : kind.convert argument with
      | error fault => exact .inr ⟨0, fault, rfl, .here converts⟩
      | ok value =>
        obtain ⟨values, all, converted⟩ | ⟨place, fault, stops, first⟩ :=
          ih (Nat.succ.inj lengths)
        · refine .inl ⟨value :: values, ?_, converted.cons converts⟩
          rw [all]
          rfl
        · refine .inr ⟨place + 1, fault, ?_, first.cons converts⟩
          rw [stops]
          rfl

/-- Arguments that fit are converted, and every function is invoked with the same values. -/
theorem call_of_fits {parameters : List ParameterKind} {arguments : Arguments}
    (fits : Fits parameters (arguments.getD [])) :
    ∃ values, Converted parameters (arguments.getD []) values ∧
      ∀ {τ : Type} (label : String) (compute : List Value → Attempt τ Cause Value) (state : τ),
        call label parameters compute arguments state = compute values state := by
  obtain ⟨values, all, converted⟩ | ⟨place, fault, -, first⟩ :=
    converted_or_firstUnfit fits.lengths
  · refine ⟨values, converted, fun label compute state => ?_⟩
    simp only [call, fits.lengths, all, ne_eq, not_true_eq_false, if_false]
  · exact absurd fits first.not_fits

/-- Arguments that do not fit are refused for the same reason by every function. -/
theorem call_of_not_fits {parameters : List ParameterKind} {arguments : Arguments}
    (label : String) (misfit : ¬ Fits parameters (arguments.getD [])) :
    ∃ cause, Unfit label parameters (arguments.getD []) cause ∧
      ∀ {τ : Type} (compute : List Value → Attempt τ Cause Value) (state : τ),
        call label parameters compute arguments state = (.error cause, state) := by
  by_cases lengths : (arguments.getD []).length = parameters.length
  · obtain ⟨values, -, converted⟩ | ⟨place, fault, stops, first⟩ :=
      converted_or_firstUnfit lengths
    · exact absurd (converted.fits lengths) misfit
    · refine ⟨_, .conversion lengths first, fun compute state => ?_⟩
      simp only [call, lengths, stops, ne_eq, not_true_eq_false, if_false]
  · refine ⟨_, .count lengths, fun compute state => ?_⟩
    simp only [call, lengths, ne_eq, not_false_eq_true, if_true]

/-! ## Traced registries -/

private theorem member?_traced (registry : Registry σ) (type name : String) :
    registry.traced.member? type name =
      (registry.member? type name).map fun member => member.traced type name := by
  rw [member?, member?, traced, Dictionary.get?_map]
  cases registry.types.get? type with
  | none => rfl
  | some members => exact Dictionary.get?_map _ members name

private theorem Exposes.traced {registry : Registry σ} {type name : String} {member : Member σ}
    (exposed : registry.Exposes type name member) :
    registry.traced.Exposes type name (member.traced type name) := by
  refine ⟨?_, exposed.visible, exposed.isStatic⟩
  rw [member?_traced, exposed.found]
  rfl

/-- Writing invocations down changes nothing else. -/
private theorem call_traced (member : Member σ) (type name label : String)
    (parameters : List ParameterKind) (arguments : Arguments) (state : σ)
    (made : List Invocation) :
    let outcome := call label parameters (member.traced type name).compute arguments ⟨state, made⟩
    call label parameters member.compute arguments state = (outcome.1, outcome.2.state) := by
  by_cases fits : Fits parameters (arguments.getD [])
  · obtain ⟨values, -, invokes⟩ := call_of_fits fits
    rw [invokes, invokes]
    rfl
  · obtain ⟨cause, -, refuses⟩ := call_of_not_fits label fits
    rw [refuses, refuses]

/-! ## Resolved members -/

/-- The function of a resolved method is invoked when the arguments fit its parameters, once and with
the converted arguments. Otherwise it is not invoked, and the arguments are refused for their number
or else for the leftmost that does not convert. The function of a resolved property is invoked once,
with nothing, whatever the arguments. -/
theorem resolved_invocations (registry : Registry σ) (type name : String) :
    (∀ (parameters : List ParameterKind) (computation : Computed σ),
      registry.resolveMethod type name parameters = .ok computation →
        ∃ member traced, registry.member? type name = some member ∧
          registry.traced.resolveMethod type name parameters = .ok traced ∧
          ∀ (arguments : Arguments) (state : σ) (made : List Invocation),
            let given := arguments.getD []
            let outcome := traced.compute arguments ⟨state, made⟩
            computation.compute arguments state = (outcome.1, outcome.2.state) ∧
            (Fits parameters given → ∃ values, Converted parameters given values ∧
              computation.compute arguments state = member.compute values state ∧
              outcome.2.made = made ++ [⟨type, name, values⟩]) ∧
            (¬ Fits parameters given → ∃ cause,
              Unfit (type ++ "." ++ name) parameters given cause ∧
                outcome = (.error cause, ⟨state, made⟩))) ∧
    ∀ computation : Computed σ, registry.resolveProperty type name = .ok computation →
      ∃ member traced, registry.member? type name = some member ∧
        registry.traced.resolveProperty type name = .ok traced ∧
        ∀ (arguments : Arguments) (state : σ) (made : List Invocation),
          let outcome := traced.compute arguments ⟨state, made⟩
          computation.compute arguments state = (outcome.1, outcome.2.state) ∧
          computation.compute arguments state = member.compute [] state ∧
          outcome.2.made = made ++ [⟨type, name, []⟩] := by
  constructor
  · intro parameters computation resolved
    obtain ⟨member, exposed, shape, rfl⟩ := resolveMethod_eq_ok_iff.mp resolved
    have tracedResolves := resolveMethod_eq_ok_iff.mpr
      ⟨member.traced type name, exposed.traced, shape, rfl⟩
    refine ⟨member, _, exposed.found, tracedResolves, ?_⟩
    intro arguments state made given outcome
    refine ⟨?_, ?_, ?_⟩
    · exact call_traced member type name _ parameters arguments state made
    · intro fits
      -- The values do not depend on the function, so they serve for the traced one as well.
      obtain ⟨values, converted, invokes⟩ := call_of_fits fits
      refine ⟨values, converted, invokes _ member.compute state, ?_⟩
      exact congrArg (Traced.made ∘ Prod.snd)
        (invokes _ (member.traced type name).compute ⟨state, made⟩)
    · intro misfit
      obtain ⟨cause, unfit, refuses⟩ := call_of_not_fits (type ++ "." ++ name) misfit
      exact ⟨cause, unfit, refuses _ _⟩
  · intro computation resolved
    obtain ⟨member, exposed, shape, rfl⟩ := resolveProperty_eq_ok_iff.mp resolved
    have tracedResolves := resolveProperty_eq_ok_iff.mpr
      ⟨member.traced type name, exposed.traced, shape, rfl⟩
    refine ⟨member, _, exposed.found, tracedResolves, ?_⟩
    intro arguments state made outcome
    exact ⟨rfl, rfl, rfl⟩

/-- Two integers, one of them written with blanks around it, reach the function together. A word in
the place of the second one, or no arguments at all, keep it from being invoked. -/
theorem resolved_invocations_greatest :
    let greatest : Member Unit :=
      .method [.integer, .integer] fun values state => (.ok (.array values), state)
    let registry : Registry Unit := Registry.empty.register "Math" "Max" greatest
    ∃ traced, registry.traced.resolveMethod "Math" "Max" [.integer, .integer] = .ok traced ∧
      (∃ values, Converted [.integer, .integer] ["3", " 7 "] values ∧
        (traced.compute (some ["3", " 7 "]) ⟨(), []⟩).2.made = [⟨"Math", "Max", values⟩]) ∧
      (traced.compute (some ["3", "seven"]) ⟨(), []⟩).2.made = [] ∧
      (traced.compute none ⟨(), []⟩).2.made = [] := by
  intro greatest registry
  have resolved : ∃ computation,
      registry.resolveMethod "Math" "Max" [.integer, .integer] = .ok computation := ⟨_, rfl⟩
  obtain ⟨computation, resolved⟩ := resolved
  obtain ⟨member, traced, -, tracedResolves, invokes⟩ :=
    (resolved_invocations registry "Math" "Max").1 _ computation resolved
  have three : ParameterKind.integer.convert "3" = .ok (.integer 3) := rfl
  have seven : ParameterKind.integer.convert " 7 " = .ok (.integer 7) := rfl
  have word : ParameterKind.integer.convert "seven" = .error (.integer .invalidDigit) := rfl
  have nothing : Converted [] [] [] := ⟨rfl, nofun⟩
  have fits : Fits [.integer, .integer] ["3", " 7 "] :=
    ((nothing.cons seven).cons three).fits rfl
  have misfit : ¬ Fits [.integer, .integer] ["3", "seven"] :=
    ((Member.FirstUnfit.here word).cons three).not_fits
  refine ⟨traced, tracedResolves, ?_, ?_, ?_⟩
  · obtain ⟨values, converted, -, made⟩ := (invokes (some ["3", " 7 "]) () []).2.1 fits
    exact ⟨values, converted, made⟩
  · obtain ⟨cause, -, outcome⟩ := (invokes (some ["3", "seven"]) () []).2.2 misfit
    exact congrArg (Traced.made ∘ Prod.snd) outcome
  · obtain ⟨cause, -, outcome⟩ := (invokes none () []).2.2 fun fits => nomatch fits.lengths
    exact congrArg (Traced.made ∘ Prod.snd) outcome

end Registry

end Stencil
