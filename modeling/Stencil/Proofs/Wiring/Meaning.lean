import Stencil.Proofs.Member.Resolution
import Stencil.Proofs.Storage.Operation
import Stencil.Proofs.Wiring.Registration

/-!
# What a configuration means

The text of a token, told from the configuration: the key selects a source or else the settings,
the source says what is read and when, and the rest of the identifier is walked in the value. A
wired tokenizer resolves every token to exactly that.
-/

set_option autoImplicit false

namespace Stencil

/-- What a token is evaluated to with its arguments, in a state that may change. -/
abbrev Evaluation (σ : Type) := Arguments → Attempt σ StrategyError Value

/-! ## Sources -/

namespace Environment

/-- Why a variable cannot be read as text. -/
def fault (environment : Environment) (name : String) : VariableFault :=
  match environment.get? name with
  | none => .absent
  | some value => .notUnicode value

theorem read_eq (environment : Environment) (name : String) :
    environment.read name =
      match environment.text? name with
      | some text => .ok text
      | none => .error (environment.fault name) := by
  rw [read, text?, fault]
  cases environment.get? name with
  | none => rfl
  | some value =>
    cases decoded : String.fromUTF8? value <;> simp only [Option.bind_some, decoded]

end Environment

/-- The text of a variable, else the default. -/
def variableResult (name : String) (default? : Option String) (environment : Environment) :
    Except StrategyError Value :=
  match (environment.text? name).or default? with
  | some text => .ok (.string text)
  | none => .error (.computation ("env " ++ name) (.variableFault (environment.fault name)))

/-- The entry that a handle reaches, in the store of the current thread if it has no other. -/
def storedNow (handle : Handle) (key : String) (surroundings : Surroundings) :
    Except StrategyError Value :=
  let contents := surroundings.storage.read (handle.store surroundings.thread)
  Storage.storedResult key (contents.get? (handle.comparison.normalize key))

/-- The member of the nested settings under a key. -/
def settingsMember (settings : Settings) (key : String) : Except StrategyError Value :=
  match settings.toValue.child? key with
  | some value => .ok value
  | none => .error (.wildcard .lookup key (some ⟨key, [key]⟩))

section Members

variable {σ : Type}

/-- Errors of a member are told under its full name. -/
def memberResult (type name : String) (outcome : Except Cause Value × σ) :
    Except StrategyError Value × σ :=
  (outcome.1.mapError (.computation (type ++ "." ++ name)), outcome.2)

/-- What a method gives for arguments, when there is one for each parameter and all convert. -/
def Member.invoke (member : Member σ) (label : String) (parameters : List ParameterKind)
    (given : List String) : Attempt σ Cause Value := fun state =>
  if given.length = parameters.length then
    match (parameters.zip given).mapM fun pair => pair.1.convert pair.2 with
    | .ok values => member.compute values state
    | .error fault => (.error (.conversion fault), state)
  else (.error (.argumentCount label parameters.length given.length), state)

private theorem Registry.convertAll_eq_mapM {parameters : List ParameterKind}
    {given : List String} :
    Registry.convertAll parameters given =
      (parameters.zip given).mapM fun pair => pair.1.convert pair.2 := by
  induction parameters generalizing given with
  | nil => rfl
  | cons kind kinds ih =>
    cases given with
    | nil => rfl
    | cons argument arguments =>
      rw [List.zip_cons_cons, List.mapM_cons, convertAll, ih]
      cases kind.convert argument with
      | error fault => rfl
      | ok value =>
        cases (kinds.zip arguments).mapM fun pair => pair.1.convert pair.2 <;> rfl

theorem Registry.call_eq_invoke (member : Member σ) (label : String)
    (parameters : List ParameterKind) (arguments : Arguments) (state : σ) :
    Registry.call label parameters member.compute arguments state =
      member.invoke label parameters (arguments.getD []) state := by
  rw [Registry.call, Member.invoke, Registry.convertAll_eq_mapM]
  by_cases lengths : (arguments.getD []).length = parameters.length
  · rw [if_pos lengths, if_neg (not_not.mpr lengths)]
    cases (parameters.zip (arguments.getD [])).mapM fun pair => pair.1.convert pair.2 <;> rfl
  · rw [if_neg lengths, if_pos lengths]

end Members

namespace TokenSource

variable {σ : Type} [Situated σ]

/-- What a source stands for; nothing when the context lacks what it refers to. -/
def meaning? (context : WiringContext σ) : TokenSource → Option (Evaluation σ)
  | .fixed value => some fun _ state => (.ok value, state)
  | .setting key =>
    (context.settings.get? key).map fun text _ state => (.ok (.string text), state)
  | .environment name default? =>
    some fun _ state =>
      (variableResult name default? (Situated.surroundings state).environment, state)
  | .context key =>
    context.storage.map fun handle _ state =>
      (storedNow handle key (Situated.surroundings state), state)
  | .property type name =>
    ((context.members.member? type name).filter (·.shape = .property)).map
      fun member _ state => memberResult type name (member.compute [] state)
  | .method type name parameters =>
    ((context.members.member? type name).filter (·.shape = .method parameters)).map
      fun member arguments state =>
        memberResult type name
          (member.invoke (type ++ "." ++ name) parameters (arguments.getD []) state)

variable {context : WiringContext σ}

private theorem meaning?_property {type name : String} {computation : Computed σ}
    (resolved : context.members.resolveProperty type name = .ok computation) :
    (TokenSource.property type name).meaning? context =
      some (Strategy.computed computation).evaluate := by
  obtain ⟨member, exposed, shape, rfl⟩ := Registry.resolveProperty_eq_ok_iff.mp resolved
  simp only [meaning?, exposed.found, Option.filter_some, shape, decide_true, if_true,
    Option.map_some]
  rfl

private theorem meaning?_method {type name : String} {parameters : List ParameterKind}
    {computation : Computed σ}
    (resolved : context.members.resolveMethod type name parameters = .ok computation) :
    (TokenSource.method type name parameters).meaning? context =
      some (Strategy.computed computation).evaluate := by
  obtain ⟨member, exposed, shape, rfl⟩ := Registry.resolveMethod_eq_ok_iff.mp resolved
  simp only [meaning?, exposed.found, Option.filter_some, shape, decide_true, if_true,
    Option.map_some]
  refine congrArg some (funext fun arguments => funext fun state => ?_)
  rw [← Registry.call_eq_invoke]
  rfl

/-- A strategy made from a source evaluates to what the source means. -/
theorem meaning?_of_strategyOf {token : String} {source : TokenSource} {strategy : Strategy σ}
    (made : TokenConfig.strategyOf context token source = .ok strategy) :
    source.meaning? context = some strategy.evaluate := by
  cases source with
  | fixed value =>
    cases made
    rfl
  | setting key =>
    rw [TokenConfig.strategyOf] at made
    split at made
    case h_1 text found =>
      cases made
      rw [meaning?, found]
      rfl
    case h_2 => cases made
  | environment name default? =>
    cases made
    refine congrArg some (funext fun _ => funext fun state => ?_)
    simp only [Strategy.computed, Computed.variableText, variableResult, Environment.read_eq]
    cases (Situated.surroundings state).environment.text? name <;> cases default? <;> rfl
  | context key =>
    rw [TokenConfig.strategyOf] at made
    split at made
    case h_1 handle given =>
      cases made
      rw [meaning?, given]
      refine congrArg some (funext fun arguments => funext fun state => ?_)
      exact (Storage.evaluate_storedValue handle key arguments state).symm
    case h_2 => cases made
  | property type name =>
    rw [TokenConfig.strategyOf] at made
    split at made
    case h_1 computation resolved =>
      cases made
      exact meaning?_property resolved
    case h_2 => cases made
  | method type name parameters =>
    rw [TokenConfig.strategyOf] at made
    split at made
    case h_1 computation resolved =>
      cases made
      exact meaning?_method resolved
    case h_2 => cases made

end TokenSource

/-! ## Tokens -/

namespace TokenConfig

variable {σ : Type} [Situated σ]

/-- How a key is evaluated: by the source it selects, else by the settings if they are open to
tokens. -/
def evaluation? (config : TokenConfig) (context : WiringContext σ) (key : String) :
    Option (Evaluation σ) :=
  match config.entry? key with
  | some entry => entry.2.meaning? context
  | none =>
    if config.wildcardSettings then some fun _ state => (settingsMember context.settings key, state)
    else none

/-- What a token stands for. -/
def reading (config : TokenConfig) (context : WiringContext σ) (token : Template.Token) :
    Attempt σ FailureReason String := fun state =>
  if token.key = "" then (.error .tokenMissing, state)
  else
    match config.evaluation? context token.key with
    | none => (.error .tokenUnknown, state)
    | some evaluate =>
      let outcome := evaluate token.arguments state
      (textAt token.path outcome.1, outcome.2)

end TokenConfig

/-- The settings as a wildcard give the member of their nested view. -/
theorem evaluateKey_settings {σ : Type} (settings : Settings) {key : String}
    (plain : Text.IsPlain key) (arguments : Arguments) (state : σ) :
    (Wildcard.strategy ⟨[settings.toValue], true⟩).evaluateKey key arguments state =
      (settingsMember settings key, state) := by
  simp only [Wildcard.strategy, Wildcard.lookup, Wildcard.firstMatch,
    Text.segments_of_isPlain plain, Value.resolvePath, Value.walk, settingsMember]
  cases settings.toValue.child? key <;> rfl

namespace TokenConfig.Wires

variable {σ : Type} [Situated σ] {config : TokenConfig} {context : WiringContext σ}
  {wired : Wired σ} (wires : Wires config context wired)

include wires

/-- Every source of a configuration that was wired means something. -/
theorem isSome_meaning? {token : String} {source : TokenSource}
    (found : config.tokens.get? token = some source) :
    (source.meaning? context).isSome = true := by
  obtain ⟨strategy, made, -⟩ := wires.registers.made found
  rw [TokenSource.meaning?_of_strategyOf made]
  rfl

/-- A wired tokenizer resolves a token to what the configuration says it stands for. -/
theorem resolve_eq_reading (token : Template.Token) :
    wired.tokenizer.resolve (wired.wildcard.map Wildcard.strategy) token =
      config.reading context token := by
  refine funext fun state => ?_
  rw [reading]
  by_cases missing : token.key = ""
  · rw [if_pos missing, Tokenizer.resolve_of_missing missing]
  · rw [if_neg missing, evaluation?]
    cases selected : config.entry? token.key with
    | some entry =>
      obtain ⟨strategy, made, found⟩ := wires.find?_of_entry? selected
      rw [Tokenizer.resolve_of_find? missing found]
      simp only [TokenSource.meaning?_of_strategyOf made]
    | none =>
      have absent := wires.find?_of_no_entry selected
      rw [wires.wildcard]
      cases config.wildcardSettings with
      | false => exact Tokenizer.resolve_of_unknown missing absent state
      | true =>
        have settings := evaluateKey_settings context.settings token.isPlain_key token.arguments
          state
        refine (Tokenizer.resolve_of_wildcard missing absent _ state).trans ?_
        rw [settings]
        rfl

end TokenConfig.Wires

end Stencil
