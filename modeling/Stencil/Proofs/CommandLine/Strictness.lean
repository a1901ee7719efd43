import Stencil.Proofs.CommandLine.Outcome
import Stencil.Proofs.Expansion.Modes

/-!
# Strict runs

The flag for strict expansions reaches the tokenizer and nothing before it, so a run with the flag
goes through the same stages as the run without it. It can only end differently where the tokens are
replaced, and then only by stopping at a token that the other run leaves as it is written.
-/

set_option autoImplicit false

namespace Stencil

/-! ## Two modes of one tokenizer -/

namespace Tokenizer

variable {σ : Type}

private theorem build_withMode (strategies : Strategies σ) (first second : Bool)
    (caseRule : CaseRule) :
    build strategies second caseRule =
      (build strategies first caseRule).map (·.withMode second) := by
  cases caseRule with
  | sensitive => rfl
  | insensitive =>
    rw [build, build]
    split <;> rfl

/-- A loose expansion succeeds. The strict one does the same when no token is left by it, and else
fails. -/
theorem expand_modes (tokenizer : Tokenizer σ) (wildcard : Option (Strategy σ)) (template : String)
    (state : σ) :
    let loose := (tokenizer.withMode false).expand wildcard template state
    let strict := (tokenizer.withMode true).expand wildcard template state
    ∃ expansion, loose.1.result = .ok expansion ∧
      ((expansion.unresolved = 0 ∧ strict = loose) ∨
        (expansion.unresolved ≠ 0 ∧ ∃ error, strict.1.result = .error error)) := by
  intro loose strict
  have whole := (tokenizer.withMode false).expand_of_loose wildcard rfl template state
  simp only [looseExpansion, resolutions_withMode] at whole
  refine ⟨_, congrArg (·.1.result) whole, ?_⟩
  have runs := tokenizer.expandPieces_of_strict wildcard (Template.pieces template.toList) 0 .empty
    state
  rw [← expand_eq_expandPieces, ← expand_eq_expandPieces] at runs
  rcases runs with ⟨zero, agree⟩ | ⟨before, failing, after, reason, next, split, first, stops⟩
  · exact .inl ⟨zero, agree⟩
  · refine .inr ⟨?_, _, congrArg (·.1.result) stops⟩
    change failures (tokenizer.resolutions wildcard (Template.scan template) state).1 ≠ 0
    rw [Template.scan, split]
    exact first.failures_ne_zero

end Tokenizer

def Wired.withMode {σ : Type} (wired : Wired σ) (strict : Bool) : Wired σ :=
  { wired with tokenizer := wired.tokenizer.withMode strict }

/-- Strictness is for the tokenizer alone: neither the strategies nor the wildcard depend on it. -/
private theorem TokenConfig.build_withMode {σ : Type} [Situated σ] (config : TokenConfig)
    (context : WiringContext σ) (strict : Bool) :
    build { config with strict } context = (config.build context).map (·.withMode strict) := by
  unfold build
  dsimp only
  split
  case h_1 => rfl
  case h_2 strategies _ =>
    rw [Tokenizer.build_withMode strategies config.strict strict]
    cases Tokenizer.build strategies config.strict
      (if config.caseSensitive then .sensitive else .insensitive) <;> rfl

namespace CommandLine

/-! ## Two runs -/

/-- How an expansion can end, and how it ends when it has to be strict. -/
inductive Tightened : Except RunError Expansion → Except RunError Expansion → Prop where
  | failed {error : RunError} : Tightened (.error error) (.error error)
  | clean {expansion : Expansion} (none : expansion.unresolved = 0) :
      Tightened (.ok expansion) (.ok expansion)
  | stopped {expansion : Expansion} {error : RunError} (left : expansion.unresolved ≠ 0) :
      Tightened (.ok expansion) (.error error)

/-- What an expansion makes of a configuration that was read. -/
def expandConfigured (world : World) (options : ExpandOptions) (config : TokenConfig) :
    Except RunError Expansion := do
  let settings ← readSettings world options
  let wired ← wire options settings config
  let template ← readTemplate world options
  ((wired.expand template (surroundings world)).1.result).mapError .expansion

variable {world : World} {options : ExpandOptions} {config : TokenConfig}

private theorem expand_of_loads (loads : TokenConfig.load world.files options.config = .ok config) :
    expand world options =
      expandConfigured world options { config with strict := config.strict || options.strict } := by
  rw [expand, expandConfigured, readConfig, loads]
  rfl

/-- Nothing but the mode of the configuration depends on the flag. -/
private theorem expand_withFlag_of_loads
    (loads : TokenConfig.load world.files options.config = .ok config) :
    expand world (options.withFlag .strict) =
      expandConfigured world options { config with strict := true } := by
  have here : TokenConfig.load world.files (options.withFlag .strict).config = .ok config := loads
  rw [expand_of_loads here]
  change expandConfigured world options { config with strict := config.strict || true } = _
  rw [Bool.or_true]

/-- A configuration that cannot be read fails the run whether it should be strict or not. -/
private theorem expand_of_unreadable {error : WiringError}
    (fails : TokenConfig.load world.files options.config = .error error) :
    expand world (options.withFlag .strict) = expand world options := by
  have same : readConfig world (options.withFlag .strict) = readConfig world options := by
    have here : TokenConfig.load world.files (options.withFlag .strict).config = .error error :=
      fails
    rw [readConfig, readConfig, fails, here]
  rw [expand, expand, same]
  rfl

private theorem expand_of_strict (loads : TokenConfig.load world.files options.config = .ok config)
    (strict : config.strict = true) :
    expand world (options.withFlag .strict) = expand world options := by
  rw [expand_withFlag_of_loads loads, expand_of_loads loads, strict, Bool.true_or]

private theorem wire_withMode (settings : Settings) (strict : Bool) :
    wire options settings { config with strict } =
      (wire options settings config).map (·.withMode strict) := by
  have context : wiringContext settings = ⟨settings, Registry.builtin, some runStorage⟩ := rfl
  rw [wire, wire, ← context, TokenConfig.build_withMode]
  cases config.build (wiringContext settings) <;> rfl

private theorem tightened_of_wired (wired : Wired Surroundings) (template : String)
    (state : Surroundings) :
    Tightened (((wired.withMode false).expand template state).1.result.mapError .expansion)
      (((wired.withMode true).expand template state).1.result.mapError .expansion) := by
  obtain ⟨expansion, loose, ends⟩ :=
    wired.tokenizer.expand_modes (wired.wildcard.map Wildcard.strategy) template state
  have succeeds : ((wired.withMode false).expand template state).1.result = .ok expansion := loose
  rw [succeeds]
  rcases ends with ⟨none, same⟩ | ⟨left, error, stops⟩
  · have agrees : ((wired.withMode true).expand template state).1.result = .ok expansion :=
      (congrArg (·.1.result) same).trans loose
    rw [agrees]
    exact .clean none
  · have fails : ((wired.withMode true).expand template state).1.result = .error error := stops
    rw [fails]
    exact .stopped left

private theorem expandConfigured_tightened (world : World) (options : ExpandOptions)
    (config : TokenConfig) :
    Tightened (expandConfigured world options { config with strict := false })
      (expandConfigured world options { config with strict := true }) := by
  rw [expandConfigured, expandConfigured]
  cases readSettings world options with
  | error error => exact .failed
  | ok settings =>
    simp only [wire_withMode, bind, Except.bind]
    cases wire options settings config with
    | error error => exact .failed
    | ok wired =>
      cases readTemplate world options with
      | error error => exact .failed
      | ok template => exact tightened_of_wired wired template (surroundings world)

/-- The flag tightens what a run with a loose configuration makes of the same files and input. -/
theorem expand_tightened (loads : TokenConfig.load world.files options.config = .ok config)
    (loose : config.strict = false) (lenient : options.strict = false) :
    Tightened (expand world options) (expand world (options.withFlag .strict)) := by
  rw [expand_withFlag_of_loads loads, expand_of_loads loads, loose, lenient, Bool.or_false]
  exact expandConfigured_tightened world options config

theorem expand_eq_of_strict_ok {expansion : Expansion} (lenient : options.strict = false)
    (succeeds : expand world (options.withFlag .strict) = .ok expansion) :
    expand world options = .ok expansion := by
  cases loads : TokenConfig.load world.files options.config with
  | error error => rw [← expand_of_unreadable loads, succeeds]
  | ok config =>
    cases mode : config.strict with
    | true => rw [← expand_of_strict loads mode, succeeds]
    | false =>
      have tightened := expand_tightened loads mode lenient
      rw [succeeds] at tightened
      cases result : expand world options with
      | error error =>
        rw [result] at tightened
        cases tightened
      | ok other =>
        rw [result] at tightened
        cases tightened
        rfl

/-! ## Outcomes -/

private theorem outcomeOf_code_eq_zero_iff {result : Except RunError Expansion} :
    (outcomeOf options result).code = 0 ↔ ∃ expansion, result = .ok expansion := by
  cases result with
  | error error => exact ⟨fun zero => absurd zero error.code_ne_zero, nofun⟩
  | ok expansion => exact ⟨fun _ => ⟨expansion, rfl⟩, fun _ => rfl⟩

private theorem run_of_expand {arguments : List String}
    (parsed : Request.ofArguments world.fullEnvironment arguments = .expand options) :
    run world arguments = outcomeOf options (expand world options) := by
  rw [run, parsed]

private theorem outcomeOf_withFlag_strict (options : ExpandOptions) :
    outcomeOf (options.withFlag .strict) = outcomeOf options := by
  funext result
  cases result <;> rfl

section Arguments

variable {before after : List String}

/-- Wherever the flag was read, there is the same run without it. -/
private theorem exists_lenient
    (parsed : Request.ofArguments world.fullEnvironment
      ("expand" :: (before ++ "--strict" :: after)) = .expand options) :
    ∃ others : ExpandOptions, others.strict = false ∧ options = others.withFlag .strict ∧
      run world ("expand" :: (before ++ after)) = outcomeOf options (expand world others) ∧
      run world ("expand" :: (before ++ "--strict" :: after)) =
        outcomeOf options (expand world (others.withFlag .strict)) := by
  have read : expandRequest world.fullEnvironment (before ++ Flag.strict.argument :: after) =
      .expand options := parsed
  obtain ⟨others, parsedOthers, lenient, rfl⟩ := exists_expand_of_flag read
  refine ⟨others, lenient, rfl, ?_, run_of_expand parsed⟩
  rw [outcomeOf_withFlag_strict]
  exact run_of_expand parsedOthers

/-- What the run with the flag puts out, the run without it puts out as well. -/
private theorem run_of_strict_zero
    (zero : (run world ("expand" :: (before ++ "--strict" :: after))).code = 0) :
    run world ("expand" :: (before ++ after)) =
      run world ("expand" :: (before ++ "--strict" :: after)) := by
  cases parsed : Request.ofArguments world.fullEnvironment
      ("expand" :: (before ++ "--strict" :: after)) with
  | misuse =>
    rw [run, parsed] at zero
    cases zero
  | version => exact absurd parsed expandRequest_ne_version
  | help =>
    have read : expandRequest world.fullEnvironment (before ++ Flag.strict.argument :: after) =
        .help := parsed
    have parsedOthers : Request.ofArguments world.fullEnvironment ("expand" :: (before ++ after)) =
        .help := help_of_flag read
    rw [run, run, parsed, parsedOthers]
  | expand options =>
    obtain ⟨others, lenient, rfl, ends, endsStrict⟩ := exists_lenient parsed
    rw [endsStrict] at zero
    obtain ⟨expansion, succeeds⟩ := outcomeOf_code_eq_zero_iff.mp zero
    rw [ends, endsStrict, succeeds, expand_eq_of_strict_ok lenient succeeds]

end Arguments

/-- The run of arguments with the flag for strict expansions, wherever it stands among them, against
the run of the same arguments without it. Whatever the first puts out, the second does. They end
alike if the configuration is strict already. If it is loose, a run that goes through goes through
with the flag exactly when it leaves no token. The flag can stand before all options that do not
have it. -/
theorem run_strict (world : World) (before after : List String) :
    let lenient := run world ("expand" :: (before ++ after))
    let strict := run world ("expand" :: (before ++ "--strict" :: after))
    (strict.code = 0 → lenient = strict) ∧
      (∀ options, Request.ofArguments world.fullEnvironment ("expand" :: after) = .expand options →
        options.strict = false →
        Request.ofArguments world.fullEnvironment ("expand" :: "--strict" :: after) =
          .expand { options with strict := true }) ∧
      ∀ options config, Request.ofArguments world.fullEnvironment
          ("expand" :: (before ++ "--strict" :: after)) = .expand options →
        TokenConfig.load world.files options.config = .ok config →
        (config.strict = true → lenient = strict) ∧
          (config.strict = false → lenient.code = 0 →
            ∃ expansion, Completes world { options with strict := false } expansion ∧
              lenient.output = expansion.output ∧
              (strict.code = 0 ↔ expansion.unresolved = 0)) := by
  intro lenient strict
  refine ⟨run_of_strict_zero, ?_, ?_⟩
  · intro options parsed without
    have absent : options.hasFlag .strict = false := without
    exact expandRequest_flag parsed absent
  intro options config parsed loads
  obtain ⟨others, without, rfl, ends, endsStrict⟩ := exists_lenient parsed
  change lenient = _ at ends
  change strict = _ at endsStrict
  have loadsOthers : TokenConfig.load world.files others.config = .ok config := loads
  constructor
  · intro mode
    rw [ends, endsStrict, expand_of_strict loadsOthers mode]
  · intro mode zero
    have tightened := expand_tightened loadsOthers mode without
    rw [ends] at zero
    obtain ⟨expansion, succeeds⟩ := outcomeOf_code_eq_zero_iff.mp zero
    have plain : { others.withFlag .strict with strict := false } = others := by
      rw [← without]
      rfl
    rw [plain, ends, endsStrict, outcomeOf_code_eq_zero_iff]
    rw [succeeds] at tightened ⊢
    refine ⟨expansion, completes_iff.mpr succeeds, rfl, ?_⟩
    generalize expand world (others.withFlag .strict) = result at tightened
    cases tightened with
    | clean none => exact ⟨fun _ => none, fun _ => ⟨expansion, rfl⟩⟩
    | stopped left => exact ⟨nofun, fun none => absurd none left⟩

/-- The configuration is loose, and nothing is known of the token. -/
theorem run_strict_unknown_token :
    let world : World :=
      ⟨.empty, none, .ofList [("tokens.yaml", .ok "strict: false\n".toUTF8)],
        "$\x7bname\x7d".toUTF8, "/", ⟨0, 0⟩⟩
    let lenient := run world ["expand", "-c", "tokens.yaml"]
    let strict := run world ["expand", "-c", "tokens.yaml", "--strict"]
    let options : ExpandOptions := ⟨"tokens.yaml", none, none, false, false⟩
    lenient.code = 0 ∧ lenient.output = "$\x7bname\x7d" ∧ strict.code = 1 ∧
      ∃ expansion, Completes world options expansion ∧ expansion.unresolved ≠ 0 := by
  intro world lenient strict options
  have parsed : Request.ofArguments world.fullEnvironment
      ["expand", "-c", "tokens.yaml", "--strict"] = .expand { options with strict := true } := by
    decide +kernel
  have loose : (TokenConfig.load world.files "tokens.yaml").toOption.map TokenConfig.strict =
      some false := by decide +kernel
  have zero : lenient.code = 0 := by decide +kernel
  have one : strict.code = 1 := by decide +kernel
  cases loads : TokenConfig.load world.files "tokens.yaml" with
  | error error =>
    rw [loads] at loose
    cases loose
  | ok config =>
    rw [loads] at loose
    obtain ⟨-, -, runs⟩ := run_strict world ["-c", "tokens.yaml"] []
    obtain ⟨expansion, completes, -, clean⟩ :=
      (runs _ _ parsed loads).2 (Option.some.inj loose) zero
    refine ⟨zero, by decide +kernel, one, expansion, completes, fun none => ?_⟩
    exact absurd (one.symm.trans (clean.mpr none)) (by decide)

end CommandLine

end Stencil
