import Stencil.Proofs.CommandLine.Flags
import Stencil.Proofs.CommandLine.Stages

/-!
# Output is all or nothing

A run puts out a whole expansion or nothing. What it is asked to show besides goes to the errors and
changes neither the output nor the exit code.
-/

set_option autoImplicit false

namespace Stencil.CommandLine

variable {world : World} {arguments : List String} {options : ExpandOptions}

theorem RunError.code_ne_zero (error : RunError) : error.code ≠ 0 := by
  cases error <;> exact nofun

private theorem run_of_completes {expansion : Expansion}
    (parsed : Request.ofArguments world.fullEnvironment arguments = .expand options)
    (completes : Completes world options expansion) :
    (run world arguments).code = 0 ∧ (run world arguments).output = expansion.output := by
  simp only [run, parsed, expand_of_completes completes, outcomeOf, and_self]

private theorem run_of_fails {stage : Stage} {error : RunError}
    (parsed : Request.ofArguments world.fullEnvironment arguments = .expand options)
    (fails : Fails world options stage error) :
    run world arguments = ⟨error.code, "", report error.chain⟩ := by
  simp only [run, parsed, expand_of_fails fails, outcomeOf]

/-- Showing the tokens changes what is told beside the output at most. -/
private theorem run_of_shown {others : List String} {shown : Bool}
    (parsed : Request.ofArguments world.fullEnvironment arguments = .expand options)
    (parsedOthers : Request.ofArguments world.fullEnvironment others =
      .expand { options with showTokens := shown }) :
    (run world others).code = (run world arguments).code ∧
      (run world others).output = (run world arguments).output := by
  have same : expand world { options with showTokens := shown } = expand world options := rfl
  simp only [run, parsed, parsedOthers, same]
  cases expand world options with
  | error error => exact ⟨rfl, rfl⟩
  | ok expansion => exact ⟨rfl, rfl⟩

/-- An expansion exits with 0 when every stage succeeds, and then it puts out the expansion.
Otherwise it exits with another code, puts out nothing and reports the error of the first stage that
fails. Options that differ in showing the tokens have the same code and output, and the flag for it
can be put before any options that do not have it. -/
theorem run_expand
    (parsed : Request.ofArguments world.fullEnvironment arguments = .expand options) :
    let outcome := run world arguments
    (outcome.code = 0 ↔ ∃ expansion, Completes world options expansion) ∧
      (∀ expansion, Completes world options expansion → outcome.output = expansion.output) ∧
      (outcome.code ≠ 0 ↔ ∃ stage error, Fails world options stage error) ∧
      (∀ stage error, Fails world options stage error →
        outcome.output = "" ∧ outcome.errors = report error.chain) ∧
      (∀ others shown, Request.ofArguments world.fullEnvironment others =
          .expand { options with showTokens := shown } →
        (run world others).code = outcome.code ∧ (run world others).output = outcome.output) ∧
      (options.showTokens = false → ∃ rest, arguments = "expand" :: rest ∧
        Request.ofArguments world.fullEnvironment ("expand" :: "--show-tokens" :: rest) =
          .expand { options with showTokens := true }) := by
  intro outcome
  have failed : ∀ stage error, Fails world options stage error →
      outcome = ⟨error.code, "", report error.chain⟩ :=
    fun _ _ fails => run_of_fails parsed fails
  refine ⟨?_, fun _ completes => (run_of_completes parsed completes).2, ?_, ?_,
    fun _ _ parsedOthers => run_of_shown parsed parsedOthers, ?_⟩
  · constructor
    · intro zero
      rcases completes_or_fails world options with completes | ⟨stage, error, fails⟩
      · exact completes
      · rw [failed stage error fails] at zero
        exact absurd zero error.code_ne_zero
    · rintro ⟨expansion, completes⟩
      exact (run_of_completes parsed completes).1
  · constructor
    · intro nonzero
      rcases completes_or_fails world options with ⟨expansion, completes⟩ | fails
      · exact absurd (run_of_completes parsed completes).1 nonzero
      · exact fails
    · rintro ⟨stage, error, fails⟩
      rw [failed stage error fails]
      exact error.code_ne_zero
  · intro stage error fails
    rw [failed stage error fails]
    exact ⟨rfl, rfl⟩
  · intro hidden
    obtain ⟨rest, rfl, reads⟩ := exists_rest_of_expand parsed
    have absent : options.hasFlag .showTokens = false := hidden
    exact ⟨rest, rfl, expandRequest_flag reads absent⟩

/-- Neither the configuration nor the template is there, and the configuration comes first. -/
theorem run_expand_two_missing :
    let world : World := ⟨.empty, none, .ofList [], .empty, "/", ⟨0, 0⟩⟩
    let arguments := ["expand", "-c", "tokens.yaml", "--input", "letter.txt"]
    let options : ExpandOptions := ⟨"tokens.yaml", none, some "letter.txt", false, false⟩
    let error := RunError.config (.io "tokens.yaml" .notFound)
    Request.ofArguments world.fullEnvironment arguments = .expand options ∧
      Fails world options .config error ∧ TemplateStage world options
        (.error (.template (some "letter.txt") .notFound)) ∧
      (run world arguments).code ≠ 0 ∧ (run world arguments).output = "" ∧
      (run world arguments).errors = report error.chain := by
  intro world arguments options error
  have parsed : Request.ofArguments world.fullEnvironment arguments = .expand options := by
    decide +kernel
  have absent : world.files.hasPath Settings.defaultPath = false := by decide +kernel
  have settled : SettingsStage world options (.ok .empty) :=
    .overridden (.none (.none rfl rfl absent)) rfl
  have fails : Fails world options .config error := .config settled (.unreadable rfl)
  obtain ⟨-, -, code, reported, -, -⟩ := run_expand parsed
  exact ⟨parsed, fails, .unreadable rfl rfl, code.mpr ⟨_, _, fails⟩, reported _ _ fails⟩

end Stencil.CommandLine
