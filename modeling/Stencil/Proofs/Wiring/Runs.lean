import Mathlib.Data.List.Forall2
import Stencil.Proofs.Expansion.Stepwise
import Stencil.Proofs.Wiring.Meaning

/-!
# Runs of a process

A process with a wired tokenizer takes steps of all kinds in any order: its environment, directory
and clock change, requests reach its storage on any thread, and expansions on any threads begin and
go on token by token. Over whole runs its expansions are those that the configuration means.
-/

set_option autoImplicit false

namespace Stencil

/-- The surroundings of a process, and whatever the members of its types keep for themselves. -/
structure Process (τ : Type) where
  surroundings : Surroundings
  memory : τ

instance {τ : Type} : Situated (Process τ) := ⟨Process.surroundings⟩

/-- An expansion that is under way on a thread, or has ended. -/
inductive Job (Stage : Type) where
  | underway (thread : String) (stage : Stage)
  | ended

/-- A process and its expansions in the order in which they began. -/
structure Running (τ Stage : Type) where
  process : Process τ
  jobs : List (Job Stage)

inductive Step where
  | setVariable (name : String) (value : ByteArray)
  | unsetVariable (name : String)
  | enter (directory : CurrentDirectory)
  | tick (instant : Instant)
  | request (request : Storage.Request)
  | begin (thread template : String)
  /-- An expansion goes on, up to the end of its next token or of the template. -/
  | proceed (job : Nat)

inductive Event where
  | quiet
  | answered (answer : Storage.Answer)
  | reported (job : Nat) (report : Report)

namespace Running

variable {τ Stage : Type}

def start (process : Process τ) : Running τ Stage := ⟨process, []⟩

def adapt (running : Running τ Stage) (change : Surroundings → Surroundings) : Running τ Stage :=
  { running with
    process := { running.process with surroundings := change running.process.surroundings } }

/-- The process as a thread sees it. -/
def seenFrom (running : Running τ Stage) (thread : String) : Process τ :=
  (running.adapt (·.onThread thread)).process

end Running

namespace Expander

variable {τ : Type} (expander : Expander (Process τ))

/-- An expansion has gone on to a report or a later stage, and has left a state. -/
def settle (running : Running τ expander.Stage) (job : Nat) (thread : String) :
    (Report ⊕ expander.Stage) × Process τ → Event × Running τ expander.Stage
  | (.inl report, next) => (.reported job report, ⟨next, running.jobs.set job .ended⟩)
  | (.inr later, next) => (.quiet, ⟨next, running.jobs.set job (.underway thread later)⟩)

def step (running : Running τ expander.Stage) : Step → Event × Running τ expander.Stage
  | .setVariable name value =>
    (.quiet, running.adapt fun surroundings =>
      { surroundings with environment := surroundings.environment.set name value })
  | .unsetVariable name =>
    (.quiet, running.adapt fun surroundings =>
      { surroundings with environment := surroundings.environment.unset name })
  | .enter directory => (.quiet, running.adapt ({ · with directory }))
  | .tick instant => (.quiet, running.adapt ({ · with instant }))
  | .request request =>
    let outcome := request.perform running.process.surroundings
    (.answered outcome.1, running.adapt fun _ => outcome.2)
  | .begin thread template =>
    (.quiet, { running with
      jobs := running.jobs ++ [.underway thread (expander.start template)] })
  | .proceed job =>
    match running.jobs[job]? with
    | some (.underway thread stage) =>
      expander.settle running job thread (expander.proceed stage (running.seenFrom thread))
    | _ => (.quiet, running)

def run (running : Running τ expander.Stage) : List Step → List Event × Running τ expander.Stage
  | [] => ([], running)
  | step :: rest =>
    let first := expander.step running step
    let others := run first.2 rest
    (first.1 :: others.1, others.2)

end Expander

/-! ## Agreement of runs -/

section Agreement

variable {τ A B : Type} {related : A → B → Prop}

inductive Job.Agree (related : A → B → Prop) : Job A → Job B → Prop where
  | underway (thread : String) {here : A} {there : B} (relates : related here there) :
      Job.Agree related (.underway thread here) (.underway thread there)
  | ended : Job.Agree related .ended .ended

structure Running.Agree (related : A → B → Prop) (here : Running τ A) (there : Running τ B) :
    Prop where
  process : here.process = there.process
  jobs : List.Forall₂ (Job.Agree related) here.jobs there.jobs

theorem Running.Agree.start (process : Process τ) :
    (Running.start process : Running τ A).Agree related (Running.start process : Running τ B) :=
  ⟨rfl, .nil⟩

theorem Running.Agree.adapt {here : Running τ A} {there : Running τ B}
    (agree : here.Agree related there) (change : Surroundings → Surroundings) :
    (here.adapt change).Agree related (there.adapt change) := by
  obtain ⟨process, jobs⟩ := agree
  refine ⟨?_, jobs⟩
  rw [Running.adapt, Running.adapt, process]

/-- Agreement of lists at one place. -/
private theorem agree_getElem? {here : List (Job A)} {there : List (Job B)}
    (agree : List.Forall₂ (Job.Agree related) here there) (job : Nat) :
    (here[job]? = none ∧ there[job]? = none) ∨
      ∃ left right, here[job]? = some left ∧ there[job]? = some right ∧
        Job.Agree related left right := by
  induction agree generalizing job with
  | nil => exact .inl ⟨rfl, rfl⟩
  | cons first _ ih =>
    cases job with
    | zero => exact .inr ⟨_, _, rfl, rfl, first⟩
    | succ job => exact ih job

private theorem agree_set {here : List (Job A)} {there : List (Job B)}
    (agree : List.Forall₂ (Job.Agree related) here there) (job : Nat) {left : Job A}
    {right : Job B} (same : Job.Agree related left right) :
    List.Forall₂ (Job.Agree related) (here.set job left) (there.set job right) := by
  induction agree generalizing job with
  | nil => exact .nil
  | cons first rest ih =>
    cases job with
    | zero => exact .cons same rest
    | succ job => exact .cons first (ih job)

end Agreement

namespace Expander

variable {τ : Type} {left right : Expander (Process τ)}
  {related : left.Stage → right.Stage → Prop}

private theorem Alike.settle {here : Running τ left.Stage} {there : Running τ right.Stage}
    {outcome : (Report ⊕ left.Stage) × Process τ} {other : (Report ⊕ right.Stage) × Process τ}
    (alike : Alike related outcome other)
    (jobs : List.Forall₂ (Job.Agree related) here.jobs there.jobs) (job : Nat) (thread : String) :
    (left.settle here job thread outcome).1 = (right.settle there job thread other).1 ∧
      (left.settle here job thread outcome).2.Agree related
        (right.settle there job thread other).2 := by
  cases alike with
  | ended report next => exact ⟨rfl, rfl, agree_set jobs job .ended⟩
  | going next relates => exact ⟨rfl, rfl, agree_set jobs job (.underway thread relates)⟩

variable (similar : left.Agree right related)

include similar

/-- A step is answered alike and leads to agreement again. -/
theorem Agree.step {here : Running τ left.Stage} {there : Running τ right.Stage}
    (agree : here.Agree related there) (step : Step) :
    (left.step here step).1 = (right.step there step).1 ∧
      (left.step here step).2.Agree related (right.step there step).2 := by
  cases step with
  | setVariable | unsetVariable | enter | tick =>
    simp only [Expander.step, true_and]
    exact agree.adapt _
  | request request =>
    simp only [Expander.step, agree.process, true_and]
    exact agree.adapt _
  | begin thread template =>
    refine ⟨rfl, agree.process, List.rel_append agree.jobs (.cons ?_ .nil)⟩
    exact .underway thread (similar.start template)
  | proceed job =>
    rw [Expander.step, Expander.step]
    rcases agree_getElem? agree.jobs job with ⟨none, other⟩ | ⟨first, second, found, other, same⟩
    · rw [none, other]
      exact ⟨rfl, agree⟩
    · rw [found, other]
      cases same with
      | ended => exact ⟨rfl, agree⟩
      | underway thread relates =>
        have seen : here.seenFrom thread = there.seenFrom thread :=
          (agree.adapt (·.onThread thread)).process
        simp only [seen]
        exact (similar.proceed relates _).settle agree.jobs job thread

theorem Agree.run {here : Running τ left.Stage} {there : Running τ right.Stage}
    (agree : here.Agree related there) (steps : List Step) :
    (left.run here steps).1 = (right.run there steps).1 ∧
      (left.run here steps).2.Agree related (right.run there steps).2 := by
  induction steps generalizing here there with
  | nil => exact ⟨rfl, agree⟩
  | cons step rest ih =>
    obtain ⟨event, next⟩ := similar.step agree step
    obtain ⟨events, last⟩ := ih next
    exact ⟨congrArg₂ List.cons event events, last⟩

end Expander

/-! ## Wired tokenizers -/

namespace Wired

variable {σ : Type}

def expander (wired : Wired σ) : Expander σ :=
  wired.tokenizer.expander (wired.wildcard.map Wildcard.strategy)

def resolve (wired : Wired σ) (token : Template.Token) : Attempt σ FailureReason String :=
  wired.tokenizer.resolve (wired.wildcard.map Wildcard.strategy) token

end Wired

namespace TokenConfig

variable {σ : Type} [Situated σ]

/-- The reference expansion that a configuration means. -/
def expander (config : TokenConfig) (context : WiringContext σ) : Expander σ :=
  Account.expander config.strict (config.reading context)

/-- Whether a token is settled when the configuration is wired: its source is a value or a setting,
or it is left to the settings as they were then. -/
def isSettled (config : TokenConfig) (key : String) : Bool :=
  match config.entry? key with
  | some (_, .fixed _) | some (_, .setting _) | none => true
  | some _ => false

private theorem evaluation?_of_settled {config : TokenConfig} (context : WiringContext σ)
    {key : String}
    (settled : config.isSettled key = true) :
    config.evaluation? context key = none ∨
      ∃ outcome, config.evaluation? context key = some fun _ state => (outcome, state) := by
  rw [isSettled] at settled
  rw [evaluation?]
  cases selected : config.entry? key with
  | none =>
    cases config.wildcardSettings with
    | true => exact .inr ⟨_, rfl⟩
    | false => exact .inl rfl
  | some entry =>
    obtain ⟨name, source⟩ := entry
    rw [selected] at settled
    cases source with
    | fixed value => exact .inr ⟨_, rfl⟩
    | setting setting =>
      simp only [TokenSource.meaning?]
      cases context.settings.get? setting with
      | none => exact .inl rfl
      | some text => exact .inr ⟨_, rfl⟩
    | environment | context | property | method => cases settled

private theorem reading_of_settled {config : TokenConfig} {context : WiringContext σ}
    {token : Template.Token} (settled : config.isSettled token.key = true) :
    ∃ result, ∀ state, config.reading context token state = (result, state) := by
  by_cases missing : token.key = ""
  · exact ⟨_, fun state => by rw [reading, if_pos missing]⟩
  · rcases evaluation?_of_settled context settled with unknown | ⟨outcome, known⟩
    · exact ⟨_, fun state => by rw [reading, if_neg missing, unknown]⟩
    · exact ⟨textAt token.path outcome, fun state => by rw [reading, if_neg missing, known]⟩

end TokenConfig

/-- A wired tokenizer means what its configuration says. Every source means something. What the
tokenizer expands without interruption is the reference expansion. In a run with any steps, the
events are those of the reference, reports of expansions among them, and so is the process at the
end. What was settled when the configuration was wired stays the same in every state. -/
theorem run_wired_eq_run_config {τ : Type} {config : TokenConfig}
    {context : WiringContext (Process τ)} {wired : Wired (Process τ)}
    (built : config.build context = .ok wired) :
    (∀ token source, config.tokens.get? token = some source →
        (source.meaning? context).isSome = true) ∧
      (∀ template process,
        wired.expander.expand template process = wired.expand template process ∧
          wired.expand template process = (config.expander context).expand template process) ∧
      (∀ process steps,
        let actual := wired.expander.run (.start process) steps
        let meant := (config.expander context).run (.start process) steps
        actual.1 = meant.1 ∧ actual.2.process = meant.2.process) ∧
      ∀ token : Template.Token, config.isSettled token.key = true →
        ∃ result, ∀ process, wired.resolve token process = (result, process) := by
  have wires := TokenConfig.wires_of_build built
  have resolves : wired.tokenizer.resolve (wired.wildcard.map Wildcard.strategy) =
      config.reading context := funext wires.resolve_eq_reading
  have agree := wired.tokenizer.agree_expander (wired.wildcard.map Wildcard.strategy)
  rw [wires.strict, resolves] at agree
  refine ⟨fun _ _ found => wires.isSome_meaning? found, fun template process => ?_,
    fun process steps => ?_, fun token settled => ?_⟩
  · have whole := wired.tokenizer.expand_eq_reference (wired.wildcard.map Wildcard.strategy)
      template process
    rw [wires.strict, resolves] at whole
    exact ⟨wired.tokenizer.expand_expander _ template process, whole⟩
  · obtain ⟨events, last⟩ := agree.run (.start process) steps
    exact ⟨events, last.process⟩
  · rw [Wired.resolve, resolves]
    exact TokenConfig.reading_of_settled settled

def Event.output? : Event → Option String
  | .reported _ ⟨.ok expansion, _⟩ => some expansion.output
  | _ => none

/-- While a thread expands a template, another one stores what the second token needs, and the
variable of the third is set. The setting is that of the build. -/
theorem run_wired_eq_run_config_interrupted :
    let config : TokenConfig :=
      ⟨true, false, false, .ofList [("db", .setting "name"), ("user", .context "user"),
        ("home", .environment "HOME" none)]⟩
    let handle : Handle := ⟨.shared 0, .ordinal⟩
    let context : WiringContext (Process Unit) :=
      ⟨⟨.ofList [("name", "main")]⟩, .empty, some handle⟩
    let process : Process Unit := ⟨⟨.empty, .empty, "one", "/", ⟨0, 0⟩⟩, ()⟩
    let steps : List Step :=
      [.begin "one" "$\x7bDB\x7d $\x7buser\x7d $\x7bhome\x7d", .proceed 0,
        .request ⟨"two", handle, .set "user" (.string "ada")⟩, .proceed 0,
        .setVariable "HOME" "/root".toUTF8, .proceed 0, .proceed 0]
    ∃ wired, config.build context = .ok wired ∧
      (wired.expander.run (.start process) steps).1.filterMap Event.output? =
        ["main ada /root"] := by
  intro config handle context process steps
  have succeeds : (config.build context).isOk = true := by decide +kernel
  cases built : config.build context with
  | error error => rw [built] at succeeds; cases succeeds
  | ok wired =>
    have run := ((run_wired_eq_run_config built).2.2.1 process steps).1
    refine ⟨wired, rfl, ?_⟩
    rw [run]
    decide +kernel

end Stencil
