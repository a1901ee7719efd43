import Stencil.CommandLine.Arguments
import Stencil.CommandLine.EnvironmentFile
import Stencil.Member.Builtin
import Stencil.Wiring.Build

/-!
# Running the command line

An expansion reads the settings, then the token configuration, wires it, reads the template and
expands it. The first stage that fails ends the run, and only a run that reaches the end prints
anything but errors.
-/

set_option autoImplicit false

namespace Stencil.CommandLine

structure World where
  environment : Environment
  environmentFile : Option ByteArray
  files : Files
  input : ByteArray
  directory : CurrentDirectory
  instant : Instant

def World.fullEnvironment (world : World) : Environment :=
  match world.environmentFile with
  | some contents => EnvironmentFile.apply world.environment contents
  | none => world.environment

inductive RunError where
  | settings (error : SettingsError)
  /-- The environment is not text, so it cannot be searched for overrides. -/
  | environment
  | config (error : WiringError)
  | wiring (path : String) (error : WiringError)
  | template (path : Option String) (fault : FileFault)
  | expansion (error : TokenError)

/-! ### Chains of causes -/

def strategyCauses (error : StrategyError) : List String :=
  error.cause?.toList

def tokenChain (error : TokenError) : List String :=
  error.message ::
    match error with
    | .collision .. => []
    | .tokenization _ reason =>
      reason.message ::
        match reason with
        | .functionException error => error.message :: strategyCauses error
        | .pathFailed error => [error.message]
        | _ => []

def wiringChain (error : WiringError) : List String :=
  match error with
  | .io _ fault => [error.message, fault.message]
  | .resolution _ cause => [error.message, cause.message]
  | .tokenizer cause => tokenChain cause
  | _ => [error.message]

def settingsChain (error : SettingsError) : List String :=
  match error with
  | .io _ fault => [error.message, fault.message]
  | _ => [error.message]

def RunError.chain : RunError → List String
  | settings error => settingsChain error
  | environment => ["the environment is not valid unicode"]
  | config error => wiringChain error
  | wiring path error => ("Failed to wire tokens from " ++ path) :: wiringChain error
  | template (some path) fault => ["Failed to read template " ++ path, fault.message]
  | template none fault => ["Failed to read template from stdin", fault.message]
  | expansion error => "Token expansion failed" :: tokenChain error

def indented (margin text : String) : String :=
  ("\n" ++ margin).intercalate ((Text.splitAt '\n' text.toList).map String.ofList)

def numberedCauses (number : Nat) : List String → String
  | [] => ""
  | cause :: rest =>
    let digits := toString number
    let width := String.ofList (List.replicate (5 - digits.length) ' ')
    width ++ digits ++ ": " ++ indented "       " cause ++ "\n" ++ numberedCauses (number + 1) rest

/-- The report of a chain of causes: the first one, and below it the others. They are numbered when
there are several. -/
def report : List String → String
  | [] => ""
  | [top] => "Error: " ++ top ++ "\n"
  | [top, cause] =>
    "Error: " ++ top ++ "\n\nCaused by:\n    " ++ indented "    " cause ++ "\n"
  | top :: causes => "Error: " ++ top ++ "\n\nCaused by:\n" ++ numberedCauses 0 causes

/-! ### Stages -/

def ExpandOptions.paths (options : ExpandOptions) (environment : Environment) : List String :=
  let settings :=
    (options.settings.or (environment.text? Settings.pathVariable)).getD Settings.defaultPath
  [settings, options.config] ++ options.input.toList

def readSettings (world : World) (options : ExpandOptions) : Except RunError Settings :=
  match Settings.loadWithEnvironment options.settings world.fullEnvironment world.files with
  | .error error => .error (.settings error)
  | .ok none => .error .environment
  | .ok (some settings) => .ok settings

/-- The token configuration of a run. The option can only make it strict. -/
def readConfig (world : World) (options : ExpandOptions) : Except RunError TokenConfig :=
  match TokenConfig.load world.files options.config with
  | .error error => .error (.config error)
  | .ok config => .ok { config with strict := config.strict || options.strict }

/-- The storage of a run: a shared store in which nothing is kept. -/
def runStorage : Handle := ⟨.shared 0, .ordinal⟩

def wire (options : ExpandOptions) (settings : Settings) (config : TokenConfig) :
    Except RunError (Wired Surroundings) :=
  match config.build ⟨settings, Registry.builtin, some runStorage⟩ with
  | .error error => .error (.wiring options.config error)
  | .ok wired => .ok wired

def readTemplate (world : World) (options : ExpandOptions) : Except RunError String :=
  match options.input with
  | some path => (world.files.readText path).mapError (.template (some path))
  | none =>
    match String.fromUTF8? world.input with
    | some text => .ok text
    | none => .error (.template none .notUnicode)

def surroundings (world : World) : Surroundings where
  environment := world.fullEnvironment
  storage := .empty
  thread := "main"
  directory := world.directory
  instant := world.instant

def expand (world : World) (options : ExpandOptions) : Except RunError Expansion := do
  let settings ← readSettings world options
  let config ← readConfig world options
  let wired ← wire options settings config
  let template ← readTemplate world options
  ((wired.expand template (surroundings world)).1.result).mapError .expansion

/-! ### Outcomes -/

structure Outcome where
  code : Nat
  output : String
  errors : String
deriving DecidableEq, Repr

def tokenSummary (expansion : Expansion) : String :=
  let keys := expansion.keys.keys
  "tokens (" ++ toString keys.length ++ "): " ++ ", ".intercalate keys ++ "\n" ++
    if 0 < expansion.unresolved then "unresolved: " ++ toString expansion.unresolved ++ "\n"
    else ""

def versionText : String := "solder 0.1.0\n"

/-- Stands for what the reader of the arguments prints by itself, when help is asked for and when
the arguments cannot be read. Its words are not told here: they depend on the command that help is
asked for and on the argument that is at fault. -/
def usageText : String := "Usage: solder expand [OPTIONS] --config <CONFIG>\n"

/-- The exit code of a failed expansion; an environment that is not text ends the program at
once. -/
def RunError.code : RunError → Nat
  | environment => 101
  | _ => 1

def outcomeOf (options : ExpandOptions) : Except RunError Expansion → Outcome
  | .error error => ⟨error.code, "", report error.chain⟩
  | .ok expansion =>
    ⟨0, expansion.output, if options.showTokens then tokenSummary expansion else ""⟩

def run (world : World) (arguments : List String) : Outcome :=
  match Request.ofArguments world.fullEnvironment arguments with
  | .misuse => ⟨2, "", usageText⟩
  | .help => ⟨0, usageText, ""⟩
  | .version => ⟨0, versionText, ""⟩
  | .expand options => outcomeOf options (expand world options)

end Stencil.CommandLine
