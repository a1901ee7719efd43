import Stencil.Member.Registry
import Stencil.Settings.Document
import Stencil.Strategy.Wildcard
import Stencil.Tokenizer
import Stencil.Wiring.Reading

/-!
# Wiring a configuration

Every source of a configuration becomes a strategy under the name of its token. Settings are read
now; variables, stored values and members are read when a token is expanded.
-/

set_option autoImplicit false

namespace Stencil

inductive WiringError where
  | io (path : String) (fault : FileFault)
  | yaml
  | missingSetting (token key : String)
  | noStorage (token : String)
  | resolution (token : String) (error : ResolutionError)
  | tokenizer (error : TokenError)

def WiringError.message : WiringError → String
  | io path fault => "Failed to read token config from " ++ path ++ ": " ++ fault.message
  | yaml => "Invalid token config:"
  | missingSetting token key =>
    "Token '" ++ token ++ "' references missing setting '" ++ key ++ "'"
  | noStorage token =>
    "Token '" ++ token ++ "' needs contextual storage but none was provided"
  | resolution token error =>
    "Token '" ++ token ++ "' could not be resolved: " ++ error.message
  | tokenizer error => error.message

structure WiringContext (σ : Type) where
  settings : Settings
  members : Registry σ
  storage : Option Handle

structure Wired (σ : Type) where
  tokenizer : Tokenizer σ
  wildcard : Option Wildcard

namespace TokenConfig

variable {σ : Type} [Situated σ]

def load (files : Files) (path : String) : Except WiringError TokenConfig :=
  match files.readText path with
  | .error fault => .error (.io path fault)
  | .ok text =>
    match ofYaml? text with
    | some config => .ok config
    | none => .error .yaml

def strategyOf (context : WiringContext σ) (token : String) :
    TokenSource → Except WiringError (Strategy σ)
  | .fixed value => .ok (.constant value)
  | .setting key =>
    match context.settings.get? key with
    | some text => .ok (.constant (.string text))
    | none => .error (.missingSetting token key)
  | .environment name default? => .ok (.computed (.variableText name default?))
  | .context key =>
    match context.storage with
    | some handle => .ok (.storedValue handle key)
    | none => .error (.noStorage token)
  | .property type member =>
    match context.members.resolveProperty type member with
    | .ok computation => .ok (.computed computation)
    | .error error => .error (.resolution token error)
  | .method type member parameters =>
    match context.members.resolveMethod type member parameters with
    | .ok computation => .ok (.computed computation)
    | .error error => .error (.resolution token error)

def addStrategies (context : WiringContext σ) (strategies : Strategies σ) :
    List (String × TokenSource) → Except WiringError (Strategies σ)
  | [] => .ok strategies
  | (token, source) :: rest =>
    match strategyOf context token source with
    | .error error => .error error
    | .ok strategy => addStrategies context (strategies.insert token strategy) rest

/-- Wires a configuration. The wildcard is strict: what the settings do not have is a failure of the
token, which the tokenizer treats like any other. -/
def build (config : TokenConfig) (context : WiringContext σ) : Except WiringError (Wired σ) :=
  match addStrategies context .empty config.tokens.entries with
  | .error error => .error error
  | .ok strategies =>
    let caseRule := if config.caseSensitive then CaseRule.sensitive else CaseRule.insensitive
    match Tokenizer.build strategies config.strict caseRule with
    | .error error => .error (.tokenizer error)
    | .ok tokenizer =>
      .ok ⟨tokenizer,
        if config.wildcardSettings then some ⟨[context.settings.toValue], true⟩ else none⟩

end TokenConfig

namespace Wired

variable {σ : Type}

def expand (wired : Wired σ) (template : String) (state : σ) : Report × σ :=
  wired.tokenizer.expand (wired.wildcard.map Wildcard.strategy) template state

end Wired

end Stencil
