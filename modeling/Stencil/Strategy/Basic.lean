import Stencil.Strategy.Failure
import Stencil.Surroundings

/-!
# Strategies

A strategy gives the value of a token. It is evaluated with the arguments of the token, where none
at all (`${name}`) differs from an empty list (`${name()}`), and it may read and change a state `σ`
that outlives the evaluation, also one that fails.
-/

set_option autoImplicit false

namespace Stencil

/-- A step from a state to a value or an error, and to the next state either way. -/
abbrev Attempt (σ ε α : Type) := σ → Except ε α × σ

/-- The arguments of a token, or none for a token that is no call. -/
abbrev Arguments := Option (List String)

structure Strategy (σ : Type) where
  evaluate : Arguments → Attempt σ StrategyError Value
  /-- Evaluates with the key of the token. Only wildcards make use of it. -/
  evaluateKey : String → Arguments → Attempt σ StrategyError Value := fun _ => evaluate

structure Computed (σ : Type) where
  name : String
  compute : Arguments → Attempt σ Cause Value

namespace Strategy

variable {σ : Type}

def constant (value : Value) : Strategy σ where
  evaluate := fun _ state => (.ok value, state)

def computed (computation : Computed σ) : Strategy σ where
  evaluate := fun arguments state =>
    let (result, next) := computation.compute arguments state
    (result.mapError (.computation computation.name), next)

def contextual {γ : Type} (context : γ) (compute : γ → Arguments → Attempt σ Cause Value) :
    Strategy σ where
  evaluate := fun arguments state =>
    let (result, next) := compute context arguments state
    (result.mapError .contextual, next)

/-- The value that a handle finds under a key when the token is expanded, on the thread that
expands it. -/
def storedValue [Situated σ] (handle : Handle) (key : String) : Strategy σ :=
  contextual handle fun handle _ state =>
    let surroundings := Situated.surroundings state
    match handle.get? surroundings.thread surroundings.storage key with
    | some value => (.ok value, state)
    | none => (.error (.noContextualValue key), state)

end Strategy

namespace Computed

def defaultName : String := "dynamic value"

def description {σ : Type} (computation : Computed σ) : String :=
  "DynamicValue \x7b name: " ++ Text.quoted computation.name ++ ", .. \x7d"

def variableText {σ : Type} [Situated σ] (name : String) (default? : Option String) :
    Computed σ where
  name := "env " ++ name
  compute := fun _ state =>
    match (Situated.surroundings state).environment.read name, default? with
    | .ok text, _ => (.ok (.string text), state)
    | .error _, some fallback => (.ok (.string fallback), state)
    | .error fault, none => (.error (.variableFault fault), state)

end Computed

abbrev Strategies (σ : Type) := Dictionary (Strategy σ)

namespace Strategies

def description {σ : Type} (strategies : Strategies σ) : String :=
  "\x7b" ++ ", ".intercalate (strategies.keys.map Text.quoted) ++ "\x7d"

end Strategies

end Stencil
