import Stencil.Strategy.Basic
import Stencil.Template.Scan
import Stencil.Value.Text

/-!
# Expanding templates

Every token of a template is replaced by the text of its value. Its key selects a registered
strategy, else the wildcard if there is one; the rest of its identifier is walked in the value that
the strategy gives. A token that fails ends a strict expansion and stays as it was written in a
loose one. The text that replaces a token is never scanned.
-/

set_option autoImplicit false

namespace Stencil

inductive CaseRule where
  | sensitive
  /-- The exact key first, then the one that is equal when ASCII case is ignored. -/
  | insensitive
deriving DecidableEq, Repr

inductive FailureReason where
  /-- The identifier starts with a dot, so there is no key. -/
  | tokenMissing
  | tokenUnknown
  | functionException (error : StrategyError)
  | pathFailed (error : PathError)

namespace FailureReason

def tag : FailureReason → String
  | tokenMissing => "token missing"
  | tokenUnknown => "token unknown"
  | functionException _ => "function exception"
  | pathFailed _ => "logical property expansion failed"

def message : FailureReason → String
  | functionException error => "function exception \x7b" ++ error.message ++ "\x7d"
  | pathFailed error => "logical property expansion failed \x7b" ++ error.message ++ "\x7d"
  | other => other.tag

end FailureReason

inductive TokenError where
  | collision (first second : String)
  | tokenization (matched : String) (reason : FailureReason)

def TokenError.message : TokenError → String
  | collision first second =>
    "invalid argument 'strategies': keys '" ++ first ++ "' and '" ++ second ++
      "' collide when case is ignored"
  | tokenization matched reason =>
    "tokenization failed for '" ++ matched ++ "': " ++ reason.message

/-- The result of an expansion: its text, the number of tokens left as written, and the keys that
were met. -/
structure Expansion where
  output : String
  unresolved : Nat
  keys : KeySet

namespace Expansion

def empty : Expansion := ⟨"", 0, .empty⟩

def append (expansion : Expansion) (text : String) : Expansion :=
  { expansion with output := expansion.output ++ text }

def note (expansion : Expansion) (key : String) : Expansion :=
  if key.isEmpty then expansion else { expansion with keys := expansion.keys.add key }

def leave (expansion : Expansion) (written : String) : Expansion :=
  { expansion with
    output := expansion.output ++ written, unresolved := expansion.unresolved + 1 }

end Expansion

structure Report where
  result : Except TokenError Expansion
  keys : KeySet

structure Tokenizer (σ : Type) where
  strategies : Strategies σ
  strict : Bool
  caseRule : CaseRule

namespace Tokenizer

variable {σ : Type}

/-- The first key that folds to the same text as an earlier one, after that earlier one. -/
def firstCollision? (earlier : List String) : List String → Option (String × String)
  | [] => none
  | key :: rest =>
    match earlier.find? fun other => Text.fold other = Text.fold key with
    | some other => some (other, key)
    | none => firstCollision? (key :: earlier) rest

/-- Builds a tokenizer. When case is ignored, no two keys may differ in case only. -/
def build (strategies : Strategies σ) (strict : Bool) (caseRule : CaseRule) :
    Except TokenError (Tokenizer σ) :=
  match caseRule with
  | .sensitive => .ok ⟨strategies, strict, .sensitive⟩
  | .insensitive =>
    match firstCollision? [] strategies.keys with
    | some (first, second) => .error (.collision first second)
    | none => .ok ⟨strategies, strict, .insensitive⟩

def find? (tokenizer : Tokenizer σ) (key : String) : Option (Strategy σ) :=
  match tokenizer.caseRule with
  | .sensitive => tokenizer.strategies.get? key
  | .insensitive =>
    match tokenizer.strategies.get? key with
    | some strategy => some strategy
    | none =>
      (tokenizer.strategies.entries.find? fun entry => Text.fold entry.1 = Text.fold key).map
        Prod.snd

/-- Evaluates what the key of a token selects: a registered strategy, else the wildcard. -/
def evaluate (tokenizer : Tokenizer σ) (wildcard : Option (Strategy σ)) (token : Template.Token) :
    Attempt σ FailureReason Value := fun state =>
  match tokenizer.find? token.key, wildcard with
  | some strategy, _ =>
    let (result, next) := strategy.evaluate token.arguments state
    (result.mapError .functionException, next)
  | none, some wildcard =>
    let (result, next) := wildcard.evaluateKey token.key token.arguments state
    (result.mapError .functionException, next)
  | none, none => (.error .tokenUnknown, state)

def resolve (tokenizer : Tokenizer σ) (wildcard : Option (Strategy σ)) (token : Template.Token) :
    Attempt σ FailureReason String := fun state =>
  if token.key.isEmpty then (.error .tokenMissing, state)
  else
    match tokenizer.evaluate wildcard token state with
    | (.error reason, next) => (.error reason, next)
    | (.ok value, next) =>
      (((value.resolvePath token.path).map Value.text).mapError .pathFailed, next)

def expandPieces (tokenizer : Tokenizer σ) (wildcard : Option (Strategy σ))
    (sofar : Expansion) (state : σ) : List Template.Piece → Report × σ
  | [] => (⟨.ok sofar, sofar.keys⟩, state)
  | .plain character :: rest =>
    tokenizer.expandPieces wildcard (sofar.append (String.singleton character)) state rest
  | .token written token :: rest =>
    let noted := sofar.note token.key
    match tokenizer.resolve wildcard token state with
    | (.ok text, next) => tokenizer.expandPieces wildcard (noted.append text) next rest
    | (.error reason, next) =>
      if tokenizer.strict then
        (⟨.error (.tokenization (String.ofList written) reason), noted.keys⟩, next)
      else
        tokenizer.expandPieces wildcard (noted.leave (String.ofList written)) next rest

/-- Expands a template. A blank one is its own expansion. -/
def expand (tokenizer : Tokenizer σ) (wildcard : Option (Strategy σ)) (template : String)
    (state : σ) : Report × σ :=
  if Text.isBlankText template then
    (⟨.ok ⟨template, 0, .empty⟩, .empty⟩, state)
  else
    tokenizer.expandPieces wildcard .empty state (Template.pieces template.toList)

end Tokenizer

structure Session (σ : Type) where
  tokenizer : Tokenizer σ
  previous : List String

namespace Session

variable {σ : Type}

def start (tokenizer : Tokenizer σ) : Session σ := ⟨tokenizer, []⟩

/-- Expands a template and remembers the keys it met in place of those of the expansion before. -/
def expand (session : Session σ) (wildcard : Option (Strategy σ)) (template : String) (state : σ) :
    (Except TokenError Expansion × Session σ) × σ :=
  let (report, next) := session.tokenizer.expand wildcard template state
  ((report.result, { session with previous := report.keys.keys }), next)

/-- Expands a template to its text alone. -/
def expandTokensWith (session : Session σ) (template : String) (wildcard : Option (Strategy σ))
    (state : σ) : (Except TokenError String × Session σ) × σ :=
  let ((result, session), next) := session.expand wildcard template state
  ((result.map Expansion.output, session), next)

def expandTokens (session : Session σ) (template : String) (state : σ) :
    (Except TokenError String × Session σ) × σ :=
  session.expandTokensWith template none state

end Session

end Stencil
