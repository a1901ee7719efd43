import Stencil.Environment
import Stencil.Files
import Stencil.Member.Parameter
import Stencil.Value.Path

/-!
# Failures of strategies

Why evaluating a strategy failed. Each failure has words of its own and, except for a misused
wildcard, a cause; the full message joins the two.
-/

set_option autoImplicit false

namespace Stencil

inductive Cause where
  | reported (text : String)
  | conversion (fault : ConversionFault)
  | argumentCount (member : String) (expected actual : Nat)
  | variableFault (fault : VariableFault)
  | fileFault (fault : FileFault)
  | noContextualValue (key : String)

def Cause.message : Cause → String
  | reported text => text
  | conversion fault => fault.message
  | argumentCount member expected actual =>
    member ++ " expects " ++ toString expected ++ " argument(s), got " ++ toString actual
  | variableFault fault => fault.message
  | fileFault fault => fault.message
  | noContextualValue key => "no contextual value for '" ++ key ++ "'"

inductive WildcardAction where
  | lookup
  | set
deriving DecidableEq, Repr

def WildcardAction.name : WildcardAction → String
  | lookup => "lookup"
  | set => "set"

inductive StrategyError where
  | computation (name : String) (cause : Cause)
  | contextual (cause : Cause)
  /-- No target of a strict wildcard has the path; the error is that of the last target. -/
  | wildcard (action : WildcardAction) (path : String) (last : Option PathError)
  /-- A wildcard was evaluated without a key to look up. -/
  | withoutKey

namespace StrategyError

def own : StrategyError → String
  | computation name _ => name ++ " failed"
  | contextual _ => "contextual dynamic value failed"
  | wildcard action path (some _) => "wildcard " ++ action.name ++ " of '" ++ path ++ "' failed"
  | wildcard action path none =>
    "wildcard " ++ action.name ++ " of '" ++ path ++ "' failed: no targets"
  | withoutKey => "wildcard evaluated without a token"

def cause? : StrategyError → Option String
  | computation _ cause => some cause.message
  | contextual cause => some cause.message
  | wildcard _ _ last => last.map PathError.message
  | withoutKey => none

def message (error : StrategyError) : String :=
  match error.cause? with
  | some cause => error.own ++ ": " ++ cause
  | none => error.own

end StrategyError

end Stencil
