import Stencil.Strategy.Basic

/-!
# Wildcards

A wildcard answers for keys that no strategy is registered under. It resolves a dotted path in the
first of its targets that has the whole path.
-/

set_option autoImplicit false

namespace Stencil

structure Wildcard where
  targets : List Value
  strict : Bool

namespace Wildcard

/-- Walks a path in each target in turn and stops at the first that has it. The error of the last
target is kept; without targets there is none. -/
def firstMatch (path : List String) (last : Option PathError) :
    List Value → Except (Option PathError) Value
  | [] => .error last
  | target :: rest =>
    match target.resolvePath path with
    | .ok value => .ok value
    | .error error => firstMatch path (some error) rest

/-- The value at a dotted path in the first target that has it. A miss is none when the wildcard is
not strict. -/
def lookup (wildcard : Wildcard) (path : String) : Except StrategyError (Option Value) :=
  match firstMatch (Text.segments path) none wildcard.targets with
  | .ok value => .ok (some value)
  | .error last => if wildcard.strict then .error (.wildcard .lookup path last) else .ok none

def firstAssigned (path : List String) (value : Value) (last : Option PathError) :
    List Value → Except (Option PathError) (List Value)
  | [] => .error last
  | target :: rest =>
    match target.assignPath path value with
    | .ok changed => .ok (changed :: rest)
    | .error error => (firstAssigned path value (some error) rest).map (target :: ·)

/-- Sets the value at a dotted path in the first target that takes it and tells whether there was
one. A miss is an error when the wildcard is strict; either way it changes nothing. -/
def set (wildcard : Wildcard) (path : String) (value : Value) :
    Except StrategyError Bool × Wildcard :=
  match firstAssigned (Text.segments path) value none wildcard.targets with
  | .ok targets => (.ok true, { wildcard with targets })
  | .error last =>
    (if wildcard.strict then .error (.wildcard .set path last) else .ok false, wildcard)

def push (wildcard : Wildcard) (target : Value) : Wildcard :=
  { wildcard with targets := wildcard.targets ++ [target] }

/-- A wildcard as a strategy. It needs the key of the token; a key that a wildcard misses without
being strict is null. -/
def strategy {σ : Type} (wildcard : Wildcard) : Strategy σ where
  evaluate := fun _ state => (.error .withoutKey, state)
  evaluateKey := fun key _ state => ((wildcard.lookup key).map (·.getD .null), state)

end Wildcard

end Stencil
