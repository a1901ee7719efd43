import Stencil.Number.Decimal
import Stencil.Number.Integer
import Stencil.Text.Blank
import Stencil.Value.Basic

/-!
# Parameters

The kinds of parameters that a method can declare, and the conversion of a written argument to a
value of a kind.
-/

set_option autoImplicit false

namespace Stencil

inductive ParameterKind where
  | string
  | integer
  | float
  | bool
deriving DecidableEq, Repr

inductive ConversionFault where
  | integer (fault : Number.IntegerFault)
  | float (fault : Number.DecimalFault)
  | notFinite (argument : String)
  | notBool
deriving DecidableEq, Repr

def ConversionFault.message : ConversionFault → String
  | integer fault => fault.message
  | float fault => fault.message
  | notFinite argument => "'" ++ argument ++ "' is not a finite number"
  | notBool => "provided string was not `true` or `false`"

def readBool? (text : String) : Option Bool :=
  if text = "true" then some true
  else if text = "false" then some false
  else none

namespace ParameterKind

def name : ParameterKind → String
  | string => "string"
  | integer => "integer"
  | float => "float"
  | bool => "bool"

def ofName? (name : String) : Option ParameterKind :=
  [string, integer, float, bool].find? fun kind => kind.name = name

/-- Converts an argument. A text is taken as it is; the other kinds ignore blanks at both ends, and
floating point arguments must be finite. -/
def convert (kind : ParameterKind) (argument : String) : Except ConversionFault Value :=
  match kind with
  | string => .ok (.string argument)
  | integer =>
    match Number.readInteger (.signed 64) (Text.trim argument) with
    | .ok value => .ok (.integer value)
    | .error fault => .error (.integer fault)
  | float =>
    match Number.Decimal.read (Text.trim argument) with
    | .ok value =>
      if value.isFinite then .ok (.number (.double value)) else .error (.notFinite argument)
    | .error fault => .error (.float fault)
  | bool =>
    match readBool? (Text.trim argument) with
    | some value => .ok (.bool value)
    | none => .error .notBool

end ParameterKind

end Stencil
