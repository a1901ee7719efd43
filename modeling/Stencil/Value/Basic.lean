import Stencil.Dictionary
import Stencil.Number.Double

/-!
# Values

The dynamic values that tokens resolve to: null, booleans, numbers, texts, arrays and objects.
Objects are entries under text keys; every operation of the library keeps their keys ascending.
-/

set_option autoImplicit false

namespace Stencil

/-- A number is an integer or a double; the two never mix, so `1` and `1.0` differ. -/
inductive Numeral where
  | integer (value : Int)
  | double (value : Number.Double)
deriving DecidableEq, Repr

inductive Value where
  | null
  | bool (value : Bool)
  | number (value : Numeral)
  | string (value : String)
  | array (items : List Value)
  | object (members : List (String × Value))
deriving Repr

namespace Value

instance : Inhabited Value := ⟨null⟩

def integer (value : Int) : Value := number (.integer value)

/-- A double as a value; only finite numbers have one, all others are null. -/
def ofDouble (value : Number.Double) : Value :=
  if value.isFinite then number (.double value) else null

def ofDictionary (dictionary : Dictionary Value) : Value :=
  object dictionary.entries

end Value

end Stencil
