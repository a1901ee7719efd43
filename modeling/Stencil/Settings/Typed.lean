import Stencil.Settings.Basic

/-!
# Typed settings

Reading the text of a setting as a number, a truth value or a character. Nothing is trimmed: a blank
beside a number is a fault.
-/

set_option autoImplicit false

namespace Stencil

inductive SettingType where
  | integer (range : Number.IntegerRange)
  | double
  | bool
  | character
  | text

inductive SettingValue where
  | integer (value : Int)
  | double (value : Number.Double)
  | bool (value : Bool)
  | character (value : Char)
  | text (value : String)
deriving DecidableEq, Repr

def readCharacter (text : String) : Except String Char :=
  match text.toList with
  | [] => .error "cannot parse char from empty string"
  | [character] => .ok character
  | _ => .error "too many characters in string"

namespace SettingType

def read (type : SettingType) (text : String) : Except String SettingValue :=
  match type with
  | integer range =>
    ((Number.readInteger range text).map .integer).mapError Number.IntegerFault.message
  | double => ((Number.Decimal.read text).map .double).mapError Number.DecimalFault.message
  | bool =>
    match readBool? text with
    | some value => .ok (.bool value)
    | none => .error ConversionFault.notBool.message
  | character => (readCharacter text).map .character
  | SettingType.text => .ok (.text text)

end SettingType

end Stencil
