import Stencil.Member.Parameter
import Stencil.Proofs.Number.Integer

/-!
# What arguments are converted to

A converted argument is a value of the kind that was asked for: an integer in the range of 64 bits
with a sign, a finite double, a truth value or a text.
-/

set_option autoImplicit false

namespace Stencil

namespace ParameterKind

/-- The values of a kind. -/
inductive Admits : ParameterKind → Value → Prop where
  | string (text : String) : Admits .string (.string text)
  | integer {value : Int} (least : -9223372036854775808 ≤ value)
      (greatest : value ≤ 9223372036854775807) : Admits .integer (.integer value)
  | float {value : Number.Double} (finite : value.isFinite = true) :
      Admits .float (.number (.double value))
  | bool (value : Bool) : Admits .bool (.bool value)

theorem admits_of_convert {kind : ParameterKind} {argument : String} {value : Value}
    (converts : kind.convert argument = .ok value) : kind.Admits value := by
  cases kind with
  | string =>
    cases converts
    exact .string argument
  | integer =>
    rw [convert] at converts
    split at converts
    case h_1 integer reads =>
      cases converts
      obtain ⟨-, least, greatest⟩ :=
        (Number.readIntegerIn_eq_ok_iff (by decide) (by decide)).mp reads
      exact .integer least greatest
    case h_2 => cases converts
  | float =>
    rw [convert] at converts
    split at converts
    case h_1 double _ =>
      split at converts
      case isTrue finite =>
        cases converts
        exact .float finite
      case isFalse => cases converts
    case h_2 => cases converts
  | bool =>
    rw [convert] at converts
    split at converts
    case h_1 truth _ =>
      cases converts
      exact .bool truth
    case h_2 => cases converts

end ParameterKind

end Stencil
