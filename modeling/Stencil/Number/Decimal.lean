import Stencil.Number.Double

/-!
# Decimal text of doubles

Reading accepts an optional sign, digits with at most one point among or beside them, an optional
exponent, and the names of the infinities and of not-a-number in any letter case. Writing chooses
the fewest digits that read back to the same double and, among those, the nearest to it; how the
digits are laid out is a separate record.
-/

set_option autoImplicit false

namespace Stencil.Number

inductive DecimalFault where
  | empty
  | invalid
deriving DecidableEq, Repr

def DecimalFault.message : DecimalFault → String
  | empty => "cannot parse float from empty string"
  | invalid => "invalid float literal"

namespace Decimal

def digitsValue (digits : List Char) : Nat :=
  digits.foldl (fun total digit => total * 10 + (digit.toNat - '0'.toNat)) 0

/-- The exponent after its mark: an optional sign and at least one digit, and nothing else. -/
def readExponent? (text : List Char) : Option Int :=
  let unsigned (digits : List Char) : Option Nat :=
    if digits.isEmpty || !digits.all Char.isDigit then none else some (digitsValue digits)
  match text with
  | '+' :: digits => (unsigned digits).map fun value => (value : Int)
  | '-' :: digits => (unsigned digits).map fun value => -(value : Int)
  | digits => (unsigned digits).map fun value => (value : Int)

/-- Digits, an optional point with digits, and an optional exponent. One digit at least stands
before or after the point. -/
def readUnsigned? (negative : Bool) (text : List Char) : Option Double :=
  let whole := text.takeWhile Char.isDigit
  let afterWhole := text.dropWhile Char.isDigit
  let (fraction, afterFraction) :=
    match afterWhole with
    | '.' :: rest => (rest.takeWhile Char.isDigit, rest.dropWhile Char.isDigit)
    | rest => ([], rest)
  if whole.isEmpty && fraction.isEmpty then none
  else
    let exponent? : Option Int :=
      match afterFraction with
      | [] => some 0
      | mark :: rest => if mark = 'e' ∨ mark = 'E' then readExponent? rest else none
    exponent?.map fun exponent =>
      Double.ofDecimal negative (digitsValue (whole ++ fraction)) (exponent - fraction.length)

def readMagnitude? (negative : Bool) (text : List Char) : Option Double :=
  let name := String.ofList (text.map Char.toLower)
  if name = "inf" ∨ name = "infinity" then some (Double.infinity negative)
  else if name = "nan" then some Double.notANumber
  else readUnsigned? negative text

def read (text : String) : Except DecimalFault Double :=
  match text.toList with
  | [] => .error .empty
  | '+' :: rest => ((readMagnitude? false rest).map Except.ok).getD (.error .invalid)
  | '-' :: rest => ((readMagnitude? true rest).map Except.ok).getD (.error .invalid)
  | whole => ((readMagnitude? false whole).map Except.ok).getD (.error .invalid)

end Decimal

structure Decimal where
  digits : Nat
  exponent : Int
deriving DecidableEq, Repr

namespace Decimal

/-- Factors `(a, b)` such that `c * 10 ^ ten` compares with `x * 2 ^ two` as `c * a` with
`x * b`. -/
def commonScale (ten two : Int) : Nat × Nat :=
  (Nat.pow 10 ten.toNat * Nat.pow 2 (-two).toNat, Nat.pow 10 (-ten).toNat * Nat.pow 2 two.toNat)

/-- The reals that round to a double: quarter steps of its exponent between two bounds, which
belong to it exactly when the significand is even. The lower bound of a power of two is nearer. -/
structure Interval where
  lower : Nat
  centre : Nat
  upper : Nat
  exponent : Int
  closed : Bool

def Interval.of (x : Double.Scaled) : Interval where
  lower := 4 * x.significand -
    (if x.significand = Nat.pow 2 52 ∧ Double.leastExponent < x.exponent then 1 else 2)
  centre := 4 * x.significand
  upper := 4 * x.significand + 2
  exponent := x.exponent - 2
  closed := x.significand % 2 = 0

def Interval.holds (interval : Interval) (count : Nat) (ten : Int) : Bool :=
  let (decimalScale, binaryScale) := commonScale ten interval.exponent
  let point := count * decimalScale
  if interval.closed then
    interval.lower * binaryScale ≤ point && point ≤ interval.upper * binaryScale
  else
    interval.lower * binaryScale < point && point < interval.upper * binaryScale

/-- The multiple of `10 ^ ten` in the interval that is nearest to its centre, an exact tie going to
the even one. Only the two neighbours of the centre can be nearest. -/
def Interval.nearest? (interval : Interval) (ten : Int) : Option Nat :=
  let (decimalScale, binaryScale) := commonScale ten interval.exponent
  let centre := interval.centre * binaryScale
  let below := centre / decimalScale
  let above := below + 1
  match interval.holds below ten, interval.holds above ten with
  | false, false => none
  | true, false => some below
  | false, true => some above
  | true, true =>
    let downwards := centre - below * decimalScale
    let upwards := above * decimalScale - centre
    if downwards < upwards then some below
    else if upwards < downwards then some above
    else some (if below % 2 = 0 then below else above)

/-- The power of ten just above a magnitude: `10 ^ (k - 1) ≤ x < 10 ^ k`. The estimate from the
binary length is off by one at most, which the comparison mends. -/
def orderOf (x : Double.Scaled) : Int :=
  let estimate := (x.exponent + Nat.log2 x.significand) * 30103 / 100000
  let isBelow (ten : Int) : Bool :=
    let (decimalScale, binaryScale) := commonScale ten x.exponent
    x.significand * binaryScale < decimalScale
  if isBelow estimate then estimate
  else if isBelow (estimate + 1) then estimate + 1
  else estimate + 2

def normalize (fuel : Nat) (decimal : Decimal) : Decimal :=
  match fuel with
  | 0 => decimal
  | fuel + 1 =>
    if decimal.digits ≠ 0 ∧ decimal.digits % 10 = 0 then
      normalize fuel ⟨decimal.digits / 10, decimal.exponent + 1⟩
    else
      decimal

/-- The shortest decimal of a finite magnitude, zero included. The number of digits grows until a
multiple of the power of ten lies in the interval; seventeen digits always suffice. -/
def shortest (x : Double.Scaled) : Decimal :=
  if x.significand = 0 then ⟨0, 0⟩
  else
    let interval := Interval.of x
    let order := orderOf x
    let found := (List.range 17).findSome? fun extra =>
      let ten := order - (extra + 1 : Nat)
      (interval.nearest? ten).map fun count => Decimal.mk count ten
    normalize 20 (found.getD ⟨0, 0⟩)

end Decimal

structure DecimalLayout where
  /-- Written between the exponent mark and an exponent that is not negative. -/
  exponentSign : String
  infinity : String
  notANumber : String

namespace DecimalLayout

private def zeros (count : Int) : String :=
  String.ofList (List.replicate count.toNat '0')

/-- Lays out a magnitude. With `point` the place of the decimal point relative to the first digit,
numbers with `-5 < point ≤ 16` are positional and integers end in `.0`; others have one digit
before the point and an exponent. -/
def magnitude (layout : DecimalLayout) (decimal : Decimal) : String :=
  if decimal.digits = 0 then "0.0"
  else
    let digits := Nat.toDigits 10 decimal.digits
    let point := decimal.exponent + digits.length
    if 0 ≤ decimal.exponent ∧ point ≤ 16 then
      String.ofList digits ++ zeros decimal.exponent ++ ".0"
    else if 0 < point ∧ point ≤ 16 then
      String.ofList (digits.take point.toNat) ++ "." ++ String.ofList (digits.drop point.toNat)
    else if -5 < point ∧ point ≤ 0 then
      "0." ++ zeros (-point) ++ String.ofList digits
    else
      let rest := digits.drop 1
      let fraction := if rest.isEmpty then "" else "." ++ String.ofList rest
      let exponent := point - 1
      String.ofList (digits.take 1) ++ fraction ++ "e" ++
        (if exponent < 0 then "-" else layout.exponentSign) ++ toString exponent.natAbs

def render (layout : DecimalLayout) (x : Double) : String :=
  if x.isNaN then layout.notANumber
  else
    let sign := if x.isNegative then "-" else ""
    if x.isFinite then sign ++ layout.magnitude (Decimal.shortest x.scaled)
    else sign ++ layout.infinity

end DecimalLayout

end Stencil.Number
