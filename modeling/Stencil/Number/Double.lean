/-!
# Binary floating point numbers

A double is held as its 64 bits: one sign bit, eleven exponent bits and 52 fraction bits. Its
magnitude is an integer times a power of two, so rounding and printing are exact arithmetic on
natural numbers and no operation of the processor is involved.
-/

set_option autoImplicit false

namespace Stencil.Number

structure Double where
  bits : UInt64
deriving DecidableEq, Repr

namespace Double

/-- The weight of the lowest fraction bit of the smallest numbers is `2 ^ leastExponent`. -/
def leastExponent : Int := -1074

/-- The bits of positive infinity; every finite magnitude has smaller bits. -/
def infiniteBits : Nat := 0x7FF0000000000000

def signBit : Nat := 0x8000000000000000

def magnitudeBits (x : Double) : Nat := x.bits.toNat % signBit

def isNegative (x : Double) : Bool := signBit ≤ x.bits.toNat

def isFinite (x : Double) : Bool := x.magnitudeBits < infiniteBits

def isNaN (x : Double) : Bool := infiniteBits < x.magnitudeBits

def ofMagnitudeBits (negative : Bool) (magnitude : Nat) : Double :=
  ⟨UInt64.ofNat (if negative then signBit + magnitude else magnitude)⟩

def infinity (negative : Bool) : Double := ofMagnitudeBits negative infiniteBits

def notANumber : Double := ofMagnitudeBits false 0x7FF8000000000000

structure Scaled where
  significand : Nat
  exponent : Int

def scaled (x : Double) : Scaled :=
  let field := x.magnitudeBits / Nat.pow 2 52
  let fraction := x.magnitudeBits % Nat.pow 2 52
  if field = 0 then ⟨fraction, leastExponent⟩
  else ⟨Nat.pow 2 52 + fraction, leastExponent + (field - 1 : Nat)⟩

def roundHalfEven (numerator denominator : Nat) : Nat :=
  let quotient := numerator / denominator
  let twice := 2 * (numerator % denominator)
  if twice < denominator then quotient
  else if denominator < twice then quotient + 1
  else quotient + quotient % 2

/-- The bits of the magnitude nearest to a quotient, an exact half going to the even neighbour.
The significand of a number with exponent `e` has 53 bits unless `e` is the least exponent, and
adding it to the shifted exponent carries by itself when rounding reaches 54 bits. Quotients of at
least half a step above the greatest finite number give infinity. -/
def nearestBits (numerator denominator : Nat) : Nat :=
  if numerator = 0 ∨ denominator = 0 then 0
  else
    let atExponent (e : Int) : Nat × Nat :=
      if 0 ≤ e then (numerator, denominator * Nat.pow 2 e.toNat)
      else (numerator * Nat.pow 2 (-e).toNat, denominator)
    let estimate := max leastExponent ((Nat.log2 numerator : Int) - Nat.log2 denominator - 53)
    let first := atExponent estimate
    let exponent := if first.1 / first.2 < Nat.pow 2 53 then estimate else estimate + 1
    let parts := atExponent exponent
    let steps := (exponent - leastExponent).toNat * Nat.pow 2 52
    min infiniteBits (steps + roundHalfEven parts.1 parts.2)

def decimalLength (n : Nat) : Nat :=
  if n = 0 then 0 else (Nat.toDigits 10 n).length

/-- The number nearest to `digits * 10 ^ exponent` in magnitude, with the given sign. Powers beyond
the range of all doubles are decided from the position of the leading digit alone. -/
def ofDecimal (negative : Bool) (digits : Nat) (exponent : Int) : Double :=
  let leading := exponent + decimalLength digits
  let magnitude :=
    if digits = 0 ∨ leading < -400 then 0
    else if 400 < leading then infiniteBits
    else if 0 ≤ exponent then nearestBits (digits * Nat.pow 10 exponent.toNat) 1
    else nearestBits digits (Nat.pow 10 (-exponent).toNat)
  ofMagnitudeBits negative magnitude

end Double

end Stencil.Number
