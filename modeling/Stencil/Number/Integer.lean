/-!
# Integers in a range

Reading an integer that must lie in a given range. The text is an optional sign and one or more
ASCII digits; a minus sign is only a sign when the range goes below zero. Of several faults the
leftmost in the text is reported.
-/

set_option autoImplicit false

namespace Stencil.Number

structure IntegerRange where
  least : Int
  greatest : Int

namespace IntegerRange

def unsigned (bits : Nat) : IntegerRange := ⟨0, (Nat.pow 2 bits : Nat) - 1⟩

def signed (bits : Nat) : IntegerRange :=
  ⟨-(Nat.pow 2 (bits - 1) : Nat), (Nat.pow 2 (bits - 1) : Nat) - 1⟩

def holds (range : IntegerRange) (value : Int) : Bool :=
  range.least ≤ value && value ≤ range.greatest

/-- Array positions are the unsigned integers of 64 bits. -/
def position : IntegerRange := unsigned 64

end IntegerRange

inductive IntegerFault where
  | empty
  | invalidDigit
  | tooLarge
  | tooSmall
deriving DecidableEq, Repr

def IntegerFault.message : IntegerFault → String
  | empty => "cannot parse integer from empty string"
  | invalidDigit => "invalid digit found in string"
  | tooLarge => "number too large to fit in target type"
  | tooSmall => "number too small to fit in target type"

def digit? (base : Nat) (character : Char) : Option Nat :=
  let value? :=
    if '0' ≤ character ∧ character ≤ '9' then some (character.toNat - '0'.toNat)
    else if 'a' ≤ character ∧ character ≤ 'z' then some (character.toNat - 'a'.toNat + 10)
    else if 'A' ≤ character ∧ character ≤ 'Z' then some (character.toNat - 'A'.toNat + 10)
    else none
  value?.filter (· < base)

/-- Reads digits from the left onto a total that may not pass `limit`. A character that is no
digit is reported before the total of that position is considered. -/
def readDigits (base limit : Nat) (beyond : IntegerFault) (total : Nat) :
    List Char → Except IntegerFault Nat
  | [] => .ok total
  | character :: rest =>
    match digit? base character with
    | none => .error .invalidDigit
    | some value =>
      if total * base + value ≤ limit then
        readDigits base limit beyond (total * base + value) rest
      else
        .error beyond

def readMagnitude (base limit : Nat) (beyond : IntegerFault) (digits : List Char) :
    Except IntegerFault Nat :=
  if digits.isEmpty then .error .invalidDigit else readDigits base limit beyond 0 digits

/-- Reads a signed integer in a base. A minus sign is a digit like any other, hence a fault, when
the range holds no negative number. -/
def readIntegerIn (base : Nat) (range : IntegerRange) (text : List Char) :
    Except IntegerFault Int :=
  match text with
  | [] => .error .empty
  | '+' :: digits => do
    let magnitude ← readMagnitude base range.greatest.toNat .tooLarge digits
    pure (magnitude : Int)
  | '-' :: digits =>
    if range.least < 0 then do
      let magnitude ← readMagnitude base (-range.least).toNat .tooSmall digits
      pure (-(magnitude : Int))
    else
      .error .invalidDigit
  | digits => do
    let magnitude ← readMagnitude base range.greatest.toNat .tooLarge digits
    pure (magnitude : Int)

def readInteger (range : IntegerRange) (text : String) : Except IntegerFault Int :=
  readIntegerIn 10 range text.toList

/-- Only natural numbers lie in an unsigned range. -/
theorem exists_natural_of_readInteger {bits : Nat} {text : String} {value : Int}
    (reads : readInteger (.unsigned bits) text = .ok value) : ∃ natural : Nat, value = natural := by
  have natural : ∀ {magnitude? : Except IntegerFault Nat},
      (do let magnitude ← magnitude?; pure (magnitude : Int)) = Except.ok value →
        ∃ natural : Nat, value = natural := by
    intro magnitude? reads
    cases magnitude? with
    | error => cases reads
    | ok magnitude =>
      cases reads
      exact ⟨magnitude, rfl⟩
  unfold readInteger readIntegerIn at reads
  split at reads
  case h_1 => cases reads
  case h_2 => exact natural reads
  case h_3 =>
    have signless : ¬ (IntegerRange.unsigned bits).least < 0 := Int.lt_irrefl 0
    rw [if_neg signless] at reads
    cases reads
  case h_4 => exact natural reads

end Stencil.Number
