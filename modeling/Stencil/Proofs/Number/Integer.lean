import Stencil.Number.Integer

/-!
# Reading integers exactly

A text is read as an integer exactly when it is an optional sign and decimal digits, one at least,
that denote a number in the range. Leading zeros are digits like any other. Reading stops where a
total passes the limit; nothing is lost by that, since further digits never make a total smaller.
-/

set_option autoImplicit false

namespace Stencil.Number

/-- Digits, one at least, and the number that they denote. -/
structure IsDecimal (digits : List Char) (value : Nat) : Prop where
  nonempty : digits ≠ []
  decimal : ∀ character ∈ digits, character.isDigit = true
  denotes : Nat.ofDigitChars 10 digits 0 = value

/-- What a text without blanks says as an integer. -/
inductive SpellsInteger : List Char → Int → Prop where
  | unsigned {digits : List Char} {value : Nat} (decimal : IsDecimal digits value) :
      SpellsInteger digits value
  | plus {digits : List Char} {value : Nat} (decimal : IsDecimal digits value) :
      SpellsInteger ('+' :: digits) value
  | minus {digits : List Char} {value : Nat} (decimal : IsDecimal digits value) :
      SpellsInteger ('-' :: digits) (-value)

/-- What a text says as a natural number. A sign can only be a plus. -/
inductive SpellsNatural : List Char → Nat → Prop where
  | unsigned {digits : List Char} {value : Nat} (decimal : IsDecimal digits value) :
      SpellsNatural digits value
  | plus {digits : List Char} {value : Nat} (decimal : IsDecimal digits value) :
      SpellsNatural ('+' :: digits) value

/-! ## Digits -/

private theorem digit?_ten_of_isDigit {character : Char} (decimal : character.isDigit = true) :
    digit? 10 character = some (character.toNat - '0'.toNat) := by
  have range := Char.isDigit_iff_toNat.mp decimal
  have between : '0' ≤ character ∧ character ≤ '9' := range
  have value : character.toNat - '0'.toNat < 10 := by
    have zero : '0'.toNat = 48 := rfl
    have nine : '9'.toNat = 57 := rfl
    omega
  simp only [digit?, between, and_self, if_true, Option.filter_some, value, decide_true]

/-- Letters denote ten and more. -/
private theorem digit?_ten_eq_none {character : Char} (other : character.isDigit = false) :
    digit? 10 character = none := by
  have outside : ¬ ('0' ≤ character ∧ character ≤ '9') := by
    intro between
    rw [Char.isDigit_iff_toNat.mpr between] at other
    cases other
  have letter : ∀ offset, ¬ offset + 10 < 10 := by omega
  simp only [digit?, outside, if_false]
  split
  case isTrue => simp only [Option.filter_some, letter, decide_false, Bool.false_eq_true, if_false]
  case isFalse =>
    split
    case isTrue =>
      simp only [Option.filter_some, letter, decide_false, Bool.false_eq_true, if_false]
    case isFalse => rfl

private theorem le_ofDigitChars (digits : List Char) (total : Nat) :
    total ≤ Nat.ofDigitChars 10 digits total := by
  rw [Nat.ofDigitChars_eq_ofDigitChars_zero]
  exact Nat.le_add_right_of_le (Nat.le_mul_of_pos_left total (Nat.pow_pos (by decide)))

theorem readDigits_eq_ok_iff {limit total value : Nat} {beyond : IntegerFault} {digits : List Char}
    (bound : total ≤ limit) :
    readDigits 10 limit beyond total digits = .ok value ↔
      (∀ character ∈ digits, character.isDigit = true) ∧
        Nat.ofDigitChars 10 digits total = value ∧ value ≤ limit := by
  induction digits generalizing total with
  | nil =>
    rw [readDigits, Nat.ofDigitChars_nil, Except.ok.injEq]
    constructor
    · intro same
      exact ⟨nofun, same, same ▸ bound⟩
    · intro read
      exact read.2.1
  | cons character rest ih =>
    rw [readDigits, List.forall_mem_cons, Nat.ofDigitChars_cons]
    cases decimal : character.isDigit with
    | false =>
      rw [digit?_ten_eq_none decimal]
      exact ⟨nofun, fun read => nomatch read.1.1⟩
    | true =>
      rw [digit?_ten_of_isDigit decimal]
      simp only [true_and]
      rw [Nat.mul_comm total 10]
      split
      case isTrue fits => exact ih fits
      case isFalse passes =>
        have grows := le_ofDigitChars rest (10 * total + (character.toNat - '0'.toNat))
        constructor
        · nofun
        · intro read
          obtain ⟨-, rfl, small⟩ := read
          exact absurd (Nat.le_trans grows small) passes

private theorem readMagnitude_eq_ok_iff {limit value : Nat} {beyond : IntegerFault}
    {digits : List Char} :
    readMagnitude 10 limit beyond digits = .ok value ↔ IsDecimal digits value ∧ value ≤ limit := by
  rw [readMagnitude]
  split
  case isTrue none =>
    have empty := List.isEmpty_iff.mp none
    exact ⟨nofun, fun read => absurd empty read.1.nonempty⟩
  case isFalse some =>
    have nonempty : digits ≠ [] := fun empty => some (List.isEmpty_iff.mpr empty)
    rw [readDigits_eq_ok_iff (Nat.zero_le limit)]
    constructor
    · intro read
      exact ⟨⟨nonempty, read.1, read.2.1⟩, read.2.2⟩
    · intro read
      exact ⟨read.1.decimal, read.1.denotes, read.2⟩

/-! ## Signs -/

private theorem IsDecimal.head_isDigit {character : Char} {rest : List Char} {value : Nat}
    (decimal : IsDecimal (character :: rest) value) : character.isDigit = true :=
  decimal.decimal character List.mem_cons_self

private theorem signed_eq_ok_iff {magnitude? : Except IntegerFault Nat} {signed : Nat → Int}
    {value : Int} :
    (do let magnitude ← magnitude?; pure (signed magnitude)) = Except.ok value ↔
      ∃ magnitude, magnitude? = .ok magnitude ∧ signed magnitude = value := by
  cases magnitude? with
  | error fault => exact ⟨nofun, fun read => nomatch read⟩
  | ok magnitude =>
    constructor
    · intro read
      exact ⟨magnitude, rfl, Except.ok.inj read⟩
    · intro read
      obtain ⟨read, same, value⟩ := read
      cases same
      exact congrArg Except.ok value

/-- In a range on both sides of zero the integers that are read are those that the text spells. -/
theorem readIntegerIn_eq_ok_iff {range : IntegerRange} {text : List Char} {value : Int}
    (negative : range.least < 0) (natural : 0 ≤ range.greatest) :
    readIntegerIn 10 range text = .ok value ↔
      SpellsInteger text value ∧ range.least ≤ value ∧ value ≤ range.greatest := by
  constructor
  · intro read
    unfold readIntegerIn at read
    split at read
    case h_1 => cases read
    case h_2 digits =>
      obtain ⟨magnitude, reads, rfl⟩ := signed_eq_ok_iff.mp read
      obtain ⟨decimal, bound⟩ := readMagnitude_eq_ok_iff.mp reads
      exact ⟨.plus decimal, by omega, by omega⟩
    case h_3 digits =>
      rw [if_pos negative] at read
      obtain ⟨magnitude, reads, rfl⟩ := signed_eq_ok_iff.mp read
      obtain ⟨decimal, bound⟩ := readMagnitude_eq_ok_iff.mp reads
      exact ⟨.minus decimal, by omega, by omega⟩
    case h_4 =>
      obtain ⟨magnitude, reads, rfl⟩ := signed_eq_ok_iff.mp read
      obtain ⟨decimal, bound⟩ := readMagnitude_eq_ok_iff.mp reads
      exact ⟨.unsigned decimal, by omega, by omega⟩
  · intro spelled
    obtain ⟨spells, least, greatest⟩ := spelled
    cases spells with
    | @unsigned digits magnitude decimal =>
      have reads : readMagnitude 10 range.greatest.toNat .tooLarge text = .ok magnitude :=
        readMagnitude_eq_ok_iff.mpr ⟨decimal, by omega⟩
      unfold readIntegerIn
      split
      case h_1 => exact absurd rfl decimal.nonempty
      case h_2 => cases decimal.head_isDigit
      case h_3 => cases decimal.head_isDigit
      case h_4 => exact signed_eq_ok_iff.mpr ⟨magnitude, reads, rfl⟩
    | @plus digits magnitude decimal =>
      have reads : readMagnitude 10 range.greatest.toNat .tooLarge digits = .ok magnitude :=
        readMagnitude_eq_ok_iff.mpr ⟨decimal, by omega⟩
      exact signed_eq_ok_iff.mpr ⟨magnitude, reads, rfl⟩
    | @minus digits magnitude decimal =>
      have reads : readMagnitude 10 (-range.least).toNat .tooSmall digits = .ok magnitude :=
        readMagnitude_eq_ok_iff.mpr ⟨decimal, by omega⟩
      rw [readIntegerIn, if_pos negative]
      exact signed_eq_ok_iff.mpr ⟨magnitude, reads, rfl⟩

/-- In a range of natural numbers a minus sign is no sign. -/
theorem readIntegerIn_eq_ok_natural_iff {range : IntegerRange} {text : List Char} {value : Nat}
    (least : range.least = 0) :
    readIntegerIn 10 range text = .ok (value : Int) ↔
      SpellsNatural text value ∧ value ≤ range.greatest.toNat := by
  have natural {digits : List Char} :
      (do let magnitude ← readMagnitude 10 range.greatest.toNat .tooLarge digits
          pure (magnitude : Int)) = Except.ok (value : Int) ↔
        IsDecimal digits value ∧ value ≤ range.greatest.toNat := by
    constructor
    · intro read
      obtain ⟨magnitude, reads, same⟩ := signed_eq_ok_iff.mp read
      obtain rfl := Int.ofNat.inj same
      exact readMagnitude_eq_ok_iff.mp reads
    · intro spelled
      exact signed_eq_ok_iff.mpr ⟨value, readMagnitude_eq_ok_iff.mpr spelled, rfl⟩
  constructor
  · intro read
    unfold readIntegerIn at read
    split at read
    case h_1 => cases read
    case h_2 => exact (natural.mp read).imp_left .plus
    case h_3 =>
      rw [if_neg (by omega)] at read
      cases read
    case h_4 => exact (natural.mp read).imp_left .unsigned
  · intro spelled
    obtain ⟨spells, bound⟩ := spelled
    cases spells with
    | unsigned decimal =>
      unfold readIntegerIn
      split
      case h_1 => exact absurd rfl decimal.nonempty
      case h_2 => cases decimal.head_isDigit
      case h_3 => cases decimal.head_isDigit
      case h_4 => exact natural.mpr ⟨decimal, bound⟩
    | plus decimal => exact natural.mpr ⟨decimal, bound⟩

/-! ## Writing -/

theorem isDecimal_toDigits (value : Nat) : IsDecimal (Nat.toDigits 10 value) value :=
  ⟨Nat.toDigits_ne_nil, fun _ => Nat.isDigit_of_mem_toDigits (by decide) (by decide),
    Nat.ofDigitChars_toDigits (by decide) (by decide)⟩

/-- An integer is spelled by its own decimal text. -/
theorem spellsInteger_toString (value : Int) : SpellsInteger (toString value).toList value := by
  rw [Int.toString_eq_repr, Int.repr_eq_if]
  split
  case isTrue natural =>
    have spelled := SpellsInteger.unsigned (isDecimal_toDigits value.toNat)
    rwa [← Nat.toList_repr, Int.toNat_of_nonneg natural] at spelled
  case isFalse negative =>
    have spelled := SpellsInteger.minus (isDecimal_toDigits (-value).toNat)
    have opposite : 0 ≤ -value := by omega
    rw [← Nat.toList_repr, Int.toNat_of_nonneg opposite, Int.neg_neg] at spelled
    rw [String.toList_append]
    exact spelled

end Stencil.Number
