import Stencil.Proofs.Member.Conversion
import Stencil.Proofs.Text.Blank
import Stencil.Value.Text

/-!
# Which texts convert

An argument converts to an integer when what trimming leaves of it spells an integer of 64 bits, and
to a truth value when it is the word for one. So the text of a value converts back to that value,
whatever blanks are put around it; a text is kept with its blanks.
-/

set_option autoImplicit false

namespace Stencil

open Text (Padded Trimmed)

private theorem Text.isBlank_of_isDigit {character : Char} (decimal : character.isDigit = true) :
    isBlank character = false := by
  have range := Char.isDigit_iff_toNat.mp decimal
  have zero : '0'.toNat = 48 := rfl
  have nine : '9'.toNat = 57 := rfl
  simp only [isBlank, blankRanges, List.any_cons, List.any_nil, Bool.or_eq_false_iff,
    Bool.and_eq_false_iff, decide_eq_false_iff_not, and_true]
  omega

private theorem Number.SpellsInteger.solid {text : List Char} {value : Int}
    (spells : Number.SpellsInteger text value) :
    ∀ character ∈ text, Text.isBlank character = false := by
  have digits : ∀ {stretch magnitude}, Number.IsDecimal stretch magnitude →
      ∀ character ∈ stretch, Text.isBlank character = false :=
    fun decimal character member => Text.isBlank_of_isDigit (decimal.decimal character member)
  cases spells with
  | unsigned decimal => exact digits decimal
  | plus decimal => exact List.forall_mem_cons.mpr ⟨by decide, digits decimal⟩
  | minus decimal => exact List.forall_mem_cons.mpr ⟨by decide, digits decimal⟩

namespace ParameterKind

theorem convert_integer_eq_ok_iff {argument : String} {value : Value} :
    integer.convert argument = .ok value ↔
      ∃ number core, Trimmed argument.toList core ∧ Number.SpellsInteger core number ∧
        -9223372036854775808 ≤ number ∧ number ≤ 9223372036854775807 ∧
        value = .integer number := by
  have read : ∀ number, Number.readInteger (.signed 64) (Text.trim argument) = .ok number ↔
      Number.SpellsInteger (Text.trimChars argument.toList) number ∧
        -9223372036854775808 ≤ number ∧ number ≤ 9223372036854775807 := by
    intro number
    rw [Number.readInteger, Text.trim, String.toList_ofList]
    exact Number.readIntegerIn_eq_ok_iff (by decide) (by decide)
  constructor
  · intro converts
    rw [convert] at converts
    split at converts
    case h_1 number reads =>
      obtain ⟨spells, least, greatest⟩ := (read number).mp reads
      exact ⟨number, _, Text.trimmed_trimChars _, spells, least, greatest,
        (Except.ok.inj converts).symm⟩
    case h_2 => cases converts
  · intro spelled
    obtain ⟨number, core, trimmed, spells, least, greatest, rfl⟩ := spelled
    rw [← trimmed.trimChars_eq] at spells
    rw [convert, (read number).mpr ⟨spells, least, greatest⟩]

theorem readBool?_eq_some_iff {text : String} {truth : Bool} :
    readBool? text = some truth ↔
      text = "true" ∧ truth = true ∨ text = "false" ∧ truth = false := by
  constructor
  · intro reads
    rw [readBool?] at reads
    split at reads
    case isTrue yes => exact .inl ⟨yes, (Option.some.inj reads).symm⟩
    case isFalse =>
      split at reads
      case isTrue no => exact .inr ⟨no, (Option.some.inj reads).symm⟩
      case isFalse => cases reads
  · intro word
    obtain ⟨rfl, rfl⟩ | ⟨rfl, rfl⟩ := word
    · rfl
    · rfl

theorem convert_bool_eq_ok_iff {argument : String} {value : Value} :
    bool.convert argument = .ok value ↔
      Trimmed argument.toList "true".toList ∧ value = .bool true ∨
        Trimmed argument.toList "false".toList ∧ value = .bool false := by
  have word : ∀ text : String, Text.trim argument = text ↔ Trimmed argument.toList text.toList := by
    intro text
    rw [← Text.trimChars_eq_iff, Text.trim, ← String.toList_inj, String.toList_ofList]
  rw [← word, ← word]
  constructor
  · intro converts
    rw [convert] at converts
    split at converts
    case h_1 truth reads =>
      obtain rfl := Except.ok.inj converts
      obtain ⟨yes, rfl⟩ | ⟨no, rfl⟩ := readBool?_eq_some_iff.mp reads
      · exact .inl ⟨yes, rfl⟩
      · exact .inr ⟨no, rfl⟩
    case h_2 => cases converts
  · intro spelled
    obtain ⟨yes, rfl⟩ | ⟨no, rfl⟩ := spelled
    · rw [convert, readBool?_eq_some_iff.mpr (.inl ⟨yes, rfl⟩)]
    · rw [convert, readBool?_eq_some_iff.mpr (.inr ⟨no, rfl⟩)]

/-- The text of a value converts to the value again: a text exactly as it is, blanks included, an
integer of 64 bits and a truth value with any blanks around them. An argument converts to an integer
or to a truth value only when it is one of these, or an integer spelled with a plus sign or with
leading zeros. -/
theorem convert_text :
    (∀ text, string.convert (Value.string text).text = .ok (.string text)) ∧
    (∀ before text after, string.convert (before ++ (Value.string text).text ++ after) =
      .ok (.string (before ++ text ++ after))) ∧
    (∀ (number : Int) (argument : String),
      -9223372036854775808 ≤ number → number ≤ 9223372036854775807 →
      Padded argument.toList (Value.integer number).text.toList →
        integer.convert argument = .ok (.integer number)) ∧
    (∀ (truth : Bool) (argument : String),
      Padded argument.toList (Value.bool truth).text.toList →
        bool.convert argument = .ok (.bool truth)) ∧
    (∀ (argument : String) (value : Value), integer.convert argument = .ok value ↔
      ∃ number core, Trimmed argument.toList core ∧ Number.SpellsInteger core number ∧
        -9223372036854775808 ≤ number ∧ number ≤ 9223372036854775807 ∧
        value = .integer number) ∧
    ∀ (argument : String) (value : Value), bool.convert argument = .ok value ↔
      Trimmed argument.toList "true".toList ∧ value = .bool true ∨
        Trimmed argument.toList "false".toList ∧ value = .bool false := by
  refine ⟨fun text => rfl, fun before text after => rfl, ?_, ?_,
    fun argument value => convert_integer_eq_ok_iff, fun argument value => convert_bool_eq_ok_iff⟩
  · intro number argument least greatest padded
    have spells : Number.SpellsInteger (Value.integer number).text.toList number :=
      Number.spellsInteger_toString number
    exact convert_integer_eq_ok_iff.mpr
      ⟨number, _, padded.trimmed spells.solid, spells, least, greatest, rfl⟩
  · intro truth argument padded
    cases truth with
    | true => exact convert_bool_eq_ok_iff.mpr (.inl ⟨padded.trimmed (Text.solid_of_any rfl), rfl⟩)
    | false => exact convert_bool_eq_ok_iff.mpr (.inr ⟨padded.trimmed (Text.solid_of_any rfl), rfl⟩)

/-- The least integer of 64 bits, whose magnitude is no such integer, between two blanks that are
not ASCII. -/
theorem convert_text_least :
    Padded "\u00a0-9223372036854775808\u3000".toList
        (Value.integer (-9223372036854775808)).text.toList ∧
      integer.convert "\u00a0-9223372036854775808\u3000" =
        .ok (.integer (-9223372036854775808)) := by
  have padded : Padded "\u00a0-9223372036854775808\u3000".toList
      (Value.integer (-9223372036854775808)).text.toList :=
    ⟨['\u00a0'], ['\u3000'], List.forall_mem_singleton.mpr rfl, List.forall_mem_singleton.mpr rfl,
      by decide⟩
  exact ⟨padded, convert_text.2.2.1 (-9223372036854775808) _ (by decide) (by decide) padded⟩

end ParameterKind

end Stencil
