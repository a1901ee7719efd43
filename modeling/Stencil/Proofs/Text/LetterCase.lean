import Mathlib.Data.List.Forall2
import Stencil.Text.Case

/-!
# Texts that are equal up to case

Folding identifies two texts exactly when they have the same letters at the same places, an ASCII
capital and its small letter being the same. All other characters, accented letters among them, are
the same as themselves only.
-/

set_option autoImplicit false

namespace Stencil.Text

/-- The same letter, ASCII case aside: a capital stands 32 places before its small letter. -/
inductive SameLetter : Char → Char → Prop where
  | equal {letter : Char} : SameLetter letter letter
  | lowered {capital small : Char} (ascii : 'A' ≤ capital ∧ capital ≤ 'Z')
      (shifted : small.toNat = capital.toNat + 32) : SameLetter capital small
  | raised {small capital : Char} (ascii : 'A' ≤ capital ∧ capital ≤ 'Z')
      (shifted : small.toNat = capital.toNat + 32) : SameLetter small capital

def EqualUpToCase (left right : String) : Prop :=
  List.Forall₂ SameLetter left.toList right.toList

/-! ## Single characters -/

variable {left right : Char}

theorem toNat_toLower (character : Char) :
    character.toLower.toNat =
      if 'A' ≤ character ∧ character ≤ 'Z' then character.toNat + 32 else character.toNat := by
  unfold Char.toLower
  by_cases capital : 'A' ≤ character ∧ character ≤ 'Z'
  · have words : character.val ≥ 'A'.val ∧ character.val ≤ 'Z'.val := capital
    have bound : character.toNat ≤ 90 := capital.2
    rw [if_pos capital, dif_pos words]
    change (character.val + 32).toNat = character.toNat + 32
    rw [UInt32.toNat_add]
    change (character.toNat + 32) % 4294967296 = character.toNat + 32
    omega
  · have words : ¬ (character.val ≥ 'A'.val ∧ character.val ≤ 'Z'.val) := capital
    rw [if_neg capital, dif_neg words]

private theorem not_ascii_of_shifted {capital small : Char} (ascii : 'A' ≤ capital ∧ capital ≤ 'Z')
    (shifted : small.toNat = capital.toNat + 32) : ¬ ('A' ≤ small ∧ small ≤ 'Z') := by
  intro within
  have low : 65 ≤ capital.toNat := ascii.1
  have high : small.toNat ≤ 90 := within.2
  omega

theorem toLower_eq_iff : left.toLower = right.toLower ↔ SameLetter left right := by
  rw [← Char.toNat_inj, toNat_toLower, toNat_toLower]
  constructor
  · intro same
    split at same
    case isTrue ascii =>
      split at same
      case isTrue =>
        obtain rfl : left = right := Char.toNat_inj.mp (Nat.add_right_cancel same)
        exact .equal
      case isFalse => exact .lowered ascii same.symm
    case isFalse =>
      split at same
      case isTrue ascii => exact .raised ascii same
      case isFalse =>
        obtain rfl : left = right := Char.toNat_inj.mp same
        exact .equal
  · intro same
    cases same with
    | equal => rfl
    | lowered ascii shifted =>
      rw [if_pos ascii, if_neg (not_ascii_of_shifted ascii shifted), shifted]
    | raised ascii shifted =>
      rw [if_pos ascii, if_neg (not_ascii_of_shifted ascii shifted), shifted]

/-! ## Whole texts -/

theorem fold_eq_iff {left right : String} : fold left = fold right ↔ EqualUpToCase left right := by
  have letters : fold left = fold right ↔
      left.toList.map Char.toLower = right.toList.map Char.toLower := String.ofList_inj
  rw [letters, ← List.forall₂_eq_eq_eq, List.forall₂_map_left_iff, List.forall₂_map_right_iff]
  simp only [toLower_eq_iff]
  rfl

example : fold "Straße" = fold "sTRAße" ∧ fold "É" ≠ fold "é" := by decide

end Stencil.Text
