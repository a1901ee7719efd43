import Mathlib.Tactic.SplitIfs
import Stencil.Text.Dotted

/-!
# The order of texts is that of their bytes

Texts are compared by their characters. UTF-8 keeps that order: of two different characters, the
smaller one has the smaller byte where their bytes first differ, and they do differ before either of
them ends.
-/

set_option autoImplicit false

namespace Stencil.Text

def bytes (text : String) : List UInt8 :=
  text.toUTF8.data.toList

theorem bytes_eq_flatMap (text : String) :
    bytes text = text.toList.flatMap String.utf8EncodeChar := by
  rw [bytes, String.toUTF8_eq_toByteArray, ← String.utf8Encode_toList, List.utf8Encode]
  exact List.toList_data_toByteArray

private theorem toNat_val_lt (character : Char) : character.val.toNat < 0x110000 := by
  rcases character.valid with low | ⟨-, high⟩
  · exact Nat.lt_trans low (by decide)
  · exact high

/-- A number is made of the six bits in each byte after the first and what stands above them. -/
private theorem eq_digits (number : Nat) :
    number = number / 262144 * 262144 + number / 4096 % 64 * 4096 + number / 64 % 64 * 64 +
      number % 64 := by
  omega

/-- What is written with a smaller character first comes first. -/
private theorem encode_append_lt {left right : Char} (less : left < right)
    (rest other : List UInt8) :
    String.utf8EncodeChar left ++ rest < String.utf8EncodeChar right ++ other := by
  have values : left.val.toNat < right.val.toNat := less
  have bound := toNat_val_lt right
  have low := eq_digits left.val.toNat
  have high := eq_digits right.val.toNat
  simp only [String.utf8EncodeChar]
  generalize left.val.toNat = smaller at *
  generalize right.val.toNat = greater at *
  split_ifs <;>
    simp only [List.cons_append, List.nil_append, List.cons_lt_cons_iff, UInt8.lt_iff_toNat_lt,
      UInt8.toNat_ofNat', ← UInt8.toNat_inj] <;>
    simp (disch := omega) only [Nat.mod_eq_of_lt] <;>
    omega

private theorem flatMap_encode_lt {left right : List Char} (less : left < right) :
    left.flatMap String.utf8EncodeChar < right.flatMap String.utf8EncodeChar := by
  induction left generalizing right with
  | nil =>
    cases right with
    | nil => exact absurd less (List.lt_irrefl [])
    | cons character rest =>
      obtain ⟨first, others, encoded⟩ :=
        List.exists_cons_of_ne_nil (String.utf8EncodeChar_ne_nil (c := character))
      rw [List.flatMap_nil, List.flatMap_cons, encoded]
      exact List.nil_lt_cons first _
  | cons character rest ih =>
    cases right with
    | nil => exact absurd less (List.not_lt_nil _)
    | cons other others =>
      rw [List.flatMap_cons, List.flatMap_cons]
      rcases List.cons_lt_cons_iff.mp less with smaller | ⟨rfl, later⟩
      · exact encode_append_lt smaller _ _
      · exact List.append_left_lt (ih later)

theorem bytes_lt_of_lt {left right : String} (less : left < right) : bytes left < bytes right := by
  rw [bytes_eq_flatMap, bytes_eq_flatMap]
  exact flatMap_encode_lt less

theorem lt_iff_bytes_lt {left right : String} : left < right ↔ bytes left < bytes right := by
  refine ⟨bytes_lt_of_lt, fun less => Classical.byContradiction fun notLess => ?_⟩
  by_cases greater : right < left
  · exact List.lt_asymm less (bytes_lt_of_lt greater)
  · obtain rfl := String.le_antisymm (String.not_lt.mp greater) (String.not_lt.mp notLess)
    exact List.lt_irrefl _ less

theorem eq_of_not_bytes_lt {left right : String} (notLess : ¬ bytes left < bytes right)
    (notMore : ¬ bytes right < bytes left) : left = right := by
  rw [← lt_iff_bytes_lt] at notLess notMore
  exact String.le_antisymm (String.not_lt.mp notMore) (String.not_lt.mp notLess)

/-- In an ascending list, what stands before an item is what is smaller. -/
theorem mem_before_iff {α : Type} {key : α → String} {before after : List α} {item other : α}
    (ascending : (before ++ item :: after).Pairwise fun left right => key left < key right)
    (among : other ∈ before ++ item :: after) : other ∈ before ↔ key other < key item := by
  obtain ⟨-, later, across⟩ := List.pairwise_append.mp ascending
  constructor
  · intro member
    exact across other member item List.mem_cons_self
  · intro less
    rcases List.mem_append.mp among with member | member
    · exact member
    · rcases List.mem_cons.mp member with rfl | member
      · exact absurd less (String.lt_irrefl _)
      · have more : key item < key other := (List.pairwise_cons.mp later).1 other member
        exact absurd less (String.lt_asymm more)

end Stencil.Text
