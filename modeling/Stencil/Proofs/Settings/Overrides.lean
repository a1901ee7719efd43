import Mathlib
import Stencil.Proofs.Settings.Nesting
import Stencil.Proofs.Text.Pair

/-!
# Variables that stand for keys

The variable for a key has two underscores for each dot, and the key in capitals. It is read from
the left, so an underscore in front of another one or of a dot is taken for the first half of a dot.
The keys without such underscores and without capitals are those that are read back.
-/

set_option autoImplicit false

namespace Stencil

namespace Text

/-! ## Letter case -/

private theorem toLower_eq_self_iff {character : Char} :
    character.toLower = character ↔ character.isUpper = false := by
  constructor
  · intro same
    rw [← same]
    exact Char.isUpper_toLower_eq_false character
  · intro small
    exact Char.toLower_eq_of_not_isUpper (by rw [small]; nofun)

private theorem map_toLower_eq_self_iff {text : List Char} :
    text.map Char.toLower = text ↔ ∀ character ∈ text, character.isUpper = false := by
  have letters := @List.map_eq_map_iff _ _ Char.toLower text id
  rw [List.map_id] at letters
  simp only [letters, id_eq, toLower_eq_self_iff]

private theorem toLower_eq_dot_iff {character : Char} :
    character.toLower = '.' ↔ character = '.' := by
  constructor
  · intro lowered
    by_cases capital : character.isUpper = true
    · have letter : character.toLower.isAlpha = true := by
        rw [Char.isAlpha_toLower_eq_isAlpha, Char.isAlpha, capital, Bool.true_or]
      rw [lowered] at letter
      cases letter
    · rw [← lowered, Char.toLower_eq_of_not_isUpper capital]
  · intro dot
    rw [dot]
    decide

end Text

namespace Settings

open Text

/-! ## Spelling a key -/

/-- A key with two underscores for each dot. -/
def spelled (key : String) : List Char := spellPair '_' '_' '.' key.toList

/-- The variable that stands for a key: the stem, an underscore and the key, spelled in capitals. -/
def variableFor (stem key : String) : String :=
  stem ++ "_" ++ String.ofList ((spelled key).map Char.toUpper)

/-- No underscore stands where it would be read as the first half of a dot. -/
structure Separated (text : List Char) : Prop where
  unpaired : ¬ ['_', '_'] <:+: text
  undotted : ¬ ['_', '.'] <:+: text

private theorem replacePair_spelled {key : String} (separated : Separated key.toList) :
    replacePair '_' '_' '.' (spelled key) = key.toList :=
  replacePair_spellPair separated.unpaired fun _ => separated.undotted

/-- What is read from a text without dots is separated: an underscore stays only in front of a
character that is neither an underscore nor the first of two. -/
private theorem separated_replacePair {text : List Char} (undotted : '.' ∉ text) :
    Separated (replacePair '_' '_' '.' text) := by
  refine ⟨pair_not_infix_replacePair (by decide) (by decide) text,
    not_infix_replacePair (by decide) ?_⟩
  intro right rest ends other head
  rw [head?_replacePair_cons other] at head
  apply undotted
  rw [← Option.some.inj head]
  exact ends.subset List.mem_cons_self

private theorem map_toLower_spelled (key : String) :
    ((spelled key).map Char.toUpper).map Char.toLower =
      spellPair '_' '_' '.' (key.toList.map Char.toLower) := by
  rw [spelled, spellPair, spellPair, List.map_map, List.map_flatMap, List.flatMap_map]
  refine List.flatMap_congr fun character _ => ?_
  simp only [toLower_eq_dot_iff]
  split
  case isTrue => rfl
  case isFalse =>
    simp only [List.map_cons, List.map_nil, Function.comp_apply, Char.toLower_toUpper_eq_toLower]

private theorem isUpper_of_mem_spellPair {text : List Char}
    (small : ∀ character ∈ text, character.isUpper = false) :
    ∀ character ∈ spellPair '_' '_' '.' text, character.isUpper = false := by
  intro character member
  obtain rfl | rfl | ⟨among, -⟩ := mem_spellPair member
  · rfl
  · rfl
  · exact small character among

/-! ## Keys that are read back -/

/-- Keys that can be read from the variable that stands for them. -/
structure Spellable (key : String) : Prop where
  named : key ≠ ""
  small : ∀ character ∈ key.toList, character.isUpper = false
  separated : Separated key.toList

/-- What is read from the variable that stands for a key. -/
def reread (key : String) : String :=
  String.ofList (replacePair '_' '_' '.' (spellPair '_' '_' '.' (key.toList.map Char.toLower)))

theorem reread_eq_self_iff {key : String} :
    reread key = key ↔
      (∀ character ∈ key.toList, character.isUpper = false) ∧ Separated key.toList := by
  rw [reread, ← String.toList_inj, String.toList_ofList]
  constructor
  · intro same
    rw [← same]
    constructor
    · have lowered : ∀ character ∈ key.toList.map Char.toLower, character.isUpper = false := by
        intro character member
        obtain ⟨letter, -, rfl⟩ := List.mem_map.mp member
        exact Char.isUpper_toLower_eq_false letter
      intro character member
      cases mem_replacePair member with
      | inl inside => exact isUpper_of_mem_spellPair lowered character inside
      | inr dot => rw [dot]; rfl
    · exact separated_replacePair (replacement_not_mem_spellPair (by decide) (by decide) _)
  · intro spellable
    obtain ⟨small, separated⟩ := spellable
    rw [map_toLower_eq_self_iff.mpr small]
    exact replacePair_spelled separated

theorem Spellable.reread_eq {key : String} (spellable : Spellable key) : reread key = key :=
  reread_eq_self_iff.mpr ⟨spellable.small, spellable.separated⟩

theorem Spellable.variableFor_injective {stem left right : String} (spellableLeft : Spellable left)
    (spellableRight : Spellable right) (same : variableFor stem left = variableFor stem right) :
    left = right := by
  have texts := String.ofList_injective (String.append_right_inj _ |>.mp same)
  have letters := congrArg (List.map Char.toLower) texts
  rw [map_toLower_spelled, map_toLower_spelled] at letters
  rw [← spellableLeft.reread_eq, ← spellableRight.reread_eq, reread, letters, reread]

/-! ## Reading variables -/

theorem overriddenKey?_of_split {stem name : String} {rest : List Char} (named : rest ≠ [])
    (split : name.toList = stem.toList ++ ['_'] ++ rest) (free : name ∉ reservedVariables) :
    overriddenKey? stem name =
      some (String.ofList (replacePair '_' '_' '.' (rest.map Char.toLower))) := by
  have follows : remainder? (stem.toList ++ ['_']) name.toList = some rest :=
    remainder?_eq_some_iff.mpr split
  obtain ⟨head, tail, rfl⟩ := List.exists_cons_of_ne_nil named
  have unreserved : reservedVariables.contains name = false := by
    rw [← Bool.not_eq_true, List.contains_iff_mem]
    exact free
  rw [overriddenKey?, follows]
  simp only [unreserved, Bool.false_eq_true, if_false]

private theorem toList_variable (stem : String) (text : List Char) :
    (stem ++ "_" ++ String.ofList text).toList = stem.toList ++ ['_'] ++ text := by
  rw [String.toList_append, String.toList_append, String.toList_ofList, String.toList_ofList]

private theorem spelled_ne_nil {key : String} (named : key ≠ "") : spelled key ≠ [] :=
  spellPair_ne_nil fun empty => named (String.toList_eq_nil_iff.mp empty)

theorem overriddenKey?_variableFor {stem key : String} (named : key ≠ "")
    (free : variableFor stem key ∉ reservedVariables) :
    overriddenKey? stem (variableFor stem key) = some (reread key) := by
  have some : (spelled key).map Char.toUpper ≠ [] := by
    rw [ne_eq, List.map_eq_nil_iff]
    exact spelled_ne_nil named
  have split : (variableFor stem key).toList = _ := toList_variable stem _
  rw [overriddenKey?_of_split some split free, map_toLower_spelled, reread]

theorem overriddenKey?_variableFor_empty (stem : String) :
    overriddenKey? stem (variableFor stem "") = none := by
  have follows : remainder? (stem.toList ++ ['_']) (variableFor stem "").toList = some [] :=
    remainder?_eq_some_iff.mpr (toList_variable stem [])
  rw [overriddenKey?, follows]

/-! ## Setting keys -/

theorem withOverrides_single (settings : Settings) (stem name value : String) :
    settings.withOverrides stem [(name, value)] =
      match overriddenKey? stem name with
      | some key => settings.set key value
      | none => settings := rfl

/-- A variable sets a key to its value and changes no other key. -/
def Sets (stem name key value : String) : Prop :=
  ∀ (settings : Settings) (other : String),
    (settings.withOverrides stem [(name, value)]).get? other =
      if other = key then some value else settings.get? other

private theorem sets_of_overriddenKey? {stem name key : String}
    (overridden : overriddenKey? stem name = some key) (value : String) :
    Sets stem name key value := by
  intro settings other
  rw [withOverrides_single, overridden]
  exact Dictionary.get?_insert settings.values key other value

theorem Spellable.sets {stem key : String} (spellable : Spellable key)
    (free : variableFor stem key ∉ reservedVariables) (value : String) :
    Sets stem (variableFor stem key) key value := by
  have overridden := overriddenKey?_variableFor spellable.named free
  rw [spellable.reread_eq] at overridden
  exact sets_of_overriddenKey? overridden value

/-- A key that cannot be spelled is not what its variable sets. -/
theorem get?_withOverrides_of_not_spellable {stem key : String} (unspellable : ¬ Spellable key)
    (free : variableFor stem key ∉ reservedVariables) (settings : Settings) (value : String) :
    (settings.withOverrides stem [(variableFor stem key, value)]).get? key =
      settings.get? key := by
  rw [withOverrides_single]
  by_cases empty : key = ""
  · subst empty
    rw [overriddenKey?_variableFor_empty]
  · have other : key ≠ reread key := by
      intro same
      obtain ⟨small, separated⟩ := reread_eq_self_iff.mp same.symm
      exact unspellable ⟨empty, small, separated⟩
    rw [overriddenKey?_variableFor empty free]
    have kept := Dictionary.get?_insert settings.values (reread key) key value
    rw [if_neg other] at kept
    exact kept

private theorem getLast?_of_mem_reserved {name : String} (reserved : name ∈ reservedVariables) :
    name.toList.getLast? = some 'S' := by
  simp only [reservedVariables, List.mem_cons, List.not_mem_nil, or_false] at reserved
  obtain rfl | rfl := reserved <;> decide

/-- A key that can be spelled is set by its variable in small letters, which is never reserved. -/
theorem Spellable.exists_sets {key : String} (spellable : Spellable key) (stem : String) :
    ∃ name, ∀ value, Sets stem name key value := by
  have split := toList_variable stem (spelled key)
  have some : spelled key ≠ [] := spelled_ne_nil spellable.named
  have small : ∀ character ∈ spelled key, character.isUpper = false :=
    isUpper_of_mem_spellPair spellable.small
  have free : stem ++ "_" ++ String.ofList (spelled key) ∉ reservedVariables := by
    intro reserved
    have last := getLast?_of_mem_reserved reserved
    rw [split, List.getLast?_append_of_ne_nil _ some] at last
    cases small 'S' (List.mem_of_getLast? last)
  have overridden := overriddenKey?_of_split some split free
  rw [map_toLower_eq_self_iff.mpr small, replacePair_spelled spellable.separated,
    String.ofList_toList] at overridden
  exact ⟨_, sets_of_overriddenKey? overridden⟩

/-! ## Keys of words -/

/-- A small ASCII letter or a digit. -/
def IsWordCharacter (character : Char) : Prop :=
  character.isLower = true ∨ character.isDigit = true

/-- Keys whose segments are made of one or more small ASCII letters and digits. -/
def IsWordKey (key : String) : Prop :=
  ∀ segment ∈ segments key,
    segment ≠ "" ∧ ∀ character ∈ segment.toList, IsWordCharacter character

private theorem IsWordCharacter.small {character : Char} (word : IsWordCharacter character) :
    character.isUpper = false := by
  cases word with
  | inl letter => exact Bool.eq_false_iff.mpr (Char.not_isUpper_of_isLower letter)
  | inr digit =>
    simp only [Char.isDigit, Bool.and_eq_true, decide_eq_true_eq] at digit
    have under : character.toNat ≤ 57 := digit.2
    refine Bool.eq_false_iff.mpr fun capital => ?_
    simp only [Char.isUpper, decide_eq_true_eq] at capital
    have least : 65 ≤ character.toNat := capital.1
    omega

private theorem IsWordKey.dot_or_word {key : String} (words : IsWordKey key) {character : Char}
    (member : character ∈ key.toList) : character = '.' ∨ IsWordCharacter character := by
  cases eq_or_mem_splitAt_of_mem '.' member with
  | inl dot => exact .inl dot
  | inr inside =>
    obtain ⟨stretch, among, inside⟩ := inside
    refine .inr ((words (String.ofList stretch) (List.mem_map_of_mem among)).2 character ?_)
    rw [String.toList_ofList]
    exact inside

theorem IsWordKey.spellable {key : String} (words : IsWordKey key) : Spellable key := by
  have quiet : '_' ∉ key.toList := by
    intro member
    obtain dot | letter | digit := words.dot_or_word member
    · cases dot
    · cases letter
    · cases digit
  have outside : ∀ next, ¬ ['_', next] <:+: key.toList := by
    intro next inside
    exact quiet (inside.subset List.mem_cons_self)
  refine ⟨?_, ?_, outside '_', outside '.'⟩
  · intro empty
    subst empty
    exact (words "" List.mem_cons_self).1 rfl
  · intro character member
    cases words.dot_or_word member with
    | inl dot => rw [dot]; rfl
    | inr word => exact word.small

/-- Unless it is reserved, the variable that stands for a key sets this key and no other one exactly
when the key can be spelled, and otherwise leaves the key alone. Keys of words can all be spelled,
so each of them is reached by some variable, and different ones have different variables. -/
theorem sets_variableFor (stem : String) :
    (∀ key value, variableFor stem key ∉ reservedVariables →
      (Sets stem (variableFor stem key) key value ↔ Spellable key) ∧
      (¬ Spellable key → ∀ settings : Settings,
        (settings.withOverrides stem [(variableFor stem key, value)]).get? key =
          settings.get? key)) ∧
    (∀ key, IsWordKey key → Spellable key ∧ ∃ name, ∀ value, Sets stem name key value) ∧
    ∀ left right, IsWordKey left → IsWordKey right →
      variableFor stem left = variableFor stem right → left = right := by
  refine ⟨fun key value free => ⟨⟨?_, ?_⟩, ?_⟩, ?_, ?_⟩
  · intro sets
    refine Classical.byContradiction fun unspellable => ?_
    have kept := get?_withOverrides_of_not_spellable unspellable free empty value
    rw [sets empty key, if_pos rfl] at kept
    cases kept
  · intro spellable
    exact spellable.sets free value
  · intro unspellable settings
    exact get?_withOverrides_of_not_spellable unspellable free settings value
  · intro key words
    exact ⟨words.spellable, words.spellable.exists_sets stem⟩
  · intro left right wordsLeft wordsRight same
    exact wordsLeft.spellable.variableFor_injective wordsRight.spellable same

/-- Of two keys with one variable the one with the underscore behind the dot is set. A key whose
variable is reserved is reached by another one. -/
theorem sets_variableFor_underscores :
    (∀ value, Sets "SOLDER" "SOLDER_POOL___MAX" "pool._max" value) ∧
    (∀ settings : Settings,
      (settings.withOverrides "SOLDER" [("SOLDER_POOL___MAX", "1")]).get? "pool_.max" =
        settings.get? "pool_.max") ∧
    ∃ name, ∀ value, Sets "SOLDER" name "settings" value := by
  have free : "SOLDER_POOL___MAX" ∉ reservedVariables := by decide
  have behind : variableFor "SOLDER" "pool._max" = "SOLDER_POOL___MAX" := by decide
  have before : variableFor "SOLDER" "pool_.max" = "SOLDER_POOL___MAX" := by decide
  refine ⟨?_, ?_, ?_⟩
  · intro value
    have spellable : Spellable "pool._max" :=
      ⟨by decide, map_toLower_eq_self_iff.mp (by decide), ⟨by decide, by decide⟩⟩
    have outcome := (sets_variableFor "SOLDER").1 "pool._max" value
    rw [behind] at outcome
    exact (outcome free).1.mpr spellable
  · have unspellable : ¬ Spellable "pool_.max" := fun wrong =>
      wrong.separated.undotted ⟨"pool".toList, "max".toList, by decide⟩
    have outcome := (sets_variableFor "SOLDER").1 "pool_.max" "1"
    rw [before] at outcome
    exact (outcome free).2 unspellable
  · have words : IsWordKey "settings" := by
      intro segment member
      obtain rfl := List.mem_singleton.mp member
      have letters : "settings".toList.all Char.isLower = true := by decide
      exact ⟨by decide, fun character inside =>
        .inl (List.all_eq_true.mp letters character inside)⟩
    exact ((sets_variableFor "SOLDER").2.1 "settings" words).2

end Settings

end Stencil
