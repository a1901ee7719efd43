import Stencil.Proofs.Settings.Overrides

/-!
# Overrides in order

Variables are applied in their order, each to the one key that it overrides if there is one. So a
key has the value of the last variable that overrides it, and nothing else of the list matters: not
how often the list is applied, not where it is cut, and not the order of variables that override
different keys.
-/

set_option autoImplicit false

namespace Stencil.Settings

open Text

/-! ## What a variable overrides -/

/-- A variable overrides the key that stands in its name behind the stem and an underscore, written
in letters of any case and with two underscores for a dot. The name goes on behind the stem, and it
is not one of those that have a meaning of their own. -/
inductive Overrides (stem : String) : String → String → Prop where
  | intro {name key : String} {rest : List Char}
      (begins : name.toList = stem.toList ++ ['_'] ++ rest) (goesOn : rest ≠ [])
      (free : name ∉ reservedVariables)
      (reads : ReadsPairs '_' '_' '.' (rest.map Char.toLower) key.toList) :
      Overrides stem name key

theorem overriddenKey?_eq_some_iff {stem name key : String} :
    overriddenKey? stem name = some key ↔ Overrides stem name key := by
  constructor
  · intro overridden
    rw [overriddenKey?] at overridden
    split at overridden
    case h_1 => cases overridden
    case h_2 => cases overridden
    case h_3 rest goesOn follows =>
      split at overridden
      case isTrue => cases overridden
      case isFalse unreserved =>
        have reads := Option.some.inj overridden
        refine .intro (remainder?_eq_some_iff.mp follows) goesOn ?_ ?_
        · intro reserved
          exact unreserved (List.contains_iff_mem.mpr reserved)
        · rw [readsPairs_iff, ← reads, String.toList_ofList]
  · intro overrides
    obtain ⟨begins, goesOn, free, reads⟩ := overrides
    rw [overriddenKey?_of_split goesOn begins free, readsPairs_iff.mp reads, String.ofList_toList]

instance (stem name key : String) : Decidable (Overrides stem name key) :=
  decidable_of_iff (overriddenKey? stem name = some key) overriddenKey?_eq_some_iff

theorem Overrides.unique {stem name left right : String} (first : Overrides stem name left)
    (second : Overrides stem name right) : left = right := by
  rw [← overriddenKey?_eq_some_iff] at first second
  exact Option.some.inj (first.symm.trans second)

/-- The variables that override a key, in their order. -/
def overriding (stem key : String) (entries : List (String × String)) :
    List (String × String) :=
  entries.filter fun entry => Overrides stem entry.1 key

/-- The value of the last variable that overrides a key. -/
def lastValue? (stem key : String) (entries : List (String × String)) : Option String :=
  (overriding stem key entries).getLast?.map Prod.snd

/-! ## Applying variables -/

theorem withOverrides_append (settings : Settings) (stem : String)
    (left right : List (String × String)) :
    settings.withOverrides stem (left ++ right) =
      (settings.withOverrides stem left).withOverrides stem right :=
  List.foldl_append

theorem get?_withOverrides_single (settings : Settings) (stem : String) (entry : String × String)
    (key : String) :
    (settings.withOverrides stem [entry]).get? key =
      if Overrides stem entry.1 key then some entry.2 else settings.get? key := by
  rw [withOverrides_single]
  cases overridden : overriddenKey? stem entry.1 with
  | none =>
    have apart : ¬ Overrides stem entry.1 key := by
      rw [← overriddenKey?_eq_some_iff, overridden]
      nofun
    rw [if_neg apart]
  | some changed =>
    have written := Dictionary.get?_insert settings.values changed key entry.2
    have overrides := overriddenKey?_eq_some_iff.mp overridden
    by_cases same : key = changed
    · subst same
      rw [if_pos rfl] at written
      rw [if_pos overrides]
      exact written
    · rw [if_neg same] at written
      rw [if_neg fun other => same (other.unique overrides)]
      exact written

/-- Each key has the value of the last variable that overrides it, else what it had before. -/
theorem get?_withOverrides (settings : Settings) (stem : String)
    (entries : List (String × String)) (key : String) :
    (settings.withOverrides stem entries).get? key =
      (lastValue? stem key entries).or (settings.get? key) := by
  induction entries generalizing settings with
  | nil => rfl
  | cons entry rest ih =>
    have first := get?_withOverrides_single settings stem entry key
    have step : settings.withOverrides stem (entry :: rest) =
        (settings.withOverrides stem [entry]).withOverrides stem rest :=
      withOverrides_append settings stem [entry] rest
    rw [step, ih, first]
    simp only [lastValue?, overriding, List.filter_cons]
    by_cases overrides : Overrides stem entry.1 key
    · simp only [overrides, decide_true, if_true, List.getLast?_cons]
      cases (rest.filter fun entry => Overrides stem entry.1 key).getLast? <;> rfl
    · simp only [overrides, decide_false, Bool.false_eq_true, if_false]

/-! ## Reordering variables -/

/-- No key is overridden by both variables. -/
def Apart (stem : String) (left right : String × String) : Prop :=
  ∀ key, ¬ (Overrides stem left.1 key ∧ Overrides stem right.1 key)

private theorem Apart.symm {stem : String} {left right : String × String}
    (apart : Apart stem left right) :
    Apart stem right left :=
  fun key both => apart key both.symm

/-- Lists that are made of one another by exchanging neighbours that override different keys. -/
inductive Reordered (stem : String) : List (String × String) → List (String × String) → Prop where
  | nil : Reordered stem [] []
  | cons {left right : List (String × String)} (entry : String × String)
      (reordered : Reordered stem left right) : Reordered stem (entry :: left) (entry :: right)
  | swap {first second : String × String} (apart : Apart stem first second)
      (rest : List (String × String)) :
      Reordered stem (first :: second :: rest) (second :: first :: rest)
  | trans {left middle right : List (String × String)} (before : Reordered stem left middle)
      (after : Reordered stem middle right) : Reordered stem left right

private theorem Reordered.overriding_eq {stem : String} {left right : List (String × String)}
    (reordered : Reordered stem left right) (key : String) :
    overriding stem key left = overriding stem key right := by
  induction reordered with
  | nil => rfl
  | cons entry reordered ih =>
    rw [overriding, overriding, List.filter_cons, List.filter_cons]
    rw [overriding, overriding] at ih
    rw [ih]
  | @swap first second apart rest =>
    simp only [overriding, List.filter_cons]
    by_cases overrides : Overrides stem first.1 key
    · have other : ¬ Overrides stem second.1 key := fun both => apart key ⟨overrides, both⟩
      simp only [overrides, other, decide_true, decide_false, Bool.false_eq_true, if_true, if_false]
    · simp only [overrides, decide_false, Bool.false_eq_true, if_false]
  | trans before after ihBefore ihAfter => rw [ihBefore, ihAfter]

/-- Where each key is overridden at most once, every order of the variables can be reached. -/
private theorem reordered_of_perm {stem : String} {left right : List (String × String)}
    (permuted : left.Perm right) (apart : left.Pairwise (Apart stem)) :
    Reordered stem left right := by
  induction permuted with
  | nil => exact .nil
  | cons entry permuted ih => exact .cons entry (ih (List.pairwise_cons.mp apart).2)
  | swap first second rest =>
    exact .swap ((List.pairwise_cons.mp apart).1 first List.mem_cons_self) rest
  | trans before after ihBefore ihAfter =>
    have later := before.pairwise apart Apart.symm
    exact .trans (ihBefore apart) (ihAfter later)

/-! ## Lists of variables -/

/-- After any variables each key has the value of the last one that overrides it, else what it had
before. Hence a list can be applied again without effect, two lists in turn are one list, and the
order matters only among variables that override the same key. -/
theorem withOverrides_last_wins (stem : String) :
    (∀ (settings : Settings) (entries : List (String × String)) (key : String),
      (settings.withOverrides stem entries).get? key =
        (lastValue? stem key entries).or (settings.get? key)) ∧
    (∀ (settings : Settings) (entries : List (String × String)),
      (settings.withOverrides stem entries).withOverrides stem entries =
        settings.withOverrides stem entries) ∧
    (∀ (settings : Settings) (left right : List (String × String)),
      (settings.withOverrides stem left).withOverrides stem right =
        settings.withOverrides stem (left ++ right)) ∧
    (∀ (settings : Settings) (left right : List (String × String)), Reordered stem left right →
      settings.withOverrides stem left = settings.withOverrides stem right) ∧
    ∀ (settings : Settings) (left right : List (String × String)), left.Perm right →
      left.Pairwise (Apart stem) →
        settings.withOverrides stem left = settings.withOverrides stem right := by
  have reorders (settings : Settings) (left right : List (String × String))
      (reordered : Reordered stem left right) :
      settings.withOverrides stem left = settings.withOverrides stem right := by
    refine ext_get? fun key => ?_
    rw [get?_withOverrides, get?_withOverrides, lastValue?, lastValue?,
      reordered.overriding_eq key]
  refine ⟨fun settings => get?_withOverrides settings stem, ?_, ?_, reorders, ?_⟩
  · intro settings entries
    refine ext_get? fun key => ?_
    rw [get?_withOverrides, get?_withOverrides, ← Option.or_assoc, Option.or_self]
  · intro settings left right
    exact (withOverrides_append settings stem left right).symm
  · intro settings left right permuted apart
    exact reorders settings left right (reordered_of_perm permuted apart)

/-- Two spellings of one key collide and the later one stays, wherever a variable of another key
stands between them. A reserved variable overrides nothing. -/
theorem withOverrides_last_wins_spellings :
    let settings := empty.set "a.b" "0"
    (settings.withOverrides "SOLDER"
      [("SOLDER_A__B", "1"), ("SOLDER_C", "2"), ("SOLDER_a.b", "3"),
        ("SOLDER_TOKENS", "4")]).get? "a.b" = some "3" ∧
    settings.withOverrides "SOLDER"
        [("SOLDER_A__B", "1"), ("SOLDER_C", "2"), ("SOLDER_a.b", "3")] =
      settings.withOverrides "SOLDER"
        [("SOLDER_C", "2"), ("SOLDER_A__B", "1"), ("SOLDER_a.b", "3")] ∧
    settings.withOverrides "SOLDER" [("SOLDER_A__B", "1"), ("SOLDER_C", "2")] =
      settings.withOverrides "SOLDER" [("SOLDER_C", "2"), ("SOLDER_A__B", "1")] := by
  intro settings
  have apart : Apart "SOLDER" ("SOLDER_A__B", "1") ("SOLDER_C", "2") := by
    intro key both
    have first : overriddenKey? "SOLDER" "SOLDER_A__B" = some "a.b" := by decide
    have second : overriddenKey? "SOLDER" "SOLDER_C" = some "c" := by decide
    rw [← overriddenKey?_eq_some_iff, ← overriddenKey?_eq_some_iff, first, second] at both
    have same : some "a.b" = some "c" := both.1.trans both.2.symm
    exact absurd same (by decide)
  obtain ⟨lastWins, -, -, reorders, permutes⟩ := withOverrides_last_wins "SOLDER"
  refine ⟨?_, ?_, ?_⟩
  · have last : lastValue? "SOLDER" "a.b"
        [("SOLDER_A__B", "1"), ("SOLDER_C", "2"), ("SOLDER_a.b", "3"), ("SOLDER_TOKENS", "4")] =
          some "3" := by
      decide
    rw [lastWins, last, Option.some_or]
  · exact reorders settings _ _ (.swap apart _)
  · exact permutes settings _ _ (.swap _ _ _) (List.pairwise_pair.mpr apart)

end Stencil.Settings
