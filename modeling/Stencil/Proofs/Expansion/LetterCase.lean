import Stencil.Proofs.Expansion.Resolution
import Stencil.Proofs.Text.ByteOrder
import Stencil.Proofs.Text.LetterCase

/-!
# Names up to case

A tokenizer that ignores case can be built when no two of its names are equal up to case, and else
names the first two that are. A key then selects the one name that it is equal to up to case,
although the tokenizer looks for an exact name first. One that minds case can always be built, and a
key selects the very same name.
-/

set_option autoImplicit false

namespace Stencil

open Text (EqualUpToCase)

/-- The names that a key means. -/
def CaseRule.Alike : CaseRule → String → String → Prop
  | sensitive => Eq
  | insensitive => EqualUpToCase

theorem CaseRule.selects_iff {caseRule : CaseRule} {name key : String} :
    caseRule.selects name key = true ↔ caseRule.Alike name key := by
  cases caseRule with
  | sensitive => exact decide_eq_true_iff
  | insensitive => exact decide_eq_true_iff.trans Text.fold_eq_iff

private theorem CaseRule.selects_congr {caseRule : CaseRule} {key other : String}
    (alike : caseRule.Alike key other) (name : String) :
    caseRule.selects name key = caseRule.selects name other := by
  cases caseRule with
  | sensitive =>
    obtain rfl : key = other := alike
    rfl
  | insensitive => simp only [selects, Text.fold_eq_iff.mpr alike]

private theorem CaseRule.Alike.eq_empty_iff {caseRule : CaseRule} {key other : String}
    (alike : caseRule.Alike key other) : key = "" ↔ other = "" := by
  cases caseRule with
  | sensitive =>
    obtain rfl : key = other := alike
    rfl
  | insensitive =>
    have lengths : key.toList.length = other.toList.length := List.Forall₂.length_eq alike
    simp only [← String.toList_eq_nil_iff, ← List.length_eq_zero_iff, lengths]

/-! ## Names that collide -/

/-- Of the names that are equal up to case with a smaller one, the second is the least in the order
of bytes, and the first is the one smaller name it is equal to. -/
structure Clash (names : List String) (first second : String) : Prop where
  among : first ∈ names
  amongOther : second ∈ names
  smaller : Text.bytes first < Text.bytes second
  alike : EqualUpToCase first second
  only : ∀ other ∈ names, Text.bytes other < Text.bytes second → EqualUpToCase other second →
    other = first
  least : ∀ lower ∈ names, ∀ upper ∈ names, Text.bytes lower < Text.bytes upper →
    EqualUpToCase lower upper → ¬ Text.bytes upper < Text.bytes second

namespace Tokenizer

variable {σ : Type} {tokenizer : Tokenizer σ} {first second : String}

/-- The names before the second one are apart, so it is the first of its kind. -/
private theorem exists_split_of_firstCollision? {earlier names : List String}
    (found : firstCollision? earlier names = some (first, second)) :
    ∃ before after, names = before ++ second :: after ∧ (first ∈ earlier ∨ first ∈ before) ∧
      Text.fold first = Text.fold second ∧ firstCollision? earlier before = none := by
  induction names generalizing earlier with
  | nil => cases found
  | cons name rest ih =>
    rw [firstCollision?] at found
    split at found
    case h_1 other among =>
      cases found
      have same := List.find?_some among
      exact ⟨[], rest, rfl, .inl (List.mem_of_find?_eq_some among), of_decide_eq_true same, rfl⟩
    case h_2 fresh =>
      obtain ⟨before, after, rfl, member, same, apart⟩ := ih found
      refine ⟨name :: before, after, rfl, ?_, same, ?_⟩
      · rcases member with member | member
        · rcases List.mem_cons.mp member with rfl | member
          · exact .inr List.mem_cons_self
          · exact .inl member
        · exact .inr (List.mem_cons_of_mem name member)
      · rw [firstCollision?, fresh]
        exact apart

private theorem clash_of_firstCollision? {names : List String} (ascending : names.Pairwise (· < ·))
    (found : firstCollision? [] names = some (first, second)) : Clash names first second := by
  obtain ⟨before, after, rfl, member, same, apart⟩ := exists_split_of_firstCollision? found
  have firstBefore : first ∈ before := member.resolve_left List.not_mem_nil
  have inj := List.inj_on_of_nodup_map (nodup_of_firstCollision? apart).2
  have smaller : first < second :=
    (List.pairwise_append.mp ascending).2.2 first firstBefore second List.mem_cons_self
  refine ⟨List.mem_append_left _ firstBefore, List.mem_append_right _ List.mem_cons_self,
    Text.lt_iff_bytes_lt.mp smaller, Text.fold_eq_iff.mp same, ?_, ?_⟩
  · intro other otherAmong less alike
    have otherBefore : other ∈ before :=
      (Text.mem_before_iff ascending otherAmong).mpr (Text.lt_iff_bytes_lt.mpr less)
    exact inj otherBefore firstBefore ((Text.fold_eq_iff.mpr alike).trans same.symm)
  · -- A pair below the second name would lie among the names before it, which are apart.
    intro lower lowerAmong upper upperAmong less alike upperLess
    have ordered : lower < upper := Text.lt_iff_bytes_lt.mpr less
    have upperLower : upper < second := Text.lt_iff_bytes_lt.mpr upperLess
    have upperBefore : upper ∈ before :=
      (Text.mem_before_iff ascending upperAmong).mpr upperLower
    have lowerBefore : lower ∈ before :=
      (Text.mem_before_iff ascending lowerAmong).mpr (String.lt_trans ordered upperLower)
    have equal : lower = upper := inj lowerBefore upperBefore (Text.fold_eq_iff.mpr alike)
    rw [equal] at ordered
    exact String.lt_irrefl upper ordered

end Tokenizer

theorem Clash.ne {names : List String} {first second : String} (clash : Clash names first second) :
    first ≠ second := by
  rintro rfl
  exact List.lt_irrefl _ clash.smaller

theorem Clash.unique {names : List String} {first second otherFirst otherSecond : String}
    (clash : Clash names first second) (other : Clash names otherFirst otherSecond) :
    first = otherFirst ∧ second = otherSecond := by
  obtain rfl : second = otherSecond :=
    Text.eq_of_not_bytes_lt
      (other.least _ clash.among _ clash.amongOther clash.smaller clash.alike)
      (clash.least _ other.among _ other.amongOther other.smaller other.alike)
  exact ⟨other.only first clash.among clash.smaller clash.alike, rfl⟩

/-! ## Names that are found -/

/-- The key of a token selects what is registered under a name when the two are alike, and there is
never more than one such name. Tokens with keys that are alike resolve alike, unless they come to a
wildcard. -/
structure Tokenizer.Identifies {σ : Type} (tokenizer : Tokenizer σ)
    (alike : String → String → Prop) : Prop where
  find?_iff : ∀ key strategy, tokenizer.find? key = some strategy ↔
    ∃ name, tokenizer.strategies.get? name = some strategy ∧ alike name key
  unique : ∀ key, ∀ first ∈ tokenizer.strategies.keys, ∀ second ∈ tokenizer.strategies.keys,
    alike first key → alike second key → first = second
  evaluated : ∀ (token : Template.Token) name strategy, token.key ≠ "" →
    tokenizer.strategies.get? name = some strategy → alike name token.key →
    ∀ wildcard state, tokenizer.resolve wildcard token state =
      (textAt token.path (strategy.evaluate token.arguments state).1,
        (strategy.evaluate token.arguments state).2)
  same : ∀ first second : Template.Token, alike first.key second.key →
    first.arguments = second.arguments → first.path = second.path →
    ∀ wildcard, (wildcard = none ∨ ∃ name ∈ tokenizer.strategies.keys, alike name first.key) →
    ∀ state, tokenizer.resolve wildcard first state = tokenizer.resolve wildcard second state

namespace Tokenizer

variable {σ : Type} {tokenizer : Tokenizer σ}

private theorem resolve_congr {first second : Template.Token} {wildcard : Option (Strategy σ)}
    (named : first.key = "" ↔ second.key = "")
    (finds : tokenizer.find? first.key = tokenizer.find? second.key)
    (arguments : first.arguments = second.arguments) (path : first.path = second.path)
    (settled : wildcard = none ∨ (tokenizer.find? first.key).isSome = true) (state : σ) :
    tokenizer.resolve wildcard first state = tokenizer.resolve wildcard second state := by
  by_cases missing : first.key = ""
  · rw [resolve_of_missing missing, resolve_of_missing (named.mp missing)]
  · have present : second.key ≠ "" := fun empty => missing (named.mpr empty)
    cases found : tokenizer.find? first.key with
    | some strategy =>
      rw [resolve_of_find? missing found, resolve_of_find? present (finds ▸ found), arguments, path]
    | none =>
      rw [found] at settled
      obtain rfl : wildcard = none := settled.resolve_right nofun
      rw [resolve_of_unknown missing found, resolve_of_unknown present (finds ▸ found)]

namespace Apart

variable (apart : tokenizer.Apart)

include apart

theorem find?_eq_some_iff {key : String} {strategy : Strategy σ} :
    tokenizer.find? key = some strategy ↔
      ∃ name, tokenizer.strategies.get? name = some strategy ∧
        tokenizer.caseRule.Alike name key := by
  simp only [← CaseRule.selects_iff]
  constructor
  · exact exists_name_of_find?
  · rintro ⟨name, registered, selected⟩
    exact apart.find?_of_selects registered selected

private theorem find?_congr {key other : String} (alike : tokenizer.caseRule.Alike key other) :
    tokenizer.find? key = tokenizer.find? other := by
  apply Option.ext
  intro strategy
  simp only [apart.find?_eq_some_iff, ← CaseRule.selects_iff, CaseRule.selects_congr alike]

theorem identifies : tokenizer.Identifies tokenizer.caseRule.Alike := by
  refine ⟨fun _ _ => apart.find?_eq_some_iff, ?_, ?_, ?_⟩
  · intro key first among second amongOther alike alikeOther
    exact apart.selects_unique among amongOther (CaseRule.selects_iff.mpr alike)
      (CaseRule.selects_iff.mpr alikeOther)
  · intro token name strategy named registered alike wildcard state
    have found : tokenizer.find? token.key = some strategy :=
      apart.find?_eq_some_iff.mpr ⟨name, registered, alike⟩
    exact resolve_of_find? named found wildcard state
  · intro first second alike arguments path wildcard settled state
    refine resolve_congr alike.eq_empty_iff (apart.find?_congr alike) arguments path ?_ state
    refine settled.imp_right ?_
    rintro ⟨name, among, selected⟩
    obtain ⟨strategy, registered⟩ := Dictionary.mem_keys_iff_exists.mp among
    rw [apart.find?_eq_some_iff.mpr ⟨name, registered, selected⟩, Option.isSome_some]

end Apart

variable {strategies : Strategies σ} {strict : Bool}

theorem clash_of_build {error : TokenError}
    (failed : build strategies strict .insensitive = .error error) :
    ∃ first second, error = .collision first second ∧ Clash strategies.keys first second := by
  rw [build] at failed
  split at failed
  case h_1 first second found =>
    cases failed
    exact ⟨first, second, rfl, clash_of_firstCollision? strategies.ascending found⟩
  case h_2 => cases failed

/-- Whether a tokenizer can be built depends on its names alone, and so does what is blamed when it
cannot. Tokens that differ in case only need not resolve alike when they reach a wildcard. -/
theorem build_identifies (strategies : Strategies σ) (strict : Bool) :
    (∃ tokenizer, build strategies strict .sensitive = .ok tokenizer ∧
        tokenizer.strategies = strategies ∧ tokenizer.Identifies Eq) ∧
      ((∃ tokenizer, build strategies strict .insensitive = .ok tokenizer) ↔
        ∀ first ∈ strategies.keys, ∀ second ∈ strategies.keys, EqualUpToCase first second →
          first = second) ∧
      (∀ error, build strategies strict .insensitive = .error error →
        ∃ first second, error = .collision first second ∧ Clash strategies.keys first second) ∧
      ∀ tokenizer, build strategies strict .insensitive = .ok tokenizer →
        tokenizer.strategies = strategies ∧ tokenizer.Identifies EqualUpToCase := by
  refine ⟨?_, ?_, fun _ => clash_of_build, ?_⟩
  · have built : build strategies strict .sensitive = .ok ⟨strategies, strict, .sensitive⟩ := rfl
    exact ⟨_, built, rfl, (eq_of_build built).2.identifies⟩
  · constructor
    · rintro ⟨tokenizer, built⟩ first among second amongOther alike
      obtain ⟨rfl, apart⟩ := eq_of_build built
      exact List.inj_on_of_nodup_map (apart rfl) among amongOther (Text.fold_eq_iff.mpr alike)
    · intro distinct
      cases built : build strategies strict .insensitive with
      | ok tokenizer => exact ⟨tokenizer, rfl⟩
      | error error =>
        obtain ⟨first, second, -, clash⟩ := clash_of_build built
        exact absurd (distinct first clash.among second clash.amongOther clash.alike) clash.ne
  · intro tokenizer built
    obtain ⟨rfl, apart⟩ := eq_of_build built
    exact ⟨rfl, apart.identifies⟩

end Tokenizer

end Stencil
