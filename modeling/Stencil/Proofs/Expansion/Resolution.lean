import Mathlib.Data.List.Nodup
import Stencil.Tokenizer

/-!
# Finding and resolving

What the key of a token finds among the strategies of a tokenizer, and what the token then resolves
to: the text at its path in the value of the strategy, or else of the wildcard.
-/

set_option autoImplicit false

namespace Stencil

/-! ## Finding strategies -/

/-- Whether a key selects what is registered under a name. -/
def CaseRule.selects : CaseRule → String → String → Bool
  | sensitive, name, key => name = key
  | insensitive, name, key => Text.fold name = Text.fold key

namespace Tokenizer

variable {σ : Type} {tokenizer : Tokenizer σ} {name key : String} {strategy : Strategy σ}

theorem exists_name_of_find? (found : tokenizer.find? key = some strategy) :
    ∃ name, tokenizer.strategies.get? name = some strategy ∧
      tokenizer.caseRule.selects name key = true := by
  rw [find?] at found
  cases rule : tokenizer.caseRule with
  | sensitive =>
    rw [rule] at found
    exact ⟨key, found, decide_eq_true rfl⟩
  | insensitive =>
    rw [rule] at found
    cases exactly : tokenizer.strategies.get? key with
    | some other =>
      simp only [exactly] at found
      exact ⟨key, exactly.trans found, decide_eq_true rfl⟩
    | none =>
      simp only [exactly, Option.map_eq_some_iff, Prod.exists, exists_eq_right] at found
      obtain ⟨name, folded⟩ := found
      have selected := List.find?_some folded
      exact ⟨name, tokenizer.strategies.ascending.get?_of_mem (List.mem_of_find?_eq_some folded),
        selected⟩

theorem exists_strategy_of_selects (registered : tokenizer.strategies.get? name = some strategy)
    (selected : tokenizer.caseRule.selects name key = true) :
    ∃ other, tokenizer.find? key = some other := by
  rw [find?]
  cases rule : tokenizer.caseRule with
  | sensitive =>
    rw [rule] at selected
    rw [← of_decide_eq_true selected]
    exact ⟨strategy, registered⟩
  | insensitive =>
    rw [rule] at selected
    cases tokenizer.strategies.get? key with
    | some other => exact ⟨other, rfl⟩
    | none =>
      cases folded : tokenizer.strategies.entries.find?
          fun entry => Text.fold entry.1 = Text.fold key with
      | some entry => exact ⟨entry.2, rfl⟩
      | none =>
        have member := Entries.mem_of_get? registered
        exact absurd selected (List.find?_eq_none.mp folded (name, strategy) member)

theorem find?_eq_none_of_unselected
    (unselected : ∀ name ∈ tokenizer.strategies.keys, tokenizer.caseRule.selects name key = false) :
    tokenizer.find? key = none := by
  cases found : tokenizer.find? key with
  | none => rfl
  | some strategy =>
    obtain ⟨name, registered, selected⟩ := exists_name_of_find? found
    have listed := Dictionary.mem_keys_iff.mpr (congrArg Option.isSome registered)
    rw [unselected name listed] at selected
    cases selected

/-! ### Names that are apart -/

/-- No two names are equal up to case when case is ignored. -/
def Apart (tokenizer : Tokenizer σ) : Prop :=
  tokenizer.caseRule = .insensitive → (tokenizer.strategies.keys.map Text.fold).Nodup

theorem nodup_of_firstCollision? {earlier keys : List String}
    (apart : firstCollision? earlier keys = none) :
    (∀ first ∈ earlier, ∀ second ∈ keys, Text.fold first ≠ Text.fold second) ∧
      (keys.map Text.fold).Nodup := by
  induction keys generalizing earlier with
  | nil => exact ⟨nofun, List.nodup_nil⟩
  | cons key rest ih =>
    rw [firstCollision?] at apart
    split at apart
    case h_1 => cases apart
    case h_2 absent =>
      obtain ⟨before, distinct⟩ := ih apart
      constructor
      · intro first member second among
        rcases List.mem_cons.mp among with rfl | later
        · simpa using List.find?_eq_none.mp absent first member
        · exact before first (List.mem_cons_of_mem key member) second later
      · refine List.nodup_cons.mpr ⟨fun member => ?_, distinct⟩
        obtain ⟨second, later, same⟩ := List.mem_map.mp member
        exact before key List.mem_cons_self second later same.symm

theorem eq_of_build {strategies : Strategies σ} {strict : Bool} {caseRule : CaseRule}
    (built : build strategies strict caseRule = .ok tokenizer) :
    tokenizer = ⟨strategies, strict, caseRule⟩ ∧ tokenizer.Apart := by
  cases caseRule with
  | sensitive =>
    cases built
    exact ⟨rfl, nofun⟩
  | insensitive =>
    rw [build] at built
    split at built
    case h_1 => cases built
    case h_2 apart =>
      cases built
      exact ⟨rfl, fun _ => (nodup_of_firstCollision? apart).2⟩

namespace Apart

variable (apart : tokenizer.Apart)

include apart

/-- Two registered names that one key selects are one name. -/
theorem selects_unique {first second : String} (registered : first ∈ tokenizer.strategies.keys)
    (registeredOther : second ∈ tokenizer.strategies.keys)
    (selected : tokenizer.caseRule.selects first key = true)
    (selectedOther : tokenizer.caseRule.selects second key = true) : first = second := by
  cases rule : tokenizer.caseRule with
  | sensitive =>
    rw [rule] at selected selectedOther
    exact (of_decide_eq_true selected).trans (of_decide_eq_true selectedOther).symm
  | insensitive =>
    rw [rule] at selected selectedOther
    exact List.inj_on_of_nodup_map (apart rule) registered registeredOther
      ((of_decide_eq_true selected).trans (of_decide_eq_true selectedOther).symm)

/-- A key that selects a registered name finds what is registered under it, although the tokenizer
looks for an exact name first. -/
theorem find?_of_selects (registered : tokenizer.strategies.get? name = some strategy)
    (selected : tokenizer.caseRule.selects name key = true) :
    tokenizer.find? key = some strategy := by
  obtain ⟨other, finds⟩ := exists_strategy_of_selects registered selected
  obtain ⟨second, registeredOther, selectedOther⟩ := exists_name_of_find? finds
  have member := Dictionary.mem_keys_iff.mpr (congrArg Option.isSome registered)
  have among := Dictionary.mem_keys_iff.mpr (congrArg Option.isSome registeredOther)
  obtain rfl := apart.selects_unique member among selected selectedOther
  rw [registered] at registeredOther
  cases registeredOther
  exact finds

end Apart

end Tokenizer

/-! ## Resolving tokens -/

/-- The text at a path in the value that was found. -/
def textAt (path : List String) : Except StrategyError Value → Except FailureReason String
  | .error error => .error (.functionException error)
  | .ok value =>
    match value.walk path with
    | .ok inner => .ok inner.text
    | .error segment => .error (.pathFailed ⟨segment, path⟩)

theorem textAt_ok (path : List String) (value : Value) :
    textAt path (.ok value) = ((value.resolvePath path).map Value.text).mapError .pathFailed := by
  rw [textAt, Value.resolvePath]
  cases value.walk path <;> rfl

namespace Tokenizer

variable {σ : Type} {tokenizer : Tokenizer σ} {token : Template.Token}

private theorem resolve_of_evaluate {wildcard : Option (Strategy σ)} {state next : σ}
    {outcome : Except StrategyError Value} (named : token.key ≠ "")
    (evaluates : tokenizer.evaluate wildcard token state =
      (outcome.mapError .functionException, next)) :
    tokenizer.resolve wildcard token state = (textAt token.path outcome, next) := by
  rw [resolve, if_neg (by rwa [String.isEmpty_iff]), evaluates]
  cases outcome with
  | error => rfl
  | ok value =>
    rw [textAt_ok]
    rfl

theorem resolve_of_find? {strategy : Strategy σ} (named : token.key ≠ "")
    (found : tokenizer.find? token.key = some strategy) (wildcard : Option (Strategy σ))
    (state : σ) :
    tokenizer.resolve wildcard token state =
      (textAt token.path (strategy.evaluate token.arguments state).1,
        (strategy.evaluate token.arguments state).2) := by
  refine resolve_of_evaluate named ?_
  simp only [evaluate, found]

theorem resolve_of_wildcard (named : token.key ≠ "") (absent : tokenizer.find? token.key = none)
    (wildcard : Strategy σ) (state : σ) :
    tokenizer.resolve (some wildcard) token state =
      (textAt token.path (wildcard.evaluateKey token.key token.arguments state).1,
        (wildcard.evaluateKey token.key token.arguments state).2) := by
  refine resolve_of_evaluate named ?_
  simp only [evaluate, absent]

theorem resolve_of_unknown (named : token.key ≠ "") (absent : tokenizer.find? token.key = none)
    (state : σ) : tokenizer.resolve none token state = (.error .tokenUnknown, state) := by
  rw [resolve, if_neg (by rwa [String.isEmpty_iff])]
  simp only [evaluate, absent]

theorem resolve_of_missing (missing : token.key = "") (wildcard : Option (Strategy σ)) (state : σ) :
    tokenizer.resolve wildcard token state = (.error .tokenMissing, state) := by
  rw [resolve, if_pos (by rwa [String.isEmpty_iff])]

end Tokenizer

end Stencil
