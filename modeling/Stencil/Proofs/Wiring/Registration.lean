import Mathlib.Data.List.Sort
import Stencil.Proofs.Expansion.Resolution
import Stencil.Wiring.Build

/-!
# What a wired tokenizer has registered

A successful build registers, for each token of the configuration, a strategy made from its source,
and nothing else. A key then finds the strategy of the token that the configuration selects for it:
when case is ignored, no two names are equal up to case, so at most one token is selected.
-/

set_option autoImplicit false

namespace Stencil

namespace TokenConfig

variable {σ : Type} [Situated σ] {config : TokenConfig} {context : WiringContext σ}

def caseRule (config : TokenConfig) : CaseRule :=
  if config.caseSensitive then .sensitive else .insensitive

/-- The token that a key selects, with its source. -/
def entry? (config : TokenConfig) (key : String) : Option (String × TokenSource) :=
  config.tokens.entries.find? fun entry => config.caseRule.selects entry.1 key

/-! ## Registered strategies -/

/-- The strategies are those of the tokens of the configuration. -/
structure Registers (config : TokenConfig) (context : WiringContext σ)
    (strategies : Strategies σ) : Prop where
  made : ∀ {token source}, config.tokens.get? token = some source →
    ∃ strategy, strategyOf context token source = .ok strategy ∧
      strategies.get? token = some strategy
  only : ∀ {token}, config.tokens.get? token = none → strategies.get? token = none

private theorem get?_of_added {entries : Entries TokenSource} (ascending : entries.Ascending)
    {start strategies : Strategies σ}
    (added : addStrategies context start entries = .ok strategies) (token : String) :
    (∀ source, entries.get? token = some source →
        ∃ strategy, strategyOf context token source = .ok strategy ∧
          strategies.get? token = some strategy) ∧
      (entries.get? token = none → strategies.get? token = start.get? token) := by
  induction entries generalizing start with
  | nil =>
    cases added
    refine ⟨fun source found => ?_, fun _ => rfl⟩
    cases found
  | cons entry rest ih =>
    obtain ⟨first, source⟩ := entry
    obtain ⟨least, ascending⟩ := List.pairwise_cons.mp ascending
    rw [addStrategies] at added
    split at added
    case h_1 => cases added
    case h_2 strategy made =>
      obtain ⟨others, unchanged⟩ := ih ascending added
      rw [Entries.get?]
      by_cases here : first = token
      · subst here
        rw [if_pos rfl]
        refine ⟨fun other found => ?_, fun absent => ?_⟩
        · cases found
          have fresh : Entries.get? rest first = none := Entries.get?_eq_none_of_lt least
          refine ⟨strategy, made, ?_⟩
          rw [unchanged fresh, Dictionary.get?_insert, if_pos rfl]
        · cases absent
      · rw [if_neg here]
        refine ⟨others, fun absent => ?_⟩
        rw [unchanged absent, Dictionary.get?_insert, if_neg (Ne.symm here)]

theorem registers_of_added {strategies : Strategies σ}
    (added : addStrategies context .empty config.tokens.entries = .ok strategies) :
    Registers config context strategies where
  made := (get?_of_added config.tokens.ascending added _).1 _
  only := (get?_of_added config.tokens.ascending added _).2

theorem Registers.exists_source {strategies : Strategies σ}
    (registers : Registers config context strategies) {token : String} {strategy : Strategy σ}
    (registered : strategies.get? token = some strategy) :
    ∃ source, config.tokens.get? token = some source ∧
      strategyOf context token source = .ok strategy := by
  cases found : config.tokens.get? token with
  | none =>
    rw [registers.only found] at registered
    cases registered
  | some source =>
    obtain ⟨other, made, same⟩ := registers.made found
    rw [same] at registered
    cases registered
    exact ⟨source, rfl, made⟩

theorem Registers.keys_eq {strategies : Strategies σ}
    (registers : Registers config context strategies) : strategies.keys = config.tokens.keys := by
  apply strategies.ascending.eq_of_mem_iff config.tokens.ascending
  intro token
  refine Dictionary.mem_keys_iff_exists.trans (Iff.trans ?_ Dictionary.mem_keys_iff_exists.symm)
  constructor
  · rintro ⟨strategy, registered⟩
    obtain ⟨source, listed, -⟩ := registers.exists_source registered
    exact ⟨source, listed⟩
  · rintro ⟨source, listed⟩
    obtain ⟨strategy, -, registered⟩ := registers.made listed
    exact ⟨strategy, registered⟩

/-! ## Successful builds -/

/-- What a configuration was wired to. -/
structure Wires (config : TokenConfig) (context : WiringContext σ) (wired : Wired σ) : Prop where
  registers : Registers config context wired.tokenizer.strategies
  strict : wired.tokenizer.strict = config.strict
  caseRule : wired.tokenizer.caseRule = config.caseRule
  /-- Names are distinct up to case when case is ignored. -/
  apart : config.caseSensitive = false → (wired.tokenizer.strategies.keys.map Text.fold).Nodup
  wildcard : wired.wildcard =
    if config.wildcardSettings then some ⟨[context.settings.toValue], true⟩ else none

theorem build_of_added {strategies : Strategies σ}
    (added : addStrategies context .empty config.tokens.entries = .ok strategies) :
    config.build context =
      match Tokenizer.build strategies config.strict config.caseRule with
      | .error error => .error (.tokenizer error)
      | .ok tokenizer =>
        .ok ⟨tokenizer,
          if config.wildcardSettings then some ⟨[context.settings.toValue], true⟩ else none⟩ := by
  simp only [build, added]
  rfl

theorem wires_of_build {wired : Wired σ} (built : config.build context = .ok wired) :
    Wires config context wired := by
  cases added : addStrategies context .empty config.tokens.entries with
  | error error =>
    simp only [build, added] at built
    cases built
  | ok strategies =>
    rw [build_of_added added] at built
    cases made : Tokenizer.build strategies config.strict config.caseRule with
    | error error =>
      simp only [made] at built
      cases built
    | ok tokenizer =>
      obtain ⟨rfl, apart⟩ := Tokenizer.eq_of_build made
      simp only [made] at built
      cases built
      refine ⟨registers_of_added added, rfl, rfl, fun insensitive => apart ?_, rfl⟩
      change config.caseRule = .insensitive
      simp only [caseRule, insensitive, Bool.false_eq_true, if_false]

namespace Wires

variable {wired : Wired σ} (wires : Wires config context wired)

include wires

theorem tokenizer_apart : wired.tokenizer.Apart := by
  intro insensitive
  rw [wires.caseRule, TokenConfig.caseRule] at insensitive
  cases mode : config.caseSensitive with
  | true =>
    rw [mode] at insensitive
    cases insensitive
  | false => exact wires.apart mode

theorem find?_of_entry? {token key : String} {source : TokenSource}
    (entry : config.entry? key = some (token, source)) :
    ∃ strategy, strategyOf context token source = .ok strategy ∧
      wired.tokenizer.find? key = some strategy := by
  have selected := List.find?_some entry
  have found : config.tokens.get? token = some source :=
    config.tokens.ascending.get?_of_mem (List.mem_of_find?_eq_some entry)
  obtain ⟨strategy, made, registered⟩ := wires.registers.made found
  exact ⟨strategy, made,
    wires.tokenizer_apart.find?_of_selects registered (wires.caseRule ▸ selected)⟩

theorem find?_of_no_entry {key : String} (unselected : config.entry? key = none) :
    wired.tokenizer.find? key = none := by
  cases found : wired.tokenizer.find? key with
  | none => rfl
  | some strategy =>
    obtain ⟨name, registered, selected⟩ := Tokenizer.exists_name_of_find? found
    obtain ⟨source, listed, -⟩ := wires.registers.exists_source registered
    have refused := List.find?_eq_none.mp unselected (name, source) (Entries.mem_of_get? listed)
    exact absurd (wires.caseRule ▸ selected) refused

end Wires

end TokenConfig

end Stencil
