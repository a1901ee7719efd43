import Stencil.Proofs.Expansion.Simulation

/-!
# Templates without unregistered keys

A template whose keys all select something registered is expanded by those strategies and nothing
else. Two tokenizers that select the same there expand it alike: the other strategies, their states
and the wildcards may differ in any way, for a wildcard stands in for a key that selects nothing and
never for a strategy or a path that fails.
-/

set_option autoImplicit false

namespace Stencil

open Template

section

variable {σ τ : Type}

/-- Two strategies do the same as far as a relation of their states tells. -/
def Strategy.Matches (related : σ → τ → Prop) (strategy : Strategy σ) (other : Strategy τ) : Prop :=
  ∀ arguments state there, related state there →
    EndAlike related (strategy.evaluate arguments state) (other.evaluate arguments there)

theorem Strategy.matches_self (strategy : Strategy σ) : strategy.Matches Eq strategy := by
  intro arguments state there same
  rw [same]
  exact ⟨rfl, rfl⟩

end

namespace Tokenizer

section

variable {σ τ : Type} {tokenizer : Tokenizer σ} {other : Tokenizer τ} {related : σ → τ → Prop}

/-- Every key of some occurrences, unless it is empty, selects strategies in two tokenizers that do
the same. -/
def SelectAlike (related : σ → τ → Prop) (tokenizer : Tokenizer σ) (other : Tokenizer τ)
    (found : List Occurrence) : Prop :=
  ∀ occurrence ∈ found, occurrence.token.key ≠ "" →
    ∃ strategy strategyThere, tokenizer.find? occurrence.token.key = some strategy ∧
      other.find? occurrence.token.key = some strategyThere ∧
      strategy.Matches related strategyThere

/-! ## One token, one template -/

variable (wildcard : Option (Strategy σ)) (wildcardThere : Option (Strategy τ))

private theorem resolve_alike {found : List Occurrence}
    (alike : SelectAlike related tokenizer other found) :
    ResolveAlike related tokenizer other wildcard wildcardThere found := by
  intro occurrence member state there relates
  by_cases missing : occurrence.token.key = ""
  · rw [resolve_of_missing missing, resolve_of_missing missing]
    exact ⟨rfl, relates⟩
  · obtain ⟨strategy, strategyThere, registered, registeredThere, same⟩ :=
      alike occurrence member missing
    rw [resolve_of_find? missing registered, resolve_of_find? missing registeredThere]
    obtain ⟨result, later⟩ := same occurrence.token.arguments state there relates
    exact ⟨congrArg (textAt occurrence.token.path) result, later⟩

theorem expand_alike (mode : tokenizer.strict = other.strict) {template : String}
    (alike : SelectAlike related tokenizer other (scan template)) {state : σ} {there : τ}
    (relates : related state there) :
    EndAlike related (tokenizer.expand wildcard template state)
      (other.expand wildcardThere template there) :=
  expand_of_resolveAlike mode (resolve_alike wildcard wildcardThere alike) relates

end

/-! ## Wildcards -/

section

variable {σ : Type} {tokenizer : Tokenizer σ}

/-- What a key selects is observed under the name that it is registered under. -/
theorem find?_observed {key : String} {strategy : Strategy σ}
    (found : tokenizer.find? key = some strategy) :
    ∃ name, tokenizer.observed.find? key = some (strategy.observed (.registered name)) := by
  have get : ∀ name, tokenizer.observed.strategies.get? name =
      (tokenizer.strategies.get? name).map fun strategy => strategy.observed (.registered name) :=
    fun name => Dictionary.get?_map _ tokenizer.strategies name
  have rule : tokenizer.observed.caseRule = tokenizer.caseRule := rfl
  rw [find?] at found ⊢
  rw [rule, get]
  cases mode : tokenizer.caseRule with
  | sensitive =>
    rw [mode] at found
    exact ⟨key, congrArg (Option.map _) found⟩
  | insensitive =>
    simp only [mode] at found
    cases exactly : tokenizer.strategies.get? key with
    | some registered =>
      rw [exactly] at found
      cases found
      exact ⟨key, rfl⟩
    | none =>
      rw [exactly] at found
      obtain ⟨entry, folded, rfl⟩ := Option.map_eq_some_iff.mp found
      refine ⟨entry.1, ?_⟩
      have observed : tokenizer.observed.strategies.entries.find?
          (fun entry => Text.fold entry.1 = Text.fold key) =
            some (entry.1, entry.2.observed (.registered entry.1)) := by
        rw [Tokenizer.observed, Dictionary.map, List.find?_map, Function.comp_def]
        simp only [folded, Option.map_some]
      simp only [Option.map_none, observed, Option.map_some]

/-- An expansion does not evaluate its wildcard: it goes as it would without one, and where its
evaluations are observed, none is an evaluation of the wildcard. -/
structure Unasked (tokenizer : Tokenizer σ) (wildcard : Option (Strategy σ)) (template : String)
    (state : σ) : Prop where
  without : tokenizer.expand wildcard template state = tokenizer.expand none template state
  observed : ∃ made, (∀ evaluated ∈ made, evaluated.evaluator ≠ .wildcard) ∧
    tokenizer.observed.expand (observeWildcard wildcard) template ⟨state, []⟩ =
      ((tokenizer.expand wildcard template state).1,
        ⟨(tokenizer.expand wildcard template state).2, made⟩)

/-- An observed state tells of a state when no wildcard was evaluated on the way to it. -/
def TellsOf (observed : Observed σ) (state : σ) : Prop :=
  observed.state = state ∧ ∀ evaluated ∈ observed.made, evaluated.evaluator ≠ .wildcard

private theorem matches_observed (strategy : Strategy σ) (name : String) :
    (strategy.observed (.registered name)).Matches TellsOf strategy := by
  intro arguments observed there tells
  obtain ⟨rfl, unasked⟩ := tells
  refine ⟨rfl, rfl, fun evaluated member => ?_⟩
  rcases List.mem_append.mp member with earlier | last
  · exact unasked evaluated earlier
  · obtain rfl := List.mem_singleton.mp last
    exact nofun

private theorem unasked_of_selected {template : String}
    (selected : ∀ occurrence ∈ scan template, occurrence.token.key ≠ "" →
      ∃ strategy, tokenizer.find? occurrence.token.key = some strategy)
    (wildcard : Option (Strategy σ)) (state : σ) : tokenizer.Unasked wildcard template state where
  without := by
    have alike : SelectAlike Eq tokenizer tokenizer (scan template) := by
      intro occurrence member named
      obtain ⟨strategy, found⟩ := selected occurrence member named
      exact ⟨strategy, strategy, found, found, strategy.matches_self⟩
    obtain ⟨report, next⟩ := expand_alike wildcard none rfl alike (rfl : state = state)
    exact Prod.ext report next
  observed := by
    have alike : SelectAlike TellsOf tokenizer.observed tokenizer (scan template) := by
      intro occurrence member named
      obtain ⟨strategy, found⟩ := selected occurrence member named
      obtain ⟨name, observed⟩ := find?_observed found
      exact ⟨_, strategy, observed, found, matches_observed strategy name⟩
    have start : TellsOf (Observed.mk state []) state := ⟨rfl, fun _ member => nomatch member⟩
    obtain ⟨report, next, unasked⟩ :=
      expand_alike (observeWildcard wildcard) wildcard rfl alike start
    exact ⟨_, unasked, Prod.ext report (congrArg (Observed.mk · _) next)⟩

end

/-- Two tokenizers of one mode. When every key of a template selects strategies in both that do the
same, both give one report and leave related states, also where a strategy or a path fails. Their
wildcards, and what else is registered, do not matter, and neither wildcard is evaluated. -/
theorem expand_of_registered {σ τ : Type} {tokenizer : Tokenizer σ} {other : Tokenizer τ}
    {related : σ → τ → Prop} {template : String} {state : σ} {there : τ}
    (mode : tokenizer.strict = other.strict)
    (selected : SelectAlike related tokenizer other (scan template))
    (relates : related state there) (wildcard : Option (Strategy σ))
    (wildcardThere : Option (Strategy τ)) :
    EndAlike related (tokenizer.expand wildcard template state)
        (other.expand wildcardThere template there) ∧
      tokenizer.Unasked wildcard template state ∧ other.Unasked wildcardThere template there := by
  refine ⟨expand_alike wildcard wildcardThere mode selected relates, ?_, ?_⟩
  · refine unasked_of_selected (fun occurrence member named => ?_) wildcard state
    obtain ⟨strategy, -, found, -⟩ := selected occurrence member named
    exact ⟨strategy, found⟩
  · refine unasked_of_selected (fun occurrence member named => ?_) wildcardThere there
    obtain ⟨-, strategy, -, found, -⟩ := selected occurrence member named
    exact ⟨strategy, found⟩

/-- Two counting strategies under names that differ in case, and a token whose path fails. One state
counts what the wildcard and another strategy do as well, and the other state does not. -/
theorem expand_of_registered_failing_path :
    let counted : Strategy Nat := { evaluate := fun _ count => (.ok (.string "n"), count + 1) }
    let paired : Strategy (Nat × Nat) :=
      { evaluate := fun _ counts => (.ok (.string "n"), counts.1 + 1, counts.2) }
    let elsewhere : Strategy (Nat × Nat) :=
      { evaluate := fun _ counts => (.ok .null, counts.1, counts.2 + 1) }
    let tokenizer : Tokenizer (Nat × Nat) :=
      ⟨Dictionary.ofList [("N", paired), ("x", elsewhere)], false, .insensitive⟩
    let other : Tokenizer Nat := ⟨Dictionary.ofList [("n", counted)], false, .insensitive⟩
    let template := "$\x7bn\x7d$\x7b.x\x7d$\x7bn.x\x7d"
    let related := fun (counts : Nat × Nat) (count : Nat) => counts.1 = count
    tokenizer.strict = other.strict ∧ SelectAlike related tokenizer other (scan template) ∧
      related (0, 5) 0 ∧
      EndAlike related (tokenizer.expand (some elsewhere) template (0, 5))
        (other.expand none template 0) := by
  intro counted paired elsewhere tokenizer other template related
  have keys : ∀ occurrence ∈ scan template,
      occurrence.token.key = "" ∨ occurrence.token.key = "n" := by decide +kernel
  have apart : tokenizer.Apart := fun _ => by decide +kernel
  have registered : tokenizer.strategies.get? "N" = some paired := by
    rw [Dictionary.get?_ofList_cons, Dictionary.get?_ofList_of_absent]
    · rfl
    · intro entry member
      obtain rfl := List.mem_singleton.mp member
      decide
  have selected : SelectAlike related tokenizer other (scan template) := by
    intro occurrence member named
    obtain same := (keys occurrence member).resolve_left named
    refine ⟨paired, counted, ?_, ?_, ?_⟩
    · rw [same]
      exact apart.find?_of_selects registered (by decide)
    · rw [same]
      rfl
    · intro arguments counts count same
      exact ⟨rfl, congrArg (· + 1) same⟩
  have mode : tokenizer.strict = other.strict := rfl
  have relates : related (0, 5) 0 := rfl
  have ends := expand_of_registered mode selected relates (some elsewhere) none
  exact ⟨mode, selected, relates, ends.1⟩

end Tokenizer

end Stencil
