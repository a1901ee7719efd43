import Stencil.Proofs.Expansion.LetterCase
import Stencil.Proofs.Expansion.Registered
import Stencil.Proofs.Value.Walking

/-!
# Why tokens fail

A token asks for one evaluation, that of the strategy its key selects or else of the wildcard, or it
asks for none. It asks for none when its identifier starts with a dot and when its key is unknown,
and these are the two reasons without an evaluation. After one there are two more, a strategy that
fails and a path that leads nowhere in the value it gave. Each reason has its exact condition, and
no token of a template fails in another way.
-/

set_option autoImplicit false

namespace Stencil

open Template Template.Grammar
open Value (Stops)

/-! ## Keys of tokens -/

theorem Template.exists_word_of_mem_scan {template : String} {occurrence : Occurrence}
    (member : occurrence ∈ scan template) :
    ∃ word : Word Quotation, occurrence.token = word.token Quotation.meaning := by
  obtain ⟨-, word, -, -, rfl⟩ := (cut_pieces template.toList).exists_word 0 occurrence member
  exact ⟨word, rfl⟩

private theorem Template.Grammar.Word.identifier_ne_empty (word : Word Quotation) :
    (word.token Quotation.meaning).identifier ≠ "" := by
  intro empty
  have characters := congrArg String.toList empty
  simp [Word.token, Name.characters] at characters

namespace Template.Token

variable {token : Token}

theorem key_of_isPlain (plain : Text.IsPlain token.identifier) : token.key = token.identifier := by
  simp [key, Text.segments_of_isPlain plain]

theorem key_of_split {head rest : String} (plain : Text.IsPlain head)
    (split : token.identifier = head ++ "." ++ rest) : token.key = head := by
  simp [key, split, Text.segments_append plain]

/-- The key is what stands before the first dot, so only a dot in front leaves none. -/
theorem key_eq_empty_iff (nonempty : token.identifier ≠ "") :
    token.key = "" ↔ ∃ rest, token.identifier = "." ++ rest := by
  have plainEmpty : Text.IsPlain "" := List.not_mem_nil
  have dotted : ∀ rest, "" ++ "." ++ rest = "." ++ rest := fun rest => by simp
  rcases Text.isPlain_or_exists_head token.identifier with plain | ⟨head, rest, plain, split⟩
  · rw [key_of_isPlain plain]
    constructor
    · intro empty
      exact absurd empty nonempty
    · rintro ⟨rest, starts⟩
      rw [starts, ← dotted] at plain
      exact absurd plain (Text.not_isPlain_append "" rest)
  · rw [key_of_split plain split]
    constructor
    · rintro rfl
      exact ⟨rest, split.trans (dotted rest)⟩
    · rintro ⟨following, starts⟩
      rw [split, ← dotted] at starts
      exact (Text.append_dot_inj plain plainEmpty starts).1

end Template.Token

/-! ## What a token asks for -/

namespace Tokenizer

variable {σ : Type} {tokenizer : Tokenizer σ} {wildcard : Option (Strategy σ)} {token : Token}
  {state : σ}

/-- No registered name means a key. -/
def Unselected (tokenizer : Tokenizer σ) (key : String) : Prop :=
  ∀ name ∈ tokenizer.strategies.keys, ¬ tokenizer.caseRule.Alike name key

theorem find?_eq_none_iff {key : String} :
    tokenizer.find? key = none ↔ tokenizer.Unselected key := by
  constructor
  · intro absent name among alike
    obtain ⟨strategy, registered⟩ := Dictionary.mem_keys_iff_exists.mp among
    obtain ⟨other, found⟩ :=
      exists_strategy_of_selects registered (CaseRule.selects_iff.mpr alike)
    simp [absent] at found
  · intro unselected
    apply find?_eq_none_of_unselected
    intro name among
    exact Bool.eq_false_iff.mpr fun selected =>
      unselected name among (CaseRule.selects_iff.mp selected)

/-- The evaluation that a token asks for. -/
inductive Asks (tokenizer : Tokenizer σ) (wildcard : Option (Strategy σ)) (token : Token) :
    Attempt σ StrategyError Value → Prop where
  | registered {strategy : Strategy σ} (named : token.key ≠ "")
      (found : tokenizer.find? token.key = some strategy) :
      Asks tokenizer wildcard token (strategy.evaluate token.arguments)
  | wildcard {strategy : Strategy σ} (named : token.key ≠ "")
      (unselected : tokenizer.Unselected token.key) (given : wildcard = some strategy) :
      Asks tokenizer wildcard token (strategy.evaluateKey token.key token.arguments)

/-- A token for which nothing is registered and no wildcard is given. -/
structure Unknown (tokenizer : Tokenizer σ) (wildcard : Option (Strategy σ)) (token : Token) :
    Prop where
  named : token.key ≠ ""
  unselected : tokenizer.Unselected token.key
  alone : wildcard = none

theorem missing_or_unknown_or_asks (tokenizer : Tokenizer σ) (wildcard : Option (Strategy σ))
    (token : Token) :
    token.key = "" ∨ tokenizer.Unknown wildcard token ∨
      ∃ attempt, tokenizer.Asks wildcard token attempt := by
  by_cases named : token.key = ""
  · exact .inl named
  · cases found : tokenizer.find? token.key with
    | some strategy => exact .inr (.inr ⟨_, .registered named found⟩)
    | none =>
      have unselected := find?_eq_none_iff.mp found
      cases wildcard with
      | none => exact .inr (.inl ⟨named, unselected, rfl⟩)
      | some strategy => exact .inr (.inr ⟨_, .wildcard named unselected rfl⟩)

theorem Unknown.resolve (unknown : tokenizer.Unknown wildcard token) (state : σ) :
    tokenizer.resolve wildcard token state = (.error .tokenUnknown, state) := by
  obtain ⟨named, unselected, rfl⟩ := unknown
  exact resolve_of_unknown named (find?_eq_none_iff.mpr unselected) state

theorem Asks.resolve {attempt : Attempt σ StrategyError Value}
    (asks : tokenizer.Asks wildcard token attempt) (state : σ) :
    tokenizer.resolve wildcard token state =
      (textAt token.path (attempt state).1, (attempt state).2) := by
  cases asks with
  | registered named found => exact resolve_of_find? named found wildcard state
  | wildcard named unselected given =>
    subst given
    exact resolve_of_wildcard named (find?_eq_none_iff.mpr unselected) _ state

private theorem Asks.named {attempt : Attempt σ StrategyError Value}
    (asks : tokenizer.Asks wildcard token attempt) : token.key ≠ "" := by
  cases asks <;> assumption

private theorem Asks.not_unknown {attempt : Attempt σ StrategyError Value}
    (asks : tokenizer.Asks wildcard token attempt) : ¬ tokenizer.Unknown wildcard token := by
  intro unknown
  cases asks with
  | registered named found => simp [find?_eq_none_iff.mpr unknown.unselected] at found
  | wildcard named unselected given => simp [unknown.alone] at given

/-! ### Evaluations that were made -/

private theorem unselected_observed {key : String} (unselected : tokenizer.Unselected key) :
    tokenizer.observed.Unselected key := by
  intro name among
  rw [observed, Dictionary.keys_map] at among
  exact unselected name among

private theorem Unknown.observed (unknown : tokenizer.Unknown wildcard token) :
    tokenizer.observed.Unknown (observeWildcard wildcard) token where
  named := unknown.named
  unselected := unselected_observed unknown.unselected
  alone := by simp [observeWildcard, unknown.alone]

/-- Resolving a token evaluates what it asks for once, and nothing else. -/
private theorem Asks.resolve_observed {attempt : Attempt σ StrategyError Value}
    (asks : tokenizer.Asks wildcard token attempt) (state : σ) :
    ∃ evaluated, tokenizer.observed.resolve (observeWildcard wildcard) token ⟨state, []⟩ =
      ((tokenizer.resolve wildcard token state).1,
        ⟨(tokenizer.resolve wildcard token state).2, [evaluated]⟩) := by
  rw [asks.resolve]
  cases asks with
  | registered named found =>
    obtain ⟨name, observed⟩ := find?_observed found
    exact ⟨_, resolve_of_find? named observed _ _⟩
  | wildcard named unselected given =>
    subst given
    have absent := find?_eq_none_iff.mpr (unselected_observed unselected)
    exact ⟨_, resolve_of_wildcard named absent _ _⟩

end Tokenizer

/-! ## What is made of an evaluation -/

/-- A resolution that only an evaluation leads to. -/
def Resolution.AfterEvaluation (resolution : Resolution) : Prop :=
  (∃ text, resolution = .ok text) ∨ (∃ error, resolution = .error (.functionException error)) ∨
    ∃ error, resolution = .error (.pathFailed error)

private theorem not_evaluated_missing : ¬ Resolution.AfterEvaluation (.error .tokenMissing) := by
  simp [Resolution.AfterEvaluation]

private theorem not_evaluated_unknown : ¬ Resolution.AfterEvaluation (.error .tokenUnknown) := by
  simp [Resolution.AfterEvaluation]

section

variable {path : List String} {result : Except StrategyError Value}

private theorem evaluated_textAt (path : List String) (result : Except StrategyError Value) :
    Resolution.AfterEvaluation (textAt path result) := by
  cases result with
  | error error => exact .inr (.inl ⟨error, rfl⟩)
  | ok value =>
    rw [textAt]
    cases value.walk path with
    | ok inner => exact .inl ⟨inner.text, rfl⟩
    | error segment => exact .inr (.inr ⟨⟨segment, path⟩, rfl⟩)

theorem textAt_eq_exception_iff {error : StrategyError} :
    textAt path result = .error (.functionException error) ↔ result = .error error := by
  cases result with
  | error other => simp [textAt]
  | ok value =>
    rw [textAt]
    cases value.walk path <;> simp

theorem textAt_eq_pathFailed_iff {error : PathError} :
    textAt path result = .error (.pathFailed error) ↔
      ∃ value, result = .ok value ∧ value.resolvePath path = .error error := by
  cases result with
  | error other => simp [textAt]
  | ok value =>
    simp only [textAt_ok, Except.ok.injEq, exists_eq_left']
    cases value.resolvePath path <;> simp [Except.map, Except.mapError]

theorem textAt_eq_ok_iff {text : String} :
    textAt path result = .ok text ↔
      ∃ value inner, result = .ok value ∧ value.resolvePath path = .ok inner ∧
        inner.text = text := by
  cases result with
  | error other => simp [textAt]
  | ok value =>
    simp only [textAt_ok, Except.ok.injEq, exists_and_left, exists_eq_left']
    cases value.resolvePath path <;> simp [Except.map, Except.mapError]

end

/-! ## The reasons -/

namespace Tokenizer

section

variable {σ : Type} {tokenizer : Tokenizer σ} {wildcard : Option (Strategy σ)} {token : Token}
  {state : σ}

private theorem Asks.evaluated {attempt : Attempt σ StrategyError Value}
    (asks : tokenizer.Asks wildcard token attempt) (state : σ) :
    Resolution.AfterEvaluation (tokenizer.resolve wildcard token state).1 := by
  rw [asks.resolve]
  exact evaluated_textAt token.path (attempt state).1

private theorem exists_asks_of_evaluated
    (evaluated : Resolution.AfterEvaluation (tokenizer.resolve wildcard token state).1) :
    ∃ attempt, tokenizer.Asks wildcard token attempt := by
  rcases tokenizer.missing_or_unknown_or_asks wildcard token with missing | unknown | asks
  · rw [resolve_of_missing missing] at evaluated
    exact absurd evaluated not_evaluated_missing
  · rw [unknown.resolve] at evaluated
    exact absurd evaluated not_evaluated_unknown
  · exact asks

theorem resolve_eq_missing_iff :
    (tokenizer.resolve wildcard token state).1 = .error .tokenMissing ↔ token.key = "" := by
  rcases tokenizer.missing_or_unknown_or_asks wildcard token with
    missing | unknown | ⟨attempt, asks⟩
  · simp [resolve_of_missing missing, missing]
  · simp [unknown.resolve, unknown.named]
  · have evaluated := asks.evaluated state
    simp only [asks.named, iff_false]
    intro fails
    rw [fails] at evaluated
    exact not_evaluated_missing evaluated

theorem resolve_eq_unknown_iff :
    (tokenizer.resolve wildcard token state).1 = .error .tokenUnknown ↔
      tokenizer.Unknown wildcard token := by
  rcases tokenizer.missing_or_unknown_or_asks wildcard token with
    missing | unknown | ⟨attempt, asks⟩
  · simp only [resolve_of_missing missing, Except.error.injEq, reduceCtorEq, false_iff]
    exact fun unknown => unknown.named missing
  · simp [unknown.resolve, unknown]
  · have evaluated := asks.evaluated state
    simp only [asks.not_unknown, iff_false]
    intro fails
    rw [fails] at evaluated
    exact not_evaluated_unknown evaluated

/-- What only an evaluation leads to holds of a resolution when it holds of what is made of the
evaluation that the token asks for. -/
theorem resolution_iff_asks {property : Resolution → Prop}
    (late : ∀ resolution, property resolution → resolution.AfterEvaluation) :
    property (tokenizer.resolve wildcard token state).1 ↔
      ∃ attempt, tokenizer.Asks wildcard token attempt ∧
        property (textAt token.path (attempt state).1) := by
  constructor
  · intro holds
    obtain ⟨attempt, asks⟩ := exists_asks_of_evaluated (late _ holds)
    rw [asks.resolve] at holds
    exact ⟨attempt, asks, holds⟩
  · rintro ⟨attempt, asks, holds⟩
    rwa [asks.resolve]

/-- Resolving a token makes one evaluation when the resolution is one that follows an evaluation,
and else none. -/
private theorem exists_made (tokenizer : Tokenizer σ) (wildcard : Option (Strategy σ))
    (token : Token)
    (state : σ) :
    let resolution : Resolution := (tokenizer.resolve wildcard token state).1
    ∃ made, tokenizer.observed.resolve (observeWildcard wildcard) token ⟨state, []⟩ =
        (resolution, ⟨(tokenizer.resolve wildcard token state).2, made⟩) ∧
      ((∃ evaluated, made = [evaluated]) ↔ resolution.AfterEvaluation) ∧
      (made = [] ↔ ¬ resolution.AfterEvaluation) := by
  intro resolution
  rcases tokenizer.missing_or_unknown_or_asks wildcard token with
    missing | unknown | ⟨attempt, asks⟩
  · refine ⟨[], ?_, ?_⟩
    · simp only [resolution, resolve_of_missing missing]
    · simp [resolution, resolve_of_missing missing, not_evaluated_missing]
  · refine ⟨[], ?_, ?_⟩
    · simp only [resolution, unknown.resolve, unknown.observed.resolve]
    · simp [resolution, unknown.resolve, not_evaluated_unknown]
  · obtain ⟨evaluated, run⟩ := asks.resolve_observed state
    exact ⟨[evaluated], run, by simp [resolution, asks.evaluated state]⟩

end

/-- The exact condition of each way in which a token resolves. -/
structure Classified {σ : Type} (tokenizer : Tokenizer σ) (wildcard : Option (Strategy σ))
    (token : Token) (state : σ) (resolution : Resolution) : Prop where
  missing : resolution = .error .tokenMissing ↔ ∃ rest, token.identifier = "." ++ rest
  unknown : resolution = .error .tokenUnknown ↔
    token.key ≠ "" ∧ tokenizer.Unselected token.key ∧ wildcard = none
  exception : ∀ error, resolution = .error (.functionException error) ↔
    ∃ attempt, tokenizer.Asks wildcard token attempt ∧ (attempt state).1 = .error error
  /-- The path is what follows the key, and the segment is the first that leads nowhere. -/
  pathFailed : ∀ error, resolution = .error (.pathFailed error) ↔
    ∃ attempt value, tokenizer.Asks wildcard token attempt ∧ (attempt state).1 = .ok value ∧
      Text.segments token.identifier = token.key :: error.path ∧
      ∃ before after, error.path = before ++ error.segment :: after ∧
        Stops value before error.segment
  resolved : ∀ text, resolution = .ok text ↔
    ∃ attempt value inner, tokenizer.Asks wildcard token attempt ∧
      (attempt state).1 = .ok value ∧ value.resolvePath token.path = .ok inner ∧ inner.text = text
  known : wildcard ≠ none → resolution ≠ .error .tokenUnknown
  evaluations : ∃ made next,
    tokenizer.observed.resolve (observeWildcard wildcard) token ⟨state, []⟩ =
        (resolution, ⟨next, made⟩) ∧
      ((∃ evaluated, made = [evaluated]) ↔ resolution.AfterEvaluation) ∧
      (made = [] ↔ ¬ resolution.AfterEvaluation)

/-- Every token of a template resolves in one of the classified ways. -/
theorem resolve_classified {σ : Type} (tokenizer : Tokenizer σ) (wildcard : Option (Strategy σ))
    {template : String} {occurrence : Occurrence} (member : occurrence ∈ scan template)
    (state : σ) :
    tokenizer.Classified wildcard occurrence.token state
      (tokenizer.resolve wildcard occurrence.token state).1 := by
  obtain ⟨word, written⟩ := exists_word_of_mem_scan member
  have nonempty : occurrence.token.identifier ≠ "" := written ▸ word.identifier_ne_empty
  refine ⟨?_, ?_, ?_, ?_, ?_, ?_, ?_⟩
  · rw [resolve_eq_missing_iff, Token.key_eq_empty_iff nonempty]
  · rw [resolve_eq_unknown_iff]
    constructor
    · rintro ⟨named, unselected, alone⟩
      exact ⟨named, unselected, alone⟩
    · rintro ⟨named, unselected, alone⟩
      exact ⟨named, unselected, alone⟩
  · intro error
    rw [resolution_iff_asks fun _ fails => .inr (.inl ⟨error, fails⟩)]
    simp only [textAt_eq_exception_iff]
  · intro error
    rw [resolution_iff_asks fun _ fails => .inr (.inr ⟨error, fails⟩)]
    simp only [textAt_eq_pathFailed_iff, Value.resolvePath_eq_error_iff, Value.walk_eq_error_iff,
      Token.segments_identifier, List.cons.injEq, true_and]
    constructor
    · rintro ⟨attempt, asks, value, evaluates, ⟨before, after, split, stops⟩, path⟩
      exact ⟨attempt, value, asks, evaluates, path.symm, before, after, path.trans split, stops⟩
    · rintro ⟨attempt, value, asks, evaluates, path, before, after, split, stops⟩
      exact ⟨attempt, asks, value, evaluates, ⟨before, after, path.trans split, stops⟩, path.symm⟩
  · intro text
    rw [resolution_iff_asks fun _ resolves => .inl ⟨text, resolves⟩]
    simp only [textAt_eq_ok_iff, exists_and_left]
  · intro given fails
    exact given (resolve_eq_unknown_iff.mp fails).alone
  · obtain ⟨made, run, evaluations⟩ := tokenizer.exists_made wildcard occurrence.token state
    exact ⟨made, _, run, evaluations⟩

/-- Two dots in a row: the empty segment between them is the one that leads nowhere, although the
value before it has a member under the segment after it. -/
theorem resolve_classified_empty_segment :
    let value : Value := .object [("x", .object [("y", .integer 1)])]
    let tokenizer : Tokenizer Unit :=
      ⟨Dictionary.ofList [("v", .constant value)], true, .sensitive⟩
    let occurrence : Occurrence := ⟨"$\x7bv.x..y\x7d", 6, 15, ⟨"v.x..y", none⟩⟩
    occurrence ∈ scan "$\x7b.v\x7d $\x7bv.x..y\x7d" ∧
      (tokenizer.resolve none occurrence.token ()).1 =
        .error (.pathFailed ⟨"", ["x", "", "y"]⟩) := by
  intro value tokenizer occurrence
  have member : occurrence ∈ scan "$\x7b.v\x7d $\x7bv.x..y\x7d" := by decide +kernel
  have key : occurrence.token.key = "v" := by decide +kernel
  have asks : tokenizer.Asks none occurrence.token ((Strategy.constant value).evaluate none) :=
    .registered (by simp [key]) (by rw [key]; rfl)
  have classified := tokenizer.resolve_classified none member ()
  refine ⟨member, (classified.pathFailed _).mpr ⟨_, value, asks, rfl, by decide +kernel, ?_⟩⟩
  exact ⟨["x"], ["y"], rfl, Value.stops_of_walk rfl rfl⟩

end Tokenizer

end Stencil
