import Stencil.Proofs.Expansion.Calls
import Stencil.Proofs.Expansion.Resolution

/-!
# Which evaluations are made

Strategies may change the state that they share, so it matters which of them are evaluated, how
often and in what order. To see that, every strategy is made to write its evaluations down beside
the state that it works on. An observed run answers as the run itself does, and what was written
down is one evaluation for each token that was visited and selects something, from left to right.
-/

set_option autoImplicit false

namespace Stencil

open Template

/-! ## Observing strategies -/

inductive Evaluator where
  | registered (name : String)
  | wildcard
deriving DecidableEq, Repr

structure Evaluated where
  evaluator : Evaluator
  /-- The key of the token, if it came along. -/
  key? : Option String
  arguments : Arguments
deriving DecidableEq, Repr

/-- A state, and the evaluations that were made on it. -/
structure Observed (σ : Type) where
  state : σ
  made : List Evaluated

section

variable {σ : Type}

def Strategy.observed (strategy : Strategy σ) (evaluator : Evaluator) : Strategy (Observed σ) where
  evaluate := fun arguments observed =>
    let (result, next) := strategy.evaluate arguments observed.state
    (result, ⟨next, observed.made ++ [⟨evaluator, none, arguments⟩]⟩)
  evaluateKey := fun key arguments observed =>
    let (result, next) := strategy.evaluateKey key arguments observed.state
    (result, ⟨next, observed.made ++ [⟨evaluator, some key, arguments⟩]⟩)

def Tokenizer.observed (tokenizer : Tokenizer σ) : Tokenizer (Observed σ) where
  strategies := tokenizer.strategies.map fun name strategy => strategy.observed (.registered name)
  strict := tokenizer.strict
  caseRule := tokenizer.caseRule

def Session.observed (session : Session σ) : Session (Observed σ) :=
  ⟨session.tokenizer.observed, session.previous⟩

def observeWildcard (wildcard : Option (Strategy σ)) : Option (Strategy (Observed σ)) :=
  wildcard.map fun strategy => strategy.observed .wildcard

def Session.Call.observed : Call σ → Call (Observed σ)
  | expand template wildcard => .expand template (observeWildcard wildcard)
  | expandTokensWith template wildcard => .expandTokensWith template (observeWildcard wildcard)
  | expandTokens template => .expandTokens template

end

/-! ## Visited tokens -/

/-- The occurrences up to the first that did not resolve, and that one. -/
def throughFailure : List (Occurrence × Resolution) → List Occurrence
  | [] => []
  | (occurrence, resolution) :: rest =>
    if resolution.failed then [occurrence] else occurrence :: throughFailure rest

namespace Tokenizer

variable {σ : Type} (tokenizer : Tokenizer σ) (wildcard : Option (Strategy σ))

/-- The occurrences that an expansion resolves: all of them, or in strict mode those through the
first that fails. -/
def visited (found : List Occurrence) (state : σ) : List Occurrence :=
  if tokenizer.strict then throughFailure (tokenizer.resolutions wildcard found state).1 else found

/-- The registered name that a key selects. -/
def name? (key : String) : Option String :=
  tokenizer.strategies.keys.find? fun name => tokenizer.caseRule.selects name key

/-- The evaluation that a token asks for: that of the registered strategy its key selects, else that
of the wildcard if there is one. A token without a key asks for none. -/
def evaluation? (token : Token) : Option Evaluated :=
  if token.key.isEmpty then none
  else
    match tokenizer.name? token.key with
    | some name => some ⟨.registered name, none, token.arguments⟩
    | none => wildcard.map fun _ => ⟨.wildcard, some token.key, token.arguments⟩

/-- The occurrences that calls visit, one call after another, each with the wildcard of its call. -/
def walk (calls : List (Session.Call σ)) (state : σ) : List (Option (Strategy σ) × Occurrence) :=
  match calls with
  | [] => []
  | call :: rest =>
    let here := tokenizer.visited call.wildcard (scan call.template) state
    here.map (call.wildcard, ·) ++
      walk rest (tokenizer.expand call.wildcard call.template state).2

/-- The evaluations that calls ask for. -/
def evaluations (calls : List (Session.Call σ)) (state : σ) : List Evaluated :=
  (tokenizer.walk calls state).filterMap fun (wildcard, occurrence) =>
    tokenizer.evaluation? wildcard occurrence.token

end Tokenizer

/-! ## One token -/

namespace Tokenizer

variable {σ : Type} {tokenizer : Tokenizer σ} (apart : tokenizer.Apart)
  (wildcard : Option (Strategy σ))

private theorem get?_of_name? {key name : String} (selected : tokenizer.name? key = some name) :
    ∃ strategy, tokenizer.strategies.get? name = some strategy :=
  Dictionary.mem_keys_iff_exists.mp (List.mem_of_find?_eq_some selected)

private theorem find?_of_no_name {key : String} (unselected : tokenizer.name? key = none) :
    tokenizer.find? key = none := by
  apply find?_eq_none_of_unselected
  intro name registered
  exact Bool.eq_false_iff.mpr (List.find?_eq_none.mp unselected name registered)

theorem name?_observed (key : String) : tokenizer.observed.name? key = tokenizer.name? key := by
  simp only [name?, observed, Dictionary.keys_map]

variable {wildcard} in
theorem evaluation?_of_missing {token : Token} (missing : token.key = "") :
    tokenizer.evaluation? wildcard token = none := by
  rw [evaluation?, if_pos (String.isEmpty_iff.mpr missing)]

variable {wildcard} in
theorem evaluation?_of_named {token : Token} (named : token.key ≠ "") :
    tokenizer.evaluation? wildcard token =
      match tokenizer.name? token.key with
      | some name => some ⟨.registered name, none, token.arguments⟩
      | none => wildcard.map fun _ => ⟨.wildcard, some token.key, token.arguments⟩ := by
  have nonempty : ¬ token.key.isEmpty = true := fun empty => named (String.isEmpty_iff.mp empty)
  rw [evaluation?, if_neg nonempty]

include apart

private theorem apart_observed : tokenizer.observed.Apart := by
  rw [Apart, observed, Dictionary.keys_map]
  exact apart

/-- An observed token resolves as the token itself, and its evaluation is written down. -/
theorem resolve_observed (token : Token) (state : σ) (made : List Evaluated) :
    tokenizer.observed.resolve (observeWildcard wildcard) token ⟨state, made⟩ =
      ((tokenizer.resolve wildcard token state).1,
        ⟨(tokenizer.resolve wildcard token state).2,
          made ++ (tokenizer.evaluation? wildcard token).toList⟩) := by
  by_cases missing : token.key = ""
  · rw [resolve_of_missing missing, resolve_of_missing missing, evaluation?_of_missing missing,
      Option.toList_none, List.append_nil]
  · rw [evaluation?_of_named missing]
    cases selected : tokenizer.name? token.key with
    | some name =>
      obtain ⟨strategy, registered⟩ := get?_of_name? selected
      have selects := List.find?_some selected
      have registeredObserved : tokenizer.observed.strategies.get? name =
          some (strategy.observed (.registered name)) := by
        rw [observed, Dictionary.get?_map, registered]
        rfl
      have found := apart.find?_of_selects registered selects
      have foundObserved := (apart_observed apart).find?_of_selects registeredObserved selects
      rw [resolve_of_find? missing found, resolve_of_find? missing foundObserved]
      rfl
    | none =>
      have absent := find?_of_no_name selected
      have absentObserved : tokenizer.observed.find? token.key = none :=
        find?_of_no_name ((name?_observed token.key).trans selected)
      cases wildcard with
      | none =>
        rw [resolve_of_unknown missing absent, observeWildcard, Option.map_none,
          resolve_of_unknown missing absentObserved, Option.map_none, Option.toList_none,
          List.append_nil]
      | some strategy =>
        rw [resolve_of_wildcard missing absent, observeWildcard, Option.map_some,
          resolve_of_wildcard missing absentObserved]
        rfl

end Tokenizer

/-! ## One template -/

namespace Tokenizer

variable {σ : Type} {tokenizer : Tokenizer σ} (apart : tokenizer.Apart)
  (wildcard : Option (Strategy σ))

theorem visited_nil (state : σ) : tokenizer.visited wildcard [] state = [] := by
  rw [visited]
  split <;> rfl

/-- Whether an expansion ends at a token: it is strict and the token does not resolve. -/
def endsAt (tokenizer : Tokenizer σ) (resolution : Resolution) : Bool :=
  tokenizer.strict && resolution.failed

private theorem visited_of_end {occurrence : Occurrence} {resolution : Resolution} {state next : σ}
    (resolves : tokenizer.resolve wildcard occurrence.token state = (resolution, next))
    (ends : tokenizer.endsAt resolution = true) (rest : List Occurrence) :
    tokenizer.visited wildcard (occurrence :: rest) state = [occurrence] := by
  obtain ⟨strict, failed⟩ := Bool.and_eq_true_iff.mp ends
  simp only [visited, strict, resolutions, resolves, throughFailure, failed, if_true]

private theorem visited_of_going {occurrence : Occurrence} {resolution : Resolution}
    {state next : σ}
    (resolves : tokenizer.resolve wildcard occurrence.token state = (resolution, next))
    (goes : tokenizer.endsAt resolution = false) (rest : List Occurrence) :
    tokenizer.visited wildcard (occurrence :: rest) state =
      occurrence :: tokenizer.visited wildcard rest next := by
  rw [visited, visited]
  cases mode : tokenizer.strict with
  | false => rfl
  | true =>
    have resolved : resolution.failed = false := by rwa [endsAt, mode, Bool.true_and] at goes
    simp only [if_true, resolutions, resolves, throughFailure, resolved, Bool.false_eq_true,
      if_false]

theorem visited_singleton (occurrence : Occurrence) (state : σ) :
    tokenizer.visited wildcard [occurrence] state = [occurrence] := by
  cases resolves : tokenizer.resolve wildcard occurrence.token state with
  | mk resolution next =>
    cases ends : tokenizer.endsAt resolution with
    | true => exact visited_of_end wildcard resolves ends []
    | false => rw [visited_of_going wildcard resolves ends, visited_nil]

private theorem mem_of_mem_throughFailure {resolved : List (Occurrence × Resolution)}
    {occurrence : Occurrence} (member : occurrence ∈ throughFailure resolved) :
    occurrence ∈ resolved.map Prod.fst := by
  induction resolved with
  | nil => cases member
  | cons entry rest ih =>
    obtain ⟨first, resolution⟩ := entry
    rw [throughFailure] at member
    split at member
    case isTrue => exact List.mem_cons.mpr (.inl (List.mem_singleton.mp member))
    case isFalse => exact List.mem_cons.mpr ((List.mem_cons.mp member).imp_right ih)

/-- Only what occurs is visited. -/
theorem mem_of_mem_visited {found : List Occurrence} {state : σ} {occurrence : Occurrence}
    (member : occurrence ∈ tokenizer.visited wildcard found state) : occurrence ∈ found := by
  rw [visited] at member
  split at member
  case isTrue =>
    have among := mem_of_mem_throughFailure member
    rwa [map_fst_resolutions] at among
  case isFalse => exact member

/-- An expansion that ends at a token reports the reason for which the token failed. -/
private theorem expandPieces_of_end {occurrence : Occurrence} {resolution : Resolution}
    {state next : σ}
    (resolves : tokenizer.resolve wildcard occurrence.token state = (resolution, next))
    (ends : tokenizer.endsAt resolution = true) (sofar : Expansion) (written : List Char)
    (rest : List Piece) :
    ∃ reason, resolution = .error reason ∧
      tokenizer.expandPieces wildcard sofar state (.token written occurrence.token :: rest) =
        (.failure (String.ofList written) reason (noteKey sofar.keys occurrence.token.key),
          next) := by
  obtain ⟨strict, failed⟩ := Bool.and_eq_true_iff.mp ends
  cases resolution with
  | ok text => cases failed
  | error reason =>
    have stops := tokenizer.expandPieces_of_failed wildcard strict resolves sofar written rest
    exact ⟨reason, rfl, stops⟩

private theorem expandPieces_of_going {occurrence : Occurrence} {resolution : Resolution}
    {state next : σ}
    (resolves : tokenizer.resolve wildcard occurrence.token state = (resolution, next))
    (goes : tokenizer.endsAt resolution = false) (sofar : Expansion) (written : List Char)
    (matched : occurrence.matched = String.ofList written) (rest : List Piece) :
    tokenizer.expandPieces wildcard sofar state (.token written occurrence.token :: rest) =
      tokenizer.expandPieces wildcard (settle sofar occurrence resolution) next rest := by
  cases resolution with
  | ok text => exact tokenizer.expandPieces_of_resolved wildcard resolves sofar written rest
  | error reason =>
    have loose : tokenizer.strict = false := by
      rwa [endsAt, Resolution.failed, Bool.and_true] at goes
    have step := tokenizer.expandPieces_token_of_loose wildcard loose sofar state occurrence written
      rest matched
    rwa [resolves] at step

theorem occurrences_token (offset : Nat) (written : List Char) (token : Token)
    (rest : List Piece) :
    ∃ occurrence : Occurrence, occurrence.token = token ∧
      occurrence.matched = String.ofList written ∧
      occurrences offset (.token written token :: rest) =
        occurrence :: occurrences occurrence.stop rest :=
  ⟨⟨String.ofList written, offset, offset + byteLength written, token⟩, rfl, rfl, rfl⟩

/-- An expansion ends in the state after the tokens that it visits. -/
private theorem state_expandPieces (cut : List Piece) (offset : Nat) (sofar : Expansion)
    (state : σ) :
    (tokenizer.expandPieces wildcard sofar state cut).2 =
      (tokenizer.resolutions wildcard
        (tokenizer.visited wildcard (occurrences offset cut) state) state).2 := by
  induction cut generalizing offset sofar state with
  | nil =>
    rw [occurrences, visited_nil]
    rfl
  | cons piece rest ih =>
    cases piece with
    | plain character => exact ih (offset + character.utf8Size) _ state
    | token written token =>
      obtain ⟨occurrence, rfl, matched, found⟩ := occurrences_token offset written token rest
      cases resolves : tokenizer.resolve wildcard occurrence.token state with
      | mk resolution next =>
        have step : ∀ later, (tokenizer.resolutions wildcard (occurrence :: later) state).2 =
            (tokenizer.resolutions wildcard later next).2 := by
          intro later
          rw [resolutions, resolves]
        cases ends : tokenizer.endsAt resolution with
        | true =>
          obtain ⟨reason, -, stops⟩ :=
            expandPieces_of_end wildcard resolves ends sofar written rest
          rw [found, visited_of_end wildcard resolves ends, step, stops]
          rfl
        | false =>
          rw [found, visited_of_going wildcard resolves ends, step,
            expandPieces_of_going wildcard resolves ends sofar written matched]
          exact ih occurrence.stop _ next

include apart

/-- Observed pieces expand as the pieces themselves, and the evaluations that the visited tokens ask
for are written down. -/
private theorem expandPieces_observed (cut : List Piece) (offset : Nat) (sofar : Expansion)
    (state : σ)
    (made : List Evaluated) :
    tokenizer.observed.expandPieces (observeWildcard wildcard) sofar ⟨state, made⟩ cut =
      ((tokenizer.expandPieces wildcard sofar state cut).1,
        ⟨(tokenizer.expandPieces wildcard sofar state cut).2,
          made ++ (tokenizer.visited wildcard (occurrences offset cut) state).filterMap
            fun occurrence => tokenizer.evaluation? wildcard occurrence.token⟩) := by
  induction cut generalizing offset sofar state made with
  | nil =>
    rw [occurrences, visited_nil, List.filterMap_nil, List.append_nil]
    rfl
  | cons piece rest ih =>
    cases piece with
    | plain character => exact ih (offset + character.utf8Size) _ state made
    | token written token =>
      obtain ⟨occurrence, rfl, matched, found⟩ := occurrences_token offset written token rest
      have observed := resolve_observed apart wildcard occurrence.token state made
      let asked := fun occurrence : Occurrence =>
        tokenizer.evaluation? wildcard occurrence.token
      have appended : ∀ later, (occurrence :: later).filterMap asked =
          (asked occurrence).toList ++ later.filterMap asked := by
        intro later
        rw [List.filterMap_cons]
        cases asked occurrence <;> rfl
      cases resolves : tokenizer.resolve wildcard occurrence.token state with
      | mk resolution next =>
        rw [resolves] at observed
        cases ends : tokenizer.endsAt resolution with
        | true =>
          obtain ⟨reason, rfl, stops⟩ :=
            expandPieces_of_end wildcard resolves ends sofar written rest
          obtain ⟨other, same, stopsObserved⟩ :=
            expandPieces_of_end _ observed ends sofar written rest
          cases same
          rw [found, visited_of_end wildcard resolves ends, appended, List.filterMap_nil,
            List.append_nil, stops, stopsObserved]
        | false =>
          rw [found, visited_of_going wildcard resolves ends, appended,
            expandPieces_of_going wildcard resolves ends sofar written matched,
            expandPieces_of_going _ observed ends sofar written matched, ih occurrence.stop,
            List.append_assoc]

theorem expand_observed (template : String) (state : σ) (made : List Evaluated) :
    tokenizer.observed.expand (observeWildcard wildcard) template ⟨state, made⟩ =
      ((tokenizer.expand wildcard template state).1,
        ⟨(tokenizer.expand wildcard template state).2,
          made ++ (tokenizer.visited wildcard (scan template) state).filterMap
            fun occurrence => tokenizer.evaluation? wildcard occurrence.token⟩) := by
  rw [expand_eq_expandPieces, expand_eq_expandPieces]
  exact expandPieces_observed apart wildcard (pieces template.toList) 0 .empty state made

end Tokenizer

/-! ## Counting strategies -/

namespace Tokenizer

variable {σ : Type} {tokenizer : Tokenizer σ} {name : String} {count : σ → Nat}

/-- A token has a key that selects a name. -/
def asksFor (tokenizer : Tokenizer σ) (name : String) (token : Token) : Bool :=
  !token.key.isEmpty && tokenizer.caseRule.selects name token.key

/-- The strategy that is registered under a name counts its evaluations, whatever they give, and no
other strategy that is registered touches the count. -/
structure Counting (tokenizer : Tokenizer σ) (name : String) (count : σ → Nat) : Prop where
  own : ∃ strategy, tokenizer.strategies.get? name = some strategy ∧
    ∀ arguments state, count (strategy.evaluate arguments state).2 = count state + 1
  others : ∀ other strategy, other ≠ name → tokenizer.strategies.get? other = some strategy →
    ∀ arguments state, count (strategy.evaluate arguments state).2 = count state

/-- A wildcard does not touch a count. -/
def Spares (wildcard : Option (Strategy σ)) (count : σ → Nat) : Prop :=
  ∀ strategy ∈ wildcard, ∀ key arguments state,
    count (strategy.evaluateKey key arguments state).2 = count state

variable (apart : tokenizer.Apart) (counting : tokenizer.Counting name count)

include apart counting

private theorem count_resolve {wildcard : Option (Strategy σ)} (spares : Spares wildcard count)
    (token : Token) (state : σ) :
    count (tokenizer.resolve wildcard token state).2 =
      count state + if tokenizer.asksFor name token then 1 else 0 := by
  by_cases missing : token.key = ""
  · have unasked : tokenizer.asksFor name token = false := by
      rw [asksFor, missing]
      rfl
    rw [resolve_of_missing missing, unasked]
    rfl
  · have asks : tokenizer.asksFor name token = tokenizer.caseRule.selects name token.key := by
      rw [asksFor, Bool.eq_false_iff.mpr fun empty => missing (String.isEmpty_iff.mp empty)]
      rfl
    rw [asks]
    obtain ⟨strategy, registered, adds⟩ := counting.own
    cases selected : tokenizer.caseRule.selects name token.key with
    | true =>
      rw [resolve_of_find? missing (apart.find?_of_selects registered selected)]
      exact adds token.arguments state
    | false =>
      cases found : tokenizer.find? token.key with
      | some other =>
        obtain ⟨second, registeredOther, selectedOther⟩ := exists_name_of_find? found
        have different : second ≠ name := by
          rintro rfl
          rw [selected] at selectedOther
          cases selectedOther
        rw [resolve_of_find? missing found]
        exact counting.others second other different registeredOther token.arguments state
      | none =>
        cases wildcard with
        | none =>
          rw [resolve_of_unknown missing found]
          rfl
        | some wildcard =>
          rw [resolve_of_wildcard missing found]
          exact spares wildcard rfl token.key token.arguments state

private theorem count_resolutions {wildcard : Option (Strategy σ)} (spares : Spares wildcard count)
    (found : List Occurrence) (state : σ) :
    count (tokenizer.resolutions wildcard found state).2 =
      count state + found.countP fun occurrence => tokenizer.asksFor name occurrence.token := by
  induction found generalizing state with
  | nil => rfl
  | cons occurrence rest ih =>
    rw [resolutions, ih, count_resolve apart counting spares, List.countP_cons]
    omega

theorem count_expand {wildcard : Option (Strategy σ)} (spares : Spares wildcard count)
    (template : String) (state : σ) :
    count (tokenizer.expand wildcard template state).2 =
      count state + (tokenizer.visited wildcard (scan template) state).countP
        fun occurrence => tokenizer.asksFor name occurrence.token := by
  rw [expand_eq_expandPieces, state_expandPieces wildcard (pieces template.toList) 0]
  exact count_resolutions apart counting spares _ state

end Tokenizer

/-! ## Histories of calls -/

namespace Session

variable {σ : Type}

private theorem Call.template_observed (call : Call σ) :
    call.observed.template = call.template := by
  cases call <;> rfl

private theorem Call.wildcard_observed (call : Call σ) :
    call.observed.wildcard = observeWildcard call.wildcard := by
  cases call <;> rfl

private theorem Call.answer_observed (call : Call σ) : call.observed.answer = call.answer := by
  cases call <;> rfl

theorem performAll_observed {session : Session σ} (apart : session.tokenizer.Apart)
    (calls : List (Call σ)) (state : σ) (made : List Evaluated) :
    session.observed.performAll (calls.map Call.observed) ⟨state, made⟩ =
      let course := session.performAll calls state
      ⟨course.answers, course.session.observed,
        ⟨course.state, made ++ session.tokenizer.evaluations calls state⟩⟩ := by
  induction calls generalizing session state made with
  | nil =>
    rw [Tokenizer.evaluations, Tokenizer.walk, List.filterMap_nil, List.append_nil]
    rfl
  | cons call rest ih =>
    let ended := session.tokenizer.expand call.wildcard call.template state
    let here := (session.tokenizer.visited call.wildcard (scan call.template) state).filterMap
      fun occurrence => session.tokenizer.evaluation? call.wildcard occurrence.token
    have evaluations : session.tokenizer.evaluations (call :: rest) state =
        here ++ session.tokenizer.evaluations rest ended.2 := by
      simp only [Tokenizer.evaluations, Tokenizer.walk, List.filterMap_append, List.filterMap_map]
      rfl
    have first : session.observed.tokenizer.expand (observeWildcard call.wildcard) call.template
        ⟨state, made⟩ = (ended.1, ⟨ended.2, made ++ here⟩) :=
      Tokenizer.expand_observed apart call.wildcard call.template state made
    have apartThere : (Session.mk session.tokenizer ended.1.keys.keys).tokenizer.Apart := apart
    have others := ih apartThere ended.2 (made ++ here)
    rw [List.map_cons, performAll_cons, performAll_cons, Call.wildcard_observed,
      Call.template_observed, Call.answer_observed, first, evaluations, ← List.append_assoc]
    exact congrArg
      (fun course : Course (Observed σ) =>
        { course with answers := call.answer ended.1.result :: course.answers }) others

theorem count_performAll {session : Session σ} {name : String} {count : σ → Nat}
    (apart : session.tokenizer.Apart) (counting : session.tokenizer.Counting name count)
    {calls : List (Call σ)} (spared : ∀ call ∈ calls, Tokenizer.Spares call.wildcard count)
    (state : σ) :
    count (session.performAll calls state).state =
      count state + (session.tokenizer.walk calls state).countP
        fun entry => session.tokenizer.asksFor name entry.2.token := by
  induction calls generalizing session state with
  | nil => rfl
  | cons call rest ih =>
    obtain ⟨here, later⟩ := List.forall_mem_cons.mp spared
    let ended := session.tokenizer.expand call.wildcard call.template state
    have apartThere : (Session.mk session.tokenizer ended.1.keys.keys).tokenizer.Apart := apart
    have others := ih apartThere counting later ended.2
    rw [performAll_cons, Tokenizer.walk, List.countP_append, List.countP_map, ← Nat.add_assoc]
    exact others.trans (congrArg (· + _) (Tokenizer.count_expand apart counting here _ _))

/-- The evaluations of a run are those that its tokens ask for, from left to right and one call
after another, where a strict expansion goes no further than the first token that fails. So a
strategy that counts its evaluations counts the tokens that select it, also those whose path then
fails. -/
theorem observed_performAll {session : Session σ} {strategies : Strategies σ} {strict : Bool}
    {caseRule : CaseRule}
    (built : Tokenizer.build strategies strict caseRule = .ok session.tokenizer)
    (calls : List (Call σ)) (state : σ) :
    let course := session.performAll calls state
    session.observed.performAll (calls.map Call.observed) ⟨state, []⟩ =
        ⟨course.answers, course.session.observed,
          ⟨course.state, session.tokenizer.evaluations calls state⟩⟩ ∧
      ∀ name count, session.tokenizer.Counting name count →
        (∀ call ∈ calls, Tokenizer.Spares call.wildcard count) →
          count course.state =
            count state + (session.tokenizer.walk calls state).countP
              fun entry => session.tokenizer.asksFor name entry.2.token := by
  intro course
  obtain ⟨-, apart⟩ := Tokenizer.eq_of_build built
  constructor
  · exact performAll_observed apart calls state []
  · intro name count counting spared
    exact count_performAll apart counting spared state

/-- A strict run whose first call ends at a path that fails: the strategy was evaluated for that
token and for none after it. -/
theorem observed_performAll_failing_path :
    let counted : Strategy Nat := ⟨fun _ count => (.ok (.string "n"), count + 1),
      fun _ _ count => (.ok .null, count)⟩
    let wildcard : Strategy Nat := .constant (.string "w")
    let tokenizer : Tokenizer Nat := ⟨Dictionary.ofList [("n", counted)], true, .insensitive⟩
    let session := Session.start tokenizer
    let calls : List (Call Nat) :=
      [.expandTokensWith "$\x7bN(`a`, `b`)\x7d $\x7bw\x7d $\x7bn.x\x7d $\x7bn\x7d" (some wildcard),
        .expandTokens "$\x7bn()\x7d"]
    Tokenizer.build tokenizer.strategies true .insensitive = .ok session.tokenizer ∧
      (session.observed.performAll (calls.map Call.observed) ⟨0, []⟩).state.made =
        [⟨.registered "n", none, some ["a", "b"]⟩, ⟨.wildcard, some "w", none⟩,
          ⟨.registered "n", none, none⟩, ⟨.registered "n", none, some []⟩] ∧
      (session.performAll calls 0).state = 3 := by
  intro counted wildcard tokenizer session calls
  have built : Tokenizer.build tokenizer.strategies true .insensitive = .ok session.tokenizer := by
    rfl
  have counting : session.tokenizer.Counting "n" id := by
    constructor
    · refine ⟨counted, ?_, fun _ _ => rfl⟩
      exact (Dictionary.get?_insert .empty "n" "n" counted).trans (if_pos rfl)
    · intro other strategy different registered
      have absent : session.tokenizer.strategies.get? other = none :=
        (Dictionary.get?_insert .empty "n" other counted).trans (if_neg different)
      rw [absent] at registered
      cases registered
  have spared : ∀ call ∈ calls, Tokenizer.Spares call.wildcard id := by
    intro call member strategy given key arguments count
    rcases List.mem_pair.mp member with rfl | rfl
    · cases given
      rfl
    · cases given
  obtain ⟨run, counts⟩ := observed_performAll built calls 0
  refine ⟨built, ?_, ?_⟩
  · rw [run]
    decide +kernel
  · refine (counts "n" id counting spared).trans ?_
    decide +kernel

end Session

end Stencil
