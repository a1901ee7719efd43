import Mathlib.Data.List.Induction
import Stencil.Proofs.Value.Frame
import Stencil.Proofs.Value.Walking
import Stencil.Strategy.Wildcard

/-!
# The targets of a wildcard

A wildcard tries its targets in order. The first on which the whole attempt succeeds settles it,
whatever the others hold, and when there is none the error of the last target is kept. This holds of
looking a path up and of setting it, and a value that was set is found again: the targets that
refused it do not have the path.
-/

set_option autoImplicit false

namespace Stencil.Wildcard

/-! ## Attempts -/

section Attempts

variable {α : Type}

/-- Tries targets in order. Gives the targets before the first on which an attempt succeeds, the
result of the attempt and the targets after it, or else the error of the last. -/
def tryTargets (attempt : Value → Except PathError α) (last : Option PathError) :
    List Value → Except (Option PathError) (List Value × α × List Value)
  | [] => .error last
  | target :: rest =>
    match attempt target with
    | .ok result => .ok ([], result, rest)
    | .error error =>
      (tryTargets attempt (some error) rest).map fun found => (target :: found.1, found.2)

/-- Of the targets, the first on which an attempt succeeds. -/
structure Chosen (attempt : Value → Except PathError α) (targets before : List Value)
    (target : Value) (after : List Value) (result : α) : Prop where
  split : targets = before ++ target :: after
  fail : ∀ earlier ∈ before, ∃ error, attempt earlier = .error error
  succeeds : attempt target = .ok result

/-- The attempt fails on every target. The error of the last is kept; without targets there is
none. -/
inductive Missed (attempt : Value → Except PathError α) : List Value → Option PathError → Prop where
  | none : Missed attempt [] none
  | last {earlier : List Value} {final : Value} {error : PathError}
      (fail : ∀ target ∈ earlier, ∃ error, attempt target = .error error)
      (fails : attempt final = .error error) : Missed attempt (earlier ++ [final]) (some error)

variable {attempt : Value → Except PathError α} {targets before after : List Value}
  {target : Value} {result : α} {last : Option PathError}

private theorem Missed.fail (missed : Missed attempt targets last) :
    ∀ target ∈ targets, ∃ error, attempt target = .error error := by
  intro target member
  cases missed with
  | none => cases member
  | last fail fails =>
    rcases List.mem_append.mp member with earlier | final
    · exact fail target earlier
    · obtain rfl := List.mem_singleton.mp final
      exact ⟨_, fails⟩

private theorem Missed.eq_none (missed : Missed attempt targets last) (empty : targets = []) :
    last = Option.none := by
  cases missed with
  | none => rfl
  | last => exact absurd empty (List.append_ne_nil_of_right_ne_nil _ (List.cons_ne_nil _ _))

private theorem Chosen.append (chosen : Chosen attempt targets before target after result)
    (more : List Value) :
    Chosen attempt (targets ++ more) before target (after ++ more) result where
  split := by rw [chosen.split, List.append_assoc, List.cons_append]
  fail := chosen.fail
  succeeds := chosen.succeeds

theorem chosen_or_missed (attempt : Value → Except PathError α) (targets : List Value) :
    (∃ before target after result, Chosen attempt targets before target after result) ∨
      ∃ last, Missed attempt targets last := by
  induction targets using List.reverseRecOn with
  | nil => exact .inr ⟨none, .none⟩
  | append_singleton earlier final ih =>
    rcases ih with ⟨before, target, after, result, chosen⟩ | ⟨last, missed⟩
    · exact .inl ⟨before, target, after ++ [final], result, chosen.append [final]⟩
    · cases tried : attempt final with
      | ok result => exact .inl ⟨earlier, final, [], result, rfl, missed.fail, tried⟩
      | error error => exact .inr ⟨some error, .last missed.fail tried⟩

theorem Chosen.member (chosen : Chosen attempt targets before target after result) :
    target ∈ targets := by
  rw [chosen.split]
  exact List.mem_append_right before List.mem_cons_self

private theorem exists_chosen
    (succeeds : ∃ target ∈ targets, ∃ result, attempt target = .ok result) :
    ∃ before target after result, Chosen attempt targets before target after result := by
  rcases chosen_or_missed attempt targets with chosen | ⟨last, missed⟩
  · exact chosen
  · obtain ⟨target, member, result, succeeds⟩ := succeeds
    obtain ⟨error, fails⟩ := missed.fail target member
    rw [succeeds] at fails
    cases fails

private theorem exists_missed (fail : ∀ target ∈ targets, ∃ error, attempt target = .error error) :
    ∃ last, Missed attempt targets last := by
  rcases chosen_or_missed attempt targets with ⟨before, target, after, result, chosen⟩ | missed
  · obtain ⟨error, fails⟩ := fail target chosen.member
    rw [chosen.succeeds] at fails
    cases fails
  · exact missed

/-- Targets on which the attempt fails are passed over, and only the error that is kept changes. -/
private theorem exists_tryTargets_append
    (fail : ∀ earlier ∈ before, ∃ error, attempt earlier = .error error)
    (last : Option PathError) (rest : List Value) :
    ∃ kept, tryTargets attempt last (before ++ rest) =
      (tryTargets attempt kept rest).map fun found => (before ++ found.1, found.2) := by
  induction before generalizing last with
  | nil =>
    refine ⟨last, ?_⟩
    rw [List.nil_append]
    cases tryTargets attempt last rest <;> rfl
  | cons first others ih =>
    obtain ⟨⟨error, fails⟩, fail⟩ := List.forall_mem_cons.mp fail
    obtain ⟨kept, passes⟩ := ih fail (some error)
    refine ⟨kept, ?_⟩
    rw [List.cons_append, tryTargets, fails]
    simp only [passes]
    cases tryTargets attempt kept rest <;> rfl

private theorem tryTargets_of_chosen (chosen : Chosen attempt targets before target after result) :
    tryTargets attempt none targets = .ok (before, result, after) := by
  obtain ⟨kept, passes⟩ := exists_tryTargets_append chosen.fail none (target :: after)
  rw [chosen.split, passes, tryTargets, chosen.succeeds]
  simp only [Except.map, List.append_nil]

private theorem tryTargets_of_missed (missed : Missed attempt targets last) :
    tryTargets attempt none targets = .error last := by
  cases missed with
  | none => rfl
  | @last earlier final error fail fails =>
    obtain ⟨kept, passes⟩ := exists_tryTargets_append fail none [final]
    rw [passes, tryTargets, fails]
    rfl

end Attempts

/-! ## Looking up -/

variable {targets before after : List Value} {target value changed : Value}
  {last : Option PathError} {segments : List String} {wildcard : Wildcard} {path : String}

private theorem firstMatch_eq (segments : List String) (last : Option PathError)
    (targets : List Value) :
    firstMatch segments last targets =
      (tryTargets (·.resolvePath segments) last targets).map fun found => found.2.1 := by
  induction targets generalizing last with
  | nil => rfl
  | cons target rest ih =>
    rw [firstMatch, tryTargets]
    cases target.resolvePath segments with
    | ok value => rfl
    | error error =>
      simp only [ih]
      cases tryTargets (·.resolvePath segments) (some error) rest <;> rfl

theorem lookup_of_chosen
    (chosen : Chosen (·.resolvePath (Text.segments path)) targets before target after value)
    (strict : Bool) : lookup ⟨targets, strict⟩ path = .ok (some value) := by
  rw [lookup, firstMatch_eq, tryTargets_of_chosen chosen]
  rfl

theorem lookup_of_missed
    (missed : Missed (·.resolvePath (Text.segments path)) targets last) (strict : Bool) :
    lookup ⟨targets, strict⟩ path =
      if strict then .error (.wildcard .lookup path last) else .ok none := by
  rw [lookup, firstMatch_eq, tryTargets_of_missed missed]
  rfl

theorem lookup_eq_some_iff :
    wildcard.lookup path = .ok (some value) ↔
      ∃ before target after,
        Chosen (·.resolvePath (Text.segments path)) wildcard.targets before target after value := by
  constructor
  · intro found
    rcases chosen_or_missed (·.resolvePath (Text.segments path)) wildcard.targets with
      ⟨before, target, after, result, chosen⟩ | ⟨last, missed⟩
    · have same := (lookup_of_chosen chosen wildcard.strict).symm.trans found
      cases same
      exact ⟨before, target, after, chosen⟩
    · have same := (lookup_of_missed missed wildcard.strict).symm.trans found
      split at same <;> cases same
  · intro first
    obtain ⟨before, target, after, chosen⟩ := first
    exact lookup_of_chosen chosen wildcard.strict

/-- A path that some target has is looked up in the first of those, however strict the wildcard is
and whatever is pushed after; as a strategy the wildcard then gives what it found, also null. A path
that no target has is a miss: none and null, or strictly the error of the last target. So only what
no target has depends on the mode. -/
theorem lookup_first {σ : Type} (wildcard : Wildcard) (path : String) (arguments : Arguments)
    (state : σ) :
    let attempt := fun target : Value => target.resolvePath (Text.segments path)
    ((∃ target ∈ wildcard.targets, ∃ value, attempt target = .ok value) →
      ∃ before target after value, Chosen attempt wildcard.targets before target after value ∧
        ∀ strict pushed,
          let same : Wildcard := ⟨wildcard.targets ++ pushed, strict⟩
          same.lookup path = .ok (some value) ∧
            same.strategy.evaluateKey path arguments state = (.ok value, state)) ∧
    ((∀ target ∈ wildcard.targets, ∃ error, attempt target = .error error) →
      ∃ last, Missed attempt wildcard.targets last ∧
        ∀ strict,
          let same : Wildcard := ⟨wildcard.targets, strict⟩
          let error := StrategyError.wildcard .lookup path last
          error.cause? = last.map PathError.message ∧
            same.lookup path = (if strict then .error error else .ok none) ∧
            same.strategy.evaluateKey path arguments state =
              (if strict then .error error else .ok .null, state)) ∧
    (∀ value, wildcard.lookup path = .ok (some value) →
      ∀ target, (wildcard.push target).lookup path = .ok (some value)) ∧
    (lookup ⟨wildcard.targets, true⟩ path ≠ lookup ⟨wildcard.targets, false⟩ path ↔
      ∀ target ∈ wildcard.targets, ∃ error, attempt target = .error error) := by
  intro attempt
  refine ⟨?_, ?_, ?_, ?_⟩
  · intro succeeds
    obtain ⟨before, target, after, value, chosen⟩ := exists_chosen succeeds
    refine ⟨before, target, after, value, chosen, fun strict pushed => ?_⟩
    intro same
    have found : same.lookup path = .ok (some value) :=
      lookup_of_chosen (chosen.append pushed) strict
    refine ⟨found, ?_⟩
    simp only [strategy, found]
    rfl
  · intro fail
    obtain ⟨last, missed⟩ := exists_missed fail
    refine ⟨last, missed, fun strict => ?_⟩
    intro same error
    have found : same.lookup path = if strict then .error error else .ok none :=
      lookup_of_missed missed strict
    refine ⟨rfl, found, ?_⟩
    simp only [strategy, found]
    cases strict <;> rfl
  · intro value found target
    obtain ⟨before, holder, after, chosen⟩ := lookup_eq_some_iff.mp found
    exact lookup_of_chosen (chosen.append [target]) wildcard.strict
  · constructor
    · intro differ
      rcases chosen_or_missed attempt wildcard.targets with
        ⟨before, target, after, value, chosen⟩ | ⟨last, missed⟩
      · refine absurd ?_ differ
        rw [lookup_of_chosen chosen, lookup_of_chosen chosen]
      · exact missed.fail
    · intro fail
      obtain ⟨last, missed⟩ := exists_missed fail
      rw [lookup_of_missed missed, lookup_of_missed missed]
      exact nofun

/-! ## Setting -/

private theorem firstAssigned_eq (segments : List String) (value : Value) (last : Option PathError)
    (targets : List Value) :
    firstAssigned segments value last targets =
      (tryTargets (·.assignPath segments value) last targets).map
        fun found => found.1 ++ found.2.1 :: found.2.2 := by
  induction targets generalizing last with
  | nil => rfl
  | cons target rest ih =>
    rw [firstAssigned, tryTargets]
    cases target.assignPath segments value with
    | ok changed => rfl
    | error error =>
      simp only [ih]
      cases tryTargets (·.assignPath segments value) (some error) rest <;> rfl

theorem set_of_chosen
    (chosen : Chosen (·.assignPath (Text.segments path) value) targets before target after changed)
    (strict : Bool) :
    set ⟨targets, strict⟩ path value = (.ok true, ⟨before ++ changed :: after, strict⟩) := by
  rw [set, firstAssigned_eq, tryTargets_of_chosen chosen]
  rfl

theorem set_of_missed
    (missed : Missed (·.assignPath (Text.segments path) value) targets last) (strict : Bool) :
    set ⟨targets, strict⟩ path value =
      (if strict then .error (.wildcard .set path last) else .ok false, ⟨targets, strict⟩) := by
  rw [set, firstAssigned_eq, tryTargets_of_missed missed]
  rfl

theorem set_ok_iff :
    (wildcard.set path value).1 = .ok true ↔
      ∃ before target after changed, Chosen (·.assignPath (Text.segments path) value)
        wildcard.targets before target after changed := by
  constructor
  · intro succeeds
    rcases chosen_or_missed (·.assignPath (Text.segments path) value) wildcard.targets with
      chosen | ⟨last, missed⟩
    · exact chosen
    · have whole := set_of_missed missed wildcard.strict
      have other := (congrArg Prod.fst whole).symm.trans succeeds
      cases mode : wildcard.strict <;> rw [mode] at other <;> cases other
  · intro first
    obtain ⟨before, target, after, changed, chosen⟩ := first
    exact congrArg Prod.fst (set_of_chosen chosen wildcard.strict)

/-- The mode has no part in what becomes of the targets. -/
theorem set_mode (targets : List Value) (strict other : Bool) (path : String) (value : Value) :
    (set ⟨targets, strict⟩ path value).2 =
      ⟨(set ⟨targets, other⟩ path value).2.targets, strict⟩ := by
  rcases chosen_or_missed (·.assignPath (Text.segments path) value) targets with
    ⟨before, target, after, changed, chosen⟩ | ⟨last, missed⟩
  · rw [set_of_chosen chosen, set_of_chosen chosen]
  · rw [set_of_missed missed, set_of_missed missed]

/-- The target that took a value is the first to have its path. -/
private theorem Chosen.resolves
    (chosen : Chosen (·.assignPath segments value) targets before target after changed) :
    Chosen (·.resolvePath segments) (before ++ changed :: after) before changed after value where
  split := rfl
  fail := by
    intro earlier member
    obtain ⟨error, refuses⟩ := chosen.fail earlier member
    obtain ⟨blamed, fails⟩ := Value.exists_walk_error_of_assign
      (Value.assignPath_eq_ok_iff.mp chosen.succeeds) (Value.assignPath_eq_error_iff.mp refuses).1
    exact ⟨⟨blamed, segments⟩, Value.resolvePath_eq_error_iff.mpr ⟨fails, rfl⟩⟩
  succeeds :=
    Value.resolvePath_eq_ok_iff.mpr (Value.assignPath_eq_ok_iff.mp chosen.succeeds).walk_eq

/-! ### Setting in place -/

/-- Tries to write a value into each target in turn, as far as the first that takes it, and gives
the targets as they are then. -/
def writeTargets (segments : List String) (value : Value) (last : Option PathError) :
    List Value → Except (Option PathError) Unit × List Value
  | [] => (.error last, [])
  | target :: rest =>
    match target.assignInPlace segments value with
    | (.ok (), after) => (.ok (), after :: rest)
    | (.error error, after) =>
      let written := writeTargets segments value (some error) rest
      (written.1, after :: written.2)

def setInPlace (wildcard : Wildcard) (path : String) (value : Value) :
    Except StrategyError Bool × Wildcard :=
  let written := writeTargets (Text.segments path) value none wildcard.targets
  let outcome :=
    match written.1 with
    | .ok () => .ok true
    | .error last => if wildcard.strict then .error (.wildcard .set path last) else .ok false
  (outcome, { wildcard with targets := written.2 })

private theorem writeTargets_eq (segments : List String) (value : Value) (last : Option PathError)
    (targets : List Value) :
    writeTargets segments value last targets =
      match firstAssigned segments value last targets with
      | .ok changed => (.ok (), changed)
      | .error kept => (.error kept, targets) := by
  induction targets generalizing last with
  | nil => rfl
  | cons target rest ih =>
    rw [writeTargets, firstAssigned, Value.assignInPlace_eq]
    cases target.assignPath segments value with
    | ok changed => rfl
    | error error =>
      simp only [ih]
      cases firstAssigned segments value (some error) rest <;> rfl

/-- Writings that fail leave nothing behind in the targets. -/
theorem setInPlace_eq (wildcard : Wildcard) (path : String) (value : Value) :
    wildcard.setInPlace path value = wildcard.set path value := by
  rw [setInPlace, set, writeTargets_eq]
  cases firstAssigned (Text.segments path) value none wildcard.targets <;> rfl

/-- A value goes to the first target that takes it, which leaves the others alone, and is then what
the path leads to. When no target takes it nothing has changed, which is an error with that of the
last target when the wildcard is strict. The mode decides nothing else. -/
theorem set_lookup (wildcard : Wildcard) (path : String) (value : Value) :
    let attempt := fun target : Value => target.assignPath (Text.segments path) value
    let ended := wildcard.setInPlace path value
    ended = wildcard.set path value ∧
    (ended.1 = .ok true ↔ ∃ target ∈ wildcard.targets, ∃ changed, attempt target = .ok changed) ∧
    (ended.1 = .ok true →
      ended.2.lookup path = .ok (some value) ∧
        ∃ before target after changed, Chosen attempt wildcard.targets before target after changed ∧
          ended.2 = ⟨before ++ changed :: after, wildcard.strict⟩) ∧
    (ended.1 ≠ .ok true →
      ended.2 = wildcard ∧
        ∃ last, Missed attempt wildcard.targets last ∧
          let error := StrategyError.wildcard .set path last
          ended.1 = (if wildcard.strict then .error error else .ok false) ∧
            error.cause? = last.map PathError.message ∧
            (wildcard.targets = [] →
              error.message = "wildcard set of '" ++ path ++ "' failed: no targets")) ∧
    ∀ strict,
      let other := setInPlace ⟨wildcard.targets, strict⟩ path value
      (other.1 = .ok true ↔ ended.1 = .ok true) ∧ other.2 = ⟨ended.2.targets, strict⟩ := by
  intro attempt ended
  have inPlace : ended = wildcard.set path value := wildcard.setInPlace_eq path value
  refine ⟨inPlace, ?_, ?_, ?_, ?_⟩
  · rw [inPlace, set_ok_iff]
    constructor
    · intro first
      obtain ⟨before, target, after, changed, chosen⟩ := first
      exact ⟨target, chosen.member, changed, chosen.succeeds⟩
    · exact exists_chosen
  · intro succeeds
    rw [inPlace] at succeeds ⊢
    obtain ⟨before, target, after, changed, chosen⟩ := set_ok_iff.mp succeeds
    have whole : wildcard.set path value =
        (.ok true, ⟨before ++ changed :: after, wildcard.strict⟩) :=
      set_of_chosen chosen wildcard.strict
    rw [whole]
    exact ⟨lookup_of_chosen chosen.resolves wildcard.strict, before, target, after, changed, chosen,
      rfl⟩
  · intro fails
    rw [inPlace] at fails ⊢
    obtain ⟨last, missed⟩ : ∃ last, Missed attempt wildcard.targets last :=
      (chosen_or_missed attempt wildcard.targets).resolve_left fun first =>
        fails (set_ok_iff.mpr first)
    have whole : wildcard.set path value =
        (if wildcard.strict then .error (.wildcard .set path last) else .ok false, wildcard) :=
      set_of_missed missed wildcard.strict
    rw [whole]
    refine ⟨rfl, last, missed, rfl, rfl, fun empty => ?_⟩
    have joined : "wildcard " ++ "set" ++ " of '" = "wildcard set of '" := by decide
    rw [missed.eq_none empty, ← joined]
    rfl
  · intro strict other
    have elsewhere : other = set ⟨wildcard.targets, strict⟩ path value :=
      setInPlace_eq ⟨wildcard.targets, strict⟩ path value
    rw [inPlace, elsewhere, set_ok_iff, set_ok_iff]
    exact ⟨Iff.rfl, set_mode wildcard.targets strict wildcard.strict path value⟩

end Stencil.Wildcard
