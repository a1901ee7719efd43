import Stencil.Proofs.Expansion.Reasons
import Stencil.Proofs.Template.Concatenation

/-!
# Expanding templates written one after the other

A template that leaves no token open is expanded alike whatever follows it. When the answers of the
strategies do not depend on the evaluations before them, what follows is expanded as if it stood
alone, and the two expansions are put together. A strict expansion ends with the error of the first
part that has one.
-/

set_option autoImplicit false

namespace Stencil

open Template

/-! ## Putting expansions together -/

namespace KeySet

def union (left right : KeySet) : KeySet :=
  right.keys.foldl add left

variable {left right : KeySet} {key other : String}

theorem mem_add : key ∈ (left.add other).keys ↔ key ∈ left.keys ∨ key = other :=
  Entries.mem_keys_insert

private theorem mem_foldl_add (names : List String) :
    key ∈ (names.foldl add left).keys ↔ key ∈ left.keys ∨ key ∈ names := by
  induction names generalizing left with
  | nil => simp
  | cons name rest ih =>
    simp only [List.foldl_cons, ih, mem_add, List.mem_cons]
    grind

theorem mem_union : key ∈ (left.union right).keys ↔ key ∈ left.keys ∨ key ∈ right.keys :=
  mem_foldl_add right.keys

theorem ext_mem (same : ∀ key, key ∈ left.keys ↔ key ∈ right.keys) : left = right := by
  apply Dictionary.ext_get?
  intro key
  have among : (left.get? key).isSome = true ↔ (right.get? key).isSome = true :=
    Dictionary.mem_keys_iff.symm.trans ((same key).trans Dictionary.mem_keys_iff)
  cases here : left.get? key <;> cases there : right.get? key <;> simp_all

end KeySet

namespace Expansion

/-- Two expansions one after the other. -/
def concat (first second : Expansion) : Expansion :=
  ⟨first.output ++ second.output, first.unresolved + second.unresolved,
    first.keys.union second.keys⟩

variable (first second : Expansion)

theorem concat_append (text : String) :
    first.concat (second.append text) = (first.concat second).append text := by
  simp only [concat, append, String.append_assoc]

private theorem concat_leave (written : String) :
    first.concat (second.leave written) = (first.concat second).leave written := by
  simp only [concat, leave, String.append_assoc, Nat.add_assoc]

private theorem concat_note (key : String) :
    first.concat (second.note key) = (first.concat second).note key := by
  unfold note
  split
  · rfl
  · have keys : first.keys.union (second.keys.add key) =
        (first.keys.union second.keys).add key := by
      apply KeySet.ext_mem
      intro other
      simp only [KeySet.mem_union, KeySet.mem_add]
      grind
    simp only [concat, keys]

theorem concat_empty : first.concat .empty = first := by
  have keys : first.keys.union .empty = first.keys := rfl
  simp only [concat, empty, String.append_empty, Nat.add_zero, keys]

end Expansion

namespace Report

/-- A report on what follows an expansion, as one on both. -/
def after (first : Expansion) (report : Report) : Report :=
  ⟨report.result.map first.concat, first.keys.union report.keys⟩

end Report

namespace Tokenizer

variable {σ : Type} (tokenizer : Tokenizer σ) (wildcard : Option (Strategy σ))

/-- What was expanded before stands before all that follows. -/
private theorem expandPieces_concat (first sofar : Expansion) (state : σ) (cut : List Piece) :
    tokenizer.expandPieces wildcard (first.concat sofar) state cut =
      ((tokenizer.expandPieces wildcard sofar state cut).1.after first,
        (tokenizer.expandPieces wildcard sofar state cut).2) := by
  induction cut generalizing sofar state with
  | nil => rfl
  | cons piece rest ih =>
    cases piece with
    | plain character => simp only [expandPieces, ← Expansion.concat_append, ih]
    | token written token =>
      simp only [expandPieces, ← Expansion.concat_note]
      rcases tokenizer.resolve wildcard token state with ⟨reason | text, next⟩
      · simp only
        split
        · rfl
        · simp only [← Expansion.concat_leave, ih]
      · simp only [← Expansion.concat_append, ih]

/-- More pieces are expanded after the others, unless these ended the expansion. -/
theorem expandPieces_append (cut others : List Piece) (sofar : Expansion) (state : σ) :
    (∃ expansion next,
        tokenizer.expandPieces wildcard sofar state cut = (.success expansion, next) ∧
          tokenizer.expandPieces wildcard sofar state (cut ++ others) =
            tokenizer.expandPieces wildcard expansion next others) ∨
      ∃ matched reason keys next,
        tokenizer.expandPieces wildcard sofar state cut = (.failure matched reason keys, next) ∧
          tokenizer.expandPieces wildcard sofar state (cut ++ others) =
            (.failure matched reason keys, next) := by
  induction cut generalizing sofar state with
  | nil => exact .inl ⟨sofar, state, rfl, rfl⟩
  | cons piece rest ih =>
    cases piece with
    | plain character => exact ih _ state
    | token written token =>
      simp only [List.cons_append, expandPieces]
      rcases tokenizer.resolve wildcard token state with ⟨reason | text, next⟩
      · simp only
        split
        · exact .inr ⟨_, _, _, _, rfl, rfl⟩
        · exact ih _ next
      · exact ih _ next

/-! ## Answers that do not depend on earlier evaluations -/

/-- The states that evaluations lead to. -/
inductive Reaches (tokenizer : Tokenizer σ) (wildcard : Option (Strategy σ)) (start : σ) :
    σ → Prop where
  | start : Reaches tokenizer wildcard start start
  | evaluated {state : σ} {token : Token} {attempt : Attempt σ StrategyError Value}
      (reached : Reaches tokenizer wildcard start state)
      (asks : tokenizer.Asks wildcard token attempt) :
      Reaches tokenizer wildcard start (attempt state).2

/-- After any evaluations, whatever a token asks for answers as it does at the start. -/
def Independent (tokenizer : Tokenizer σ) (wildcard : Option (Strategy σ)) (start : σ) : Prop :=
  ∀ token attempt, tokenizer.Asks wildcard token attempt →
    ∀ state, tokenizer.Reaches wildcard start state → (attempt state).1 = (attempt start).1

variable {tokenizer wildcard} {start : σ}

/-- Tokens resolve alike in all states that evaluations lead to. -/
private theorem Independent.resolveAlike (independent : tokenizer.Independent wildcard start)
    (found : List Occurrence) :
    ResolveAlike
      (fun state there =>
        tokenizer.Reaches wildcard start state ∧ tokenizer.Reaches wildcard start there)
      tokenizer tokenizer wildcard wildcard found := by
  rintro occurrence - state there ⟨reached, reachedThere⟩
  rcases tokenizer.missing_or_unknown_or_asks wildcard occurrence.token with
    missing | unknown | ⟨attempt, asks⟩
  · rw [resolve_of_missing missing, resolve_of_missing missing]
    exact ⟨rfl, reached, reachedThere⟩
  · rw [unknown.resolve, unknown.resolve]
    exact ⟨rfl, reached, reachedThere⟩
  · have answers := independent occurrence.token attempt asks
    rw [asks.resolve, asks.resolve, answers state reached, answers there reachedThere]
    exact ⟨rfl, reached.evaluated asks, reachedThere.evaluated asks⟩

private theorem Independent.expand_report (independent : tokenizer.Independent wildcard start)
    (template : String) {state : σ} (reached : tokenizer.Reaches wildcard start state) :
    (tokenizer.expand wildcard template state).1 = (tokenizer.expand wildcard template start).1 :=
  (expand_of_resolveAlike rfl (independent.resolveAlike (scan template)) ⟨reached, .start⟩).1

private theorem Independent.reaches_expand (independent : tokenizer.Independent wildcard start)
    (template : String) :
    tokenizer.Reaches wildcard start (tokenizer.expand wildcard template start).2 :=
  (expand_of_resolveAlike rfl (independent.resolveAlike (scan template)) ⟨.start, .start⟩).2.1

/-! ## Templates -/

/-- What follows a settled template is expanded as if it stood alone. -/
private theorem Independent.expand_settled (independent : tokenizer.Independent wildcard start)
    {left : String} (settled : Settled left) (right : String) :
    (∃ first, (tokenizer.expand wildcard left start).1 = .success first ∧
        (tokenizer.expand wildcard (left ++ right) start).1 =
          (tokenizer.expand wildcard right start).1.after first) ∨
      ∃ matched reason keys,
        (tokenizer.expand wildcard left start).1 = .failure matched reason keys ∧
          (tokenizer.expand wildcard (left ++ right) start).1 = .failure matched reason keys := by
  have reached := independent.reaches_expand left
  have whole := tokenizer.expand_eq_expandPieces wildcard (left ++ right) start
  rw [settled.pieces_append] at whole
  rw [tokenizer.expand_eq_expandPieces wildcard left start] at reached ⊢
  rcases tokenizer.expandPieces_append wildcard (pieces left.toList) (pieces right.toList) .empty
    start with ⟨first, next, ends, goesOn⟩ | ⟨matched, reason, keys, next, ends, stays⟩
  · refine .inl ⟨first, congrArg Prod.fst ends, ?_⟩
    rw [ends] at reached
    have others := tokenizer.expandPieces_concat wildcard first .empty next (pieces right.toList)
    rw [first.concat_empty, ← expand_eq_expandPieces, independent.expand_report right reached]
      at others
    rw [whole, goesOn, others]
  · refine .inr ⟨matched, reason, keys, congrArg Prod.fst ends, ?_⟩
    rw [whole, stays]

end Tokenizer

/-- A settled template is scanned alike whatever follows it, and what follows is scanned as if it
stood alone, only later. So where answers do not depend on earlier evaluations, a loose expansion of
both gives what each gives, put together, and a strict one fails with the error of the first part if
there is one, else with that of the second, and else puts both together as well. -/
theorem expand_append {left : String} (settled : Settled left) (right : String) :
    scan (left ++ right) =
        scan left ++ (scan right).map (Occurrence.shift left.utf8ByteSize) ∧
      ∀ {σ : Type} (tokenizer : Tokenizer σ) (wildcard : Option (Strategy σ)) (start : σ),
        tokenizer.Independent wildcard start →
          let result := fun template => (tokenizer.expand wildcard template start).1.result
          (tokenizer.strict = false → ∃ first second,
            result left = .ok first ∧ result right = .ok second ∧
              result (left ++ right) = .ok (first.concat second)) ∧
          (tokenizer.strict = true →
            (∀ error, result left = .error error → result (left ++ right) = .error error) ∧
            (∀ first error, result left = .ok first → result right = .error error →
              result (left ++ right) = .error error) ∧
            ∀ first second, result left = .ok first → result right = .ok second →
              result (left ++ right) = .ok (first.concat second)) := by
  refine ⟨settled.scan_append right, ?_⟩
  intro σ tokenizer wildcard start independent result
  have ends := independent.expand_settled settled right
  constructor
  · intro loose
    have succeeds : ∀ template,
        result template = .ok (tokenizer.looseExpansion wildcard template start).1 :=
      fun template =>
        congrArg (fun run => run.1.result) (tokenizer.expand_of_loose wildcard loose template start)
    refine ⟨_, _, succeeds left, succeeds right, ?_⟩
    rcases ends with ⟨first, ended, whole⟩ | ⟨matched, reason, keys, failed, -⟩
    · have same := succeeds left
      have other := succeeds right
      simp only [result, ended, whole, Report.success, Report.after, Except.ok.injEq]
        at same other ⊢
      rw [other, same]
      rfl
    · have impossible := succeeds left
      simp [result, failed, Report.failure] at impossible
  · intro strict
    rcases ends with ⟨expansion, ended, whole⟩ | ⟨matched, reason, keys, failed, stays⟩
    · simp only [result, ended, whole, Report.success, Report.after]
      refine ⟨?_, ?_, ?_⟩
      · intro error impossible
        cases impossible
      · intro first error _ fails
        simp [fails, Except.map]
      · intro first second same goes
        cases same
        simp [goes, Except.map]
    · simp only [result, failed, stays, Report.failure]
      refine ⟨fun _ fails => fails, ?_, ?_⟩
      · intro first error impossible
        cases impossible
      · intro first second impossible
        cases impossible

/-- The first part ends in a token and the second begins with a brace. The strategy counts its
evaluations, but its answer is always the same. -/
theorem expand_append_brace :
    let counted : Strategy Nat :=
      { evaluate := fun _ count => (.ok (.string "\x7bn\x7d"), count + 1) }
    let tokenizer : Tokenizer Nat := ⟨Dictionary.ofList [("n", counted)], false, .sensitive⟩
    let left := "é$$\x7bn\x7d"
    let right := "\x7bn\x7d$\x7bq.z\x7d$\x7bn\x7d"
    Settled left ∧ tokenizer.Independent none 0 ∧ ∃ whole,
      (tokenizer.expand none (left ++ right) 0).1.result = .ok whole ∧
        whole.output = "é$\x7bn\x7d\x7bn\x7d$\x7bq.z\x7d\x7bn\x7d" ∧ whole.unresolved = 1 ∧
        whole.keys.keys = ["n", "q"] := by
  intro counted tokenizer left right
  have settled : Settled left := by decide +kernel
  have independent : tokenizer.Independent none 0 := by
    intro token attempt asks state _
    cases asks with
    | registered _ found =>
      have only : tokenizer.find? token.key = if token.key = "n" then some counted else none :=
        Dictionary.get?_insert .empty "n" token.key counted
      rw [only] at found
      split at found
      · cases found
        rfl
      · cases found
    | wildcard _ _ given => cases given
  obtain ⟨first, second, goes, others, whole⟩ :=
    ((expand_append settled right).2 tokenizer none 0 independent).1 rfl
  refine ⟨settled, independent, _, whole, ?_⟩
  have runs := tokenizer.expand_of_loose none rfl
  simp only [runs, Report.success, Except.ok.injEq] at goes others
  rw [← goes, ← others]
  decide +kernel

end Stencil
