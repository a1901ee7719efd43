import Stencil.Proofs.Expansion.Modes

/-!
# Histories of calls

The calls that one session answers one after another, whichever way each of them asks for its
template. Strategies share one state, so a call starts from the state that the calls before it left.
Each ends in one of two ways: with an expansion that met every token, or at the first token that
does not resolve, which only a strict tokenizer lets happen.
-/

set_option autoImplicit false

namespace Stencil

open Template

namespace Session

variable {σ : Type}

inductive Call (σ : Type) where
  | expand (template : String) (wildcard : Option (Strategy σ))
  | expandTokensWith (template : String) (wildcard : Option (Strategy σ))
  | expandTokens (template : String)

inductive Answer where
  | expansion (result : Except TokenError Expansion)
  | output (result : Except TokenError String)

namespace Call

def template : Call σ → String
  | expand template _ | expandTokensWith template _ | expandTokens template => template

def wildcard : Call σ → Option (Strategy σ)
  | expand _ wildcard | expandTokensWith _ wildcard => wildcard
  | expandTokens _ => none

/-- What a call answers when its template expands with a result. -/
def answer (call : Call σ) (result : Except TokenError Expansion) : Answer :=
  match call with
  | expand .. => .expansion result
  | expandTokensWith .. | expandTokens _ => .output (result.map Expansion.output)

end Call

def Answer.error? : Answer → Option TokenError
  | expansion (.error error) | output (.error error) => some error
  | expansion (.ok _) | output (.ok _) => none

theorem Call.error?_answer_ok (call : Call σ) (expansion : Expansion) :
    (call.answer (.ok expansion)).error? = none := by
  cases call <;> rfl

theorem Call.error?_answer_error (call : Call σ) (error : TokenError) :
    (call.answer (.error error)).error? = some error := by
  cases call <;> rfl

/-- Only a call for the whole expansion answers with one. -/
theorem Call.eq_of_answer {call : Call σ} {result returned : Except TokenError Expansion}
    (answers : call.answer result = .expansion returned) : returned = result := by
  cases call with
  | expand template wildcard =>
    cases answers
    rfl
  | expandTokensWith template wildcard => cases answers
  | expandTokens template => cases answers

/-! ## Performing calls -/

/-- What calls leave: their answers, the session and the state of the strategies. -/
structure Course (σ : Type) where
  answers : List Answer
  session : Session σ
  state : σ

def perform (session : Session σ) (call : Call σ) (state : σ) : (Answer × Session σ) × σ :=
  match call with
  | .expand template wildcard =>
    let ((result, session), next) := session.expand wildcard template state
    ((.expansion result, session), next)
  | .expandTokensWith template wildcard =>
    let ((result, session), next) := session.expandTokensWith template wildcard state
    ((.output result, session), next)
  | .expandTokens template =>
    let ((result, session), next) := session.expandTokens template state
    ((.output result, session), next)

def performAll (session : Session σ) (calls : List (Call σ)) (state : σ) : Course σ :=
  match calls with
  | [] => ⟨[], session, state⟩
  | call :: rest =>
    let ((answer, session), next) := session.perform call state
    let course := session.performAll rest next
    { course with answers := answer :: course.answers }

/-- Every call is an expansion whose keys become the record. -/
private theorem perform_eq (session : Session σ) (call : Call σ) (state : σ) :
    session.perform call state =
      let (report, next) := session.tokenizer.expand call.wildcard call.template state
      ((call.answer report.result, { session with previous := report.keys.keys }), next) := by
  cases call <;> rfl

theorem performAll_cons (session : Session σ) (call : Call σ) (rest : List (Call σ)) (state : σ) :
    session.performAll (call :: rest) state =
      let ended := session.tokenizer.expand call.wildcard call.template state
      let course := performAll ⟨session.tokenizer, ended.1.keys.keys⟩ rest ended.2
      { course with answers := call.answer ended.1.result :: course.answers } := by
  simp only [performAll, perform_eq]

theorem tokenizer_performAll (session : Session σ) (calls : List (Call σ)) (state : σ) :
    (session.performAll calls state).session.tokenizer = session.tokenizer := by
  induction calls generalizing session state with
  | nil => rfl
  | cons call rest ih =>
    rw [performAll_cons]
    exact ih _ _

theorem performAll_append (session : Session σ) (earlier later : List (Call σ)) (state : σ) :
    session.performAll (earlier ++ later) state =
      let before := session.performAll earlier state
      let after := before.session.performAll later before.state
      { after with answers := before.answers ++ after.answers } := by
  induction earlier generalizing session state with
  | nil => rfl
  | cons call rest ih =>
    simp only [List.cons_append, performAll, ih]

/-- A call after others expands its template from the state that they left. Nothing else that they
left matters to it. -/
theorem performAll_concat (session : Session σ) (earlier : List (Call σ)) (last : Call σ)
    (state : σ) :
    let before := session.performAll earlier state
    let ended := session.tokenizer.expand last.wildcard last.template before.state
    session.performAll (earlier ++ [last]) state =
      ⟨before.answers ++ [last.answer ended.1.result], ⟨session.tokenizer, ended.1.keys.keys⟩,
        ended.2⟩ := by
  intro before ended
  have same : before.session.tokenizer = session.tokenizer :=
    session.tokenizer_performAll earlier state
  have alone : before.session.performAll [last] before.state =
      ⟨[last.answer ended.1.result], ⟨session.tokenizer, ended.1.keys.keys⟩, ended.2⟩ := by
    rw [performAll_cons, same]
    rfl
  rw [performAll_append]
  simp only [before, alone]

end Session

/-! ## How an expansion ends -/

namespace Tokenizer

variable {σ : Type} (tokenizer : Tokenizer σ) (wildcard : Option (Strategy σ))

private theorem withMode_eq_self {strict : Bool} (mode : tokenizer.strict = strict) :
    tokenizer.withMode strict = tokenizer := by
  cases mode
  rfl

/-- An expansion succeeds and notes the keys of all tokens, or it is strict and ends at the first
token that does not resolve, whose key is the last that it notes. -/
theorem expand_ends (template : String) (state : σ) :
    (∃ expansion next,
        tokenizer.expand wildcard template state = (.success expansion, next) ∧
          expansion.keys = noteKeys .empty (scan template)) ∨
      (tokenizer.strict = true ∧ ∃ before failing after reason next,
        scan template = before ++ failing :: after ∧
          tokenizer.FirstFailure wildcard state before failing reason next ∧
          tokenizer.expand wildcard template state =
            (.failure failing.matched reason (noteKeys .empty (before ++ [failing])), next)) := by
  cases mode : tokenizer.strict with
  | false =>
    have whole := tokenizer.expand_of_loose wildcard mode template state
    exact .inl ⟨_, _, whole, rfl⟩
  | true =>
    have runs := tokenizer.expandPieces_of_strict wildcard (pieces template.toList) 0 .empty state
    rw [tokenizer.withMode_eq_self mode, ← expand_eq_expandPieces, ← expand_eq_expandPieces] at runs
    rcases runs with ⟨-, agree⟩ | failed
    · have whole := (tokenizer.withMode false).expand_of_loose wildcard rfl template state
      exact .inl ⟨_, _, agree.trans whole, rfl⟩
    · exact .inr ⟨rfl, failed⟩

end Tokenizer

end Stencil
