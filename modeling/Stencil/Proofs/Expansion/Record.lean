import Mathlib.Data.List.Sort
import Stencil.Proofs.Expansion.Calls
import Stencil.Proofs.Text.ByteOrder

/-!
# The record of the last call

A session remembers the keys of the tokens that its last call met. The record is made anew by every
call, whichever way the call ends, and a key is noted before its token is resolved, so the token
that a strict expansion ends at is among them.
-/

set_option autoImplicit false

namespace Stencil

open Template

/-- A record of the tokens that were met: their keys as they are written, except the empty one, each
once and in ascending order of their UTF-8 bytes. -/
structure Records (met : List Occurrence) (record : List String) : Prop where
  ascending : record.Pairwise fun left right => Text.bytes left < Text.bytes right
  mem_iff : ∀ key, key ∈ record ↔ key ≠ "" ∧ ∃ occurrence ∈ met, occurrence.token.key = key

private theorem mem_keys_noteKey {keys : KeySet} {written key : String} :
    key ∈ (noteKey keys written).keys ↔ key ∈ keys.keys ∨ key ≠ "" ∧ written = key := by
  rw [noteKey]
  split
  case isTrue empty =>
    rw [String.isEmpty_iff] at empty
    subst empty
    constructor
    · exact .inl
    · rintro (among | ⟨named, rfl⟩)
      · exact among
      · exact absurd rfl named
  case isFalse named =>
    rw [String.isEmpty_iff] at named
    rw [Dictionary.mem_keys_iff, Dictionary.mem_keys_iff, Dictionary.contains, Dictionary.contains]
    change (Dictionary.get? (keys.insert written ()) key).isSome = true ↔ _
    rw [Dictionary.get?_insert]
    by_cases same : key = written
    · subst same
      rw [if_pos rfl]
      exact ⟨fun _ => .inr ⟨named, rfl⟩, fun _ => rfl⟩
    · rw [if_neg same]
      constructor
      · exact .inl
      · rintro (among | ⟨-, rfl⟩)
        · exact among
        · exact absurd rfl same

private theorem mem_keys_noteKeys {keys : KeySet} {met : List Occurrence} {key : String} :
    key ∈ (noteKeys keys met).keys ↔
      key ∈ keys.keys ∨ key ≠ "" ∧ ∃ occurrence ∈ met, occurrence.token.key = key := by
  induction met generalizing keys with
  | nil =>
    constructor
    · exact .inl
    · rintro (among | ⟨-, occurrence, member, -⟩)
      · exact among
      · cases member
  | cons occurrence rest ih =>
    have later : noteKeys keys (occurrence :: rest) =
        noteKeys (noteKey keys occurrence.token.key) rest := rfl
    rw [later, ih, mem_keys_noteKey, or_assoc, ← and_or_left, List.exists_mem_cons_iff]

private theorem records_noteKeys (met : List Occurrence) :
    Records met (noteKeys .empty met).keys where
  ascending := (noteKeys .empty met).ascending.imp Text.lt_iff_bytes_lt.mp
  mem_iff key := by
    rw [mem_keys_noteKeys]
    constructor
    · rintro (among | noted)
      · cases among
      · exact noted
    · exact .inr

/-- There is one record of the tokens that were met. -/
theorem Records.unique {met : List Occurrence} {record other : List String}
    (left : Records met record) (right : Records met other) : record = other := by
  have : Std.Irrefl fun left right => Text.bytes left < Text.bytes right :=
    ⟨fun key => List.lt_irrefl (Text.bytes key)⟩
  have : Std.Antisymm fun left right => Text.bytes left < Text.bytes right :=
    ⟨fun _ _ less greater => absurd greater (List.lt_asymm less)⟩
  apply left.ascending.eq_of_mem_iff right.ascending
  intro key
  rw [left.mem_iff, right.mem_iff]

private theorem Records.eq_nil {record : List String} (records : Records [] record) : record = [] :=
  records.unique (records_noteKeys [])

namespace Session

variable {σ : Type}

/-- After any history of calls the record is about the last call alone. When that call succeeds, all
tokens of its template were met, and an expansion that it returns has the same keys. When it fails,
the tokenizer is strict and the tokens up to the first that does not resolve were met. A blank
template succeeds and leaves an empty record. -/
theorem records_last_call (session : Session σ) (earlier : List (Call σ)) (last : Call σ)
    (state : σ) :
    let before := session.performAll earlier state
    let after := session.performAll (earlier ++ [last]) state
    ∃ answer, after.answers = before.answers ++ [answer] ∧
      (answer.error? = none → Records (scan last.template) after.session.previous) ∧
      (∀ expansion, answer = .expansion (.ok expansion) →
        after.session.previous = expansion.keys.keys) ∧
      (∀ error, answer.error? = some error →
        session.tokenizer.strict = true ∧ ∃ met failing rest reason next,
          scan last.template = met ++ failing :: rest ∧
            error = .tokenization failing.matched reason ∧
            session.tokenizer.FirstFailure last.wildcard before.state met failing reason next ∧
            Records (met ++ [failing]) after.session.previous) ∧
      (Text.isBlankText last.template = true →
        answer.error? = none ∧ after.session.previous = []) := by
  intro before after
  have split : after = _ := session.performAll_concat earlier last state
  rcases session.tokenizer.expand_ends last.wildcard last.template before.state with
    ⟨expansion, next, succeeds, keys⟩ |
      ⟨strict, met, failing, rest, reason, next, cut, first, fails⟩
  · simp only [before] at succeeds
    simp only [succeeds, Report.success] at split
    have records : Records (scan last.template) after.session.previous := by
      rw [split, keys]
      exact records_noteKeys _
    have answered : (last.answer (.ok expansion)).error? = none :=
      last.error?_answer_ok expansion
    refine ⟨last.answer (.ok expansion), congrArg Course.answers split, fun _ => records,
      ?_, ?_, ?_⟩
    · intro other returned
      cases Call.eq_of_answer returned
      rw [split]
    · intro error failed
      rw [answered] at failed
      cases failed
    · intro blank
      rw [scan_eq_nil_of_blank blank] at records
      exact ⟨answered, records.eq_nil⟩
  · simp only [before] at fails
    simp only [fails, Report.failure] at split
    let error := TokenError.tokenization failing.matched reason
    have answered : (last.answer (.error error)).error? = some error :=
      last.error?_answer_error error
    refine ⟨last.answer (.error error), congrArg Course.answers split, ?_, ?_, ?_, ?_⟩
    · intro succeeded
      rw [answered] at succeeded
      cases succeeded
    · intro expansion returned
      cases Call.eq_of_answer returned
    · intro other failed
      rw [answered] at failed
      cases failed
      refine ⟨strict, met, failing, rest, reason, next, cut, rfl, first, ?_⟩
      rw [split]
      exact records_noteKeys _
    · intro blank
      rw [scan_eq_nil_of_blank blank] at cut
      cases met <;> cases cut

end Session

end Stencil
