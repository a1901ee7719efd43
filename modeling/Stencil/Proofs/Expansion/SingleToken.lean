import Stencil.Proofs.Expansion.Modes

/-!
# Templates of one token

A template that is one token without blanks and without a call. It is replaced as a whole, or it
fails as a whole.
-/

set_option autoImplicit false

namespace Stencil

open Template Template.Grammar

namespace Template.Grammar.Name

def text (name : Name) : String :=
  String.ofList name.characters

/-- The token with this name, without blanks and without a call. -/
def word (name : Name) : Word Quotation :=
  ⟨⟨[], nofun⟩, name, ⟨[], nofun⟩, none⟩

def token (name : Name) : Token :=
  ⟨name.text, none⟩

/-- How the token with this name is written. -/
def written (name : Name) : String :=
  "$\x7b" ++ name.text ++ "\x7d"

private theorem written_eq (name : Name) : name.written = name.word.text := by
  apply String.toList_injective
  simp [written, Word.text, Word.written, Word.tail, word, text]

theorem pieces_written (name : Name) :
    pieces name.written.toList = [.token name.word.written name.token] := by
  have cut : Cut (name.word.written ++ []) [.token name.word.written name.token] :=
    .token name.word .done
  rw [List.append_nil] at cut
  rw [written_eq, Word.text, String.toList_ofList, cut.eq_pieces]

theorem key_token_ne_empty {name : Name} (starts : name.first ≠ '.') : name.token.key ≠ "" := by
  have characters : name.text.toList = name.first :: name.rest := String.toList_ofList
  rcases Text.isPlain_or_exists_head name.text with plain | ⟨head, rest, plain, split⟩
  · intro empty
    have whole : name.text = "" := by
      rw [← empty, Token.key, token, Text.segments_of_isPlain plain]
      rfl
    rw [whole] at characters
    cases characters
  · intro empty
    have first : head = "" := by
      rw [← empty, Token.key, token, split, Text.segments_append plain]
      rfl
    rw [split, first] at characters
    simp only [String.empty_append, String.toList_append] at characters
    exact starts (List.cons.inj characters).1.symm

end Template.Grammar.Name

namespace Report

/-- The only token of a template was replaced by a text. -/
def Replaced (report : Report) (text : String) : Prop :=
  ∃ expansion, report.result = .ok expansion ∧ expansion.output = text ∧ expansion.unresolved = 0

/-- The only token of a template failed: strictly that is an error, and else it stays as written. -/
def Failed (report : Report) (strict : Bool) (written : String) : Prop :=
  if strict then ∃ reason, report.result = .error (.tokenization written reason)
  else ∃ expansion, report.result = .ok expansion ∧ expansion.output = written ∧
    expansion.unresolved = 1

end Report

namespace Tokenizer

variable {σ : Type} {tokenizer : Tokenizer σ} {wildcard : Option (Strategy σ)} {name : Name}
  {state next : σ}

theorem replaced_of_resolved {text : String}
    (resolves : tokenizer.resolve wildcard name.token state = (.ok text, next)) :
    (tokenizer.expand wildcard name.written state).1.Replaced text := by
  rw [expand_eq_expandPieces, name.pieces_written, expandPieces_of_resolved _ _ resolves,
    expandPieces]
  refine ⟨_, rfl, ?_, ?_⟩
  · rw [Expansion.append, Expansion.output_note]
    exact String.empty_append
  · rw [Expansion.append, Expansion.unresolved_note]
    rfl

theorem failed_of_error {reason : FailureReason}
    (fails : tokenizer.resolve wildcard name.token state = (.error reason, next)) :
    (tokenizer.expand wildcard name.written state).1.Failed tokenizer.strict name.written := by
  rw [expand_eq_expandPieces, name.pieces_written, Report.Failed, name.written_eq]
  cases mode : tokenizer.strict with
  | true =>
    rw [if_pos rfl, expandPieces_of_failed _ _ mode fails]
    exact ⟨reason, rfl⟩
  | false =>
    rw [if_neg Bool.false_ne_true, expandPieces, fails]
    simp only [mode, Bool.false_eq_true, if_false, expandPieces]
    refine ⟨_, rfl, ?_, ?_⟩
    · rw [Expansion.leave, Expansion.output_note]
      exact String.empty_append
    · rw [Expansion.leave, Expansion.unresolved_note]
      rfl

end Tokenizer

end Stencil
