import Stencil.Proofs.Template.Scanning
import Stencil.Proofs.Text.Pair

/-!
# Scanning what was written

Templates are written from plain texts and tokens, with any blanks where the grammar has a place for
them. In an argument each back-tick is written `\'`. Scanning what was written finds the tokens
where they were written, provided that no plain text holds a `$` and no argument a `\'` of its own.
-/

set_option autoImplicit false

namespace Stencil.Template

open Grammar

/-! ## Arguments -/

def escapeTick (character : Char) : List Char :=
  if character = '`' then ['\\', '\''] else [character]

/-- The text that spells an argument between two back-ticks. -/
def escape (text : List Char) : List Char :=
  text.flatMap escapeTick

/-- An argument that can be spelled: the pair which stands for a back-tick does not occur in it. -/
structure Argument where
  text : String
  unpaired : ¬ ['\\', '\''] <:+: text.toList

private theorem tick_not_mem_escape (text : List Char) : '`' ∉ escape text :=
  Text.replacement_not_mem_spellPair (by decide) (by decide) text

def Argument.quotation (argument : Argument) : Quotation :=
  ⟨escape argument.text.toList, tick_not_mem_escape _⟩

private theorem replacePair_escape {text : List Char} (unpaired : ¬ ['\\', '\''] <:+: text) :
    Text.replacePair '\\' '\'' '`' (escape text) = text :=
  Text.replacePair_spellPair unpaired fun doubled => absurd doubled (by decide)

-- A lone backslash right before a back-tick comes back as it was.
example : Text.replacePair '\\' '\'' '`' (escape ['\\', '`']) = ['\\', '`'] := by decide

theorem Argument.meaning_quotation (argument : Argument) :
    argument.quotation.meaning = argument.text := by
  rw [Quotation.meaning, unescape, Argument.quotation, replacePair_escape argument.unpaired,
    String.ofList_toList]

/-! ## Templates -/

/-- What a template is written from. -/
inductive Part where
  | plain (text : String) (quiet : '$' ∉ text.toList)
  | token (word : Word Argument)

def Part.written : Part → String
  | plain text _ => text
  | token word => (word.map Argument.quotation).text

def render : List Part → String
  | [] => ""
  | part :: rest => part.written ++ render rest

/-- The tokens of a template where they are written, the first part at `offset`. -/
def located (offset : Nat) : List Part → List Occurrence
  | [] => []
  | .plain text _ :: rest => located (offset + text.utf8ByteSize) rest
  | .token word :: rest =>
    let written := (Part.token word).written
    ⟨written, offset, offset + written.utf8ByteSize, word.token Argument.text⟩ ::
      located (offset + written.utf8ByteSize) rest

def Part.pieces : Part → List Piece
  | plain text _ => text.toList.map .plain
  | token word =>
    [.token (word.map Argument.quotation).written
      ((word.map Argument.quotation).token Quotation.meaning)]

private theorem Cut.plain_append {text rest : List Char} {cut : List Piece} (quiet : '$' ∉ text)
    (cuts : Cut rest cut) : Cut (text ++ rest) (text.map .plain ++ cut) := by
  induction text with
  | nil => exact cuts
  | cons character text ih =>
    simp only [List.mem_cons, not_or] at quiet
    refine .plain ?_ (ih quiet.2)
    intro word after split
    exact quiet.1 (List.cons.inj split).1.symm

theorem cut_render (parts : List Part) :
    Cut (render parts).toList (parts.flatMap Part.pieces) := by
  induction parts with
  | nil => exact .done
  | cons part rest ih =>
    rw [render, String.toList_append, List.flatMap_cons]
    cases part with
    | plain text quiet => exact ih.plain_append quiet
    | token word =>
      rw [Part.written, Word.text, String.toList_ofList]
      exact .token (word.map Argument.quotation) ih

theorem occurrences_plain_append (text : List Char) (offset : Nat) (cut : List Piece) :
    occurrences offset (text.map .plain ++ cut) = occurrences (offset + byteLength text) cut := by
  induction text generalizing offset with
  | nil => rfl
  | cons character rest ih =>
    rw [List.map_cons, List.cons_append, occurrences, ih, byteLength, Nat.add_assoc]

private theorem occurrences_flatMap_pieces (parts : List Part) (offset : Nat) :
    occurrences offset (parts.flatMap Part.pieces) = located offset parts := by
  induction parts generalizing offset with
  | nil => rfl
  | cons part rest ih =>
    cases part with
    | plain text quiet =>
      rw [List.flatMap_cons, Part.pieces, occurrences_plain_append, ih, located, byteLength_toList]
    | token word =>
      have meaning : Quotation.meaning ∘ Argument.quotation = Argument.text :=
        funext Argument.meaning_quotation
      have bytes : byteLength (word.map Argument.quotation).written =
          (word.map Argument.quotation).text.utf8ByteSize := by
        rw [Word.text, ← byteLength_toList, String.toList_ofList]
      rw [List.flatMap_cons, Part.pieces, List.singleton_append, occurrences, ih, located,
        Word.token_map, meaning, bytes]
      rfl

/-- Scanning a template finds the tokens it was written from, where they were written. -/
theorem scan_render (parts : List Part) : scan (render parts) = located 0 parts := by
  rw [scan, ← (cut_render parts).eq_pieces, occurrences_flatMap_pieces]

end Stencil.Template
