import Mathlib.Data.List.Pairwise
import Mathlib.Data.String.Basic
import Stencil.Proofs.Template.Reading
import Stencil.Template.Scan

/-!
# Scanning finds the leftmost words

A template is cut either after a word of the grammar or, where no word begins, after one character.
The judgment `Cut` says so without a reader, and the pieces of a template are its only cut. From it
follows what an occurrence is, that occurrences lie apart in ascending order, and that no word
begins outside them. These facts leave no choice: only the result of `scan` has all of them.
-/

set_option autoImplicit false

namespace Stencil.Template

open Grammar

/-! ## Bytes -/

theorem byteLength_eq_utf8Len (text : List Char) : byteLength text = String.utf8Len text := by
  induction text with
  | nil => rfl
  | cons character rest ih => rw [byteLength, String.utf8Len_cons, ih, Nat.add_comm]

theorem byteLength_append (left right : List Char) :
    byteLength (left ++ right) = byteLength left + byteLength right := by
  simp only [byteLength_eq_utf8Len, String.utf8Len_append]

theorem byteLength_toList (text : String) : byteLength text.toList = text.utf8ByteSize := by
  rw [byteLength_eq_utf8Len, String.utf8Len_toList]

theorem byteLength_pos {text : List Char} (nonempty : text ≠ []) : 0 < byteLength text := by
  cases text with
  | nil => exact absurd rfl nonempty
  | cons character rest => exact Nat.add_pos_left character.utf8Size_pos _

/-- A place in a text that is cut in two lies behind the cut or comes before it. -/
private theorem beyond_or_byteLength_lt {left right before after : List Char}
    (same : left ++ right = before ++ after) :
    (∃ beyond, before = left ++ beyond ∧ right = beyond ++ after) ∨
      byteLength before < byteLength left := by
  rcases List.append_eq_append_iff.mp same with ⟨beyond, place, tail⟩ | ⟨inside, place, tail⟩
  · exact .inl ⟨beyond, place, tail⟩
  · cases inside with
    | nil => exact .inl ⟨[], by simpa using place.symm, tail.symm⟩
    | cons head inside =>
      right
      have bytes := congrArg byteLength place
      rw [byteLength_append] at bytes
      have positive := byteLength_pos (List.cons_ne_nil head inside)
      omega

/-! ## Cutting a text -/

/-- The only way to cut a text from left to right: after each word that begins where the last piece
ended, and after one character where none does. -/
inductive Cut : List Char → List Piece → Prop where
  | done : Cut [] []
  | plain {character : Char} {rest : List Char} {pieces : List Piece} :
      (∀ (word : Word Quotation) (after : List Char), character :: rest ≠ word.written ++ after) →
      Cut rest pieces → Cut (character :: rest) (.plain character :: pieces)
  | token (word : Word Quotation) {rest : List Char} {pieces : List Piece} :
      Cut rest pieces →
      Cut (word.written ++ rest) (.token word.written (word.token Quotation.meaning) :: pieces)

private theorem take_written (word : Word Quotation) (rest : List Char) :
    (word.written ++ rest).take ((word.written ++ rest).length - rest.length) = word.written := by
  rw [List.length_append, Nat.add_sub_cancel, List.take_left]

private theorem ne_written_of_readToken? {text : List Char} (refused : readToken? text = none)
    (word : Word Quotation) (after : List Char) : text ≠ word.written ++ after := by
  rintro rfl
  rw [readToken?_append] at refused
  cases refused

theorem cut_pieces (text : List Char) : Cut text (pieces text) := by
  fun_induction pieces text with
  | case1 text token rest read ih =>
    obtain ⟨word, rfl, rfl⟩ := exists_word_of_readToken? read
    rw [take_written]
    exact .token word ih
  | case2 => exact .done
  | case3 character rest refused ih => exact .plain (ne_written_of_readToken? refused) ih

theorem Cut.eq_pieces {text : List Char} {cut : List Piece} (cuts : Cut text cut) :
    cut = pieces text := by
  induction cuts with
  | done => rw [pieces]; rfl
  | @plain character rest cut none _ ih =>
    rw [pieces]
    split
    case h_1 token after read =>
      obtain ⟨word, -, split⟩ := exists_word_of_readToken? read
      exact absurd split (none word after)
    case h_2 => rw [ih]
  | @token word rest cut _ ih =>
    rw [pieces]
    split
    case h_1 token after read =>
      rw [readToken?_append] at read
      cases read
      rw [take_written, ih]
    case h_2 refused =>
      rw [readToken?_append] at refused
      cases refused

theorem Cut.flatMap_written {text : List Char} {cut : List Piece} (cuts : Cut text cut) :
    cut.flatMap Piece.written = text := by
  induction cuts with
  | done => rfl
  | plain _ _ ih => rw [List.flatMap_cons, ih]; rfl
  | token word _ ih => rw [List.flatMap_cons, ih]; rfl

/-! ## Occurrences -/

/-- The occurrence of a word that begins at an offset. -/
def Grammar.Word.occurrence (word : Word Quotation) (offset : Nat) : Occurrence :=
  ⟨word.text, offset, offset + byteLength word.written, word.token Quotation.meaning⟩

private theorem Grammar.Word.written_ne_nil (word : Word Quotation) : word.written ≠ [] :=
  List.cons_ne_nil _ _

private theorem Grammar.Word.start_lt_stop (word : Word Quotation) (offset : Nat) :
    (word.occurrence offset).start < (word.occurrence offset).stop :=
  Nat.lt_add_of_pos_right (byteLength_pos word.written_ne_nil)

namespace Cut

variable {text : List Char} {cut : List Piece}

theorem exists_word (cuts : Cut text cut) (offset : Nat) :
    ∀ found ∈ occurrences offset cut,
      ∃ (before : List Char) (word : Word Quotation) (after : List Char),
      text = before ++ word.written ++ after ∧
        found = word.occurrence (offset + byteLength before) := by
  induction cuts generalizing offset with
  | done =>
    intro found member
    cases member
  | @plain character rest cut _ _ ih =>
    intro found member
    obtain ⟨before, word, after, rfl, rfl⟩ := ih (offset + character.utf8Size) found member
    refine ⟨character :: before, word, after, rfl, ?_⟩
    rw [byteLength, Nat.add_assoc]
  | @token first rest cut _ ih =>
    intro found member
    rcases List.mem_cons.mp member with rfl | later
    · exact ⟨[], first, rest, rfl, rfl⟩
    · obtain ⟨before, word, after, rfl, rfl⟩ := ih (offset + byteLength first.written) found later
      refine ⟨first.written ++ before, word, after, ?_, ?_⟩
      · simp only [List.append_assoc]
      · rw [byteLength_append, Nat.add_assoc]

theorem le_start (cuts : Cut text cut) (offset : Nat) :
    ∀ found ∈ occurrences offset cut, offset ≤ found.start := by
  intro found member
  obtain ⟨before, word, after, -, rfl⟩ := cuts.exists_word offset found member
  exact Nat.le_add_right offset (byteLength before)

theorem pairwise_stop_le_start (cuts : Cut text cut) (offset : Nat) :
    (occurrences offset cut).Pairwise fun left right => left.stop ≤ right.start := by
  induction cuts generalizing offset with
  | done => exact List.Pairwise.nil
  | @plain character rest cut _ _ ih => exact ih (offset + character.utf8Size)
  | @token first rest cut cuts ih =>
    exact List.Pairwise.cons (cuts.le_start _) (ih (offset + byteLength first.written))

/-- A word begins inside the range of some occurrence, wherever it stands in the text. -/
private theorem exists_occurrence (cuts : Cut text cut) (offset : Nat) {before after : List Char}
    {word : Word Quotation} (split : text = before ++ word.written ++ after) :
    ∃ found ∈ occurrences offset cut,
      found.start ≤ offset + byteLength before ∧ offset + byteLength before < found.stop := by
  induction cuts generalizing offset before with
  | done =>
    have empty := congrArg List.length split
    simp [Word.written] at empty
  | @plain character rest cut none _ ih =>
    cases before with
    | nil => exact absurd split (none word after)
    | cons head before =>
      simp only [List.cons_append, List.cons.injEq] at split
      obtain ⟨rfl, split⟩ := split
      obtain ⟨found, member, starts, stops⟩ := ih (offset + character.utf8Size) split
      refine ⟨found, member, ?_, ?_⟩ <;> rw [byteLength] <;> omega
  | @token first rest cut _ ih =>
    rw [List.append_assoc] at split
    rcases beyond_or_byteLength_lt split with ⟨beyond, rfl, tail⟩ | inside
    · rw [← List.append_assoc] at tail
      obtain ⟨found, member, starts, stops⟩ := ih (offset + byteLength first.written) tail
      rw [byteLength_append, ← Nat.add_assoc]
      exact ⟨found, List.mem_cons_of_mem _ member, starts, stops⟩
    · exact ⟨first.occurrence offset, List.mem_cons_self, Nat.le_add_right _ _,
        Nat.add_lt_add_left inside offset⟩

end Cut

theorem holdsToken_iff {text : List Char} :
    holdsToken text = true ↔
      ∃ (before : List Char) (word : Word Quotation) (after : List Char),
        text = before ++ word.written ++ after := by
  induction text with
  | nil =>
    constructor
    · intro holds
      cases holds
    · rintro ⟨before, word, after, split⟩
      simp [Word.written] at split
  | cons character rest ih =>
    simp only [holdsToken, Bool.or_eq_true]
    constructor
    · rintro (here | later)
      · obtain ⟨⟨token, after⟩, read⟩ := Option.isSome_iff_exists.mp here
        obtain ⟨word, -, split⟩ := exists_word_of_readToken? read
        exact ⟨[], word, after, split⟩
      · obtain ⟨before, word, after, rfl⟩ := ih.mp later
        exact ⟨character :: before, word, after, rfl⟩
    · rintro ⟨before, word, after, split⟩
      cases before with
      | nil =>
        left
        rw [split, List.nil_append, readToken?_append]
        rfl
      | cons head before =>
        right
        exact ih.mpr ⟨before, word, after, (List.cons.inj split).2⟩

theorem containsTokens_iff {template : String} :
    containsTokens template = true ↔ scan template ≠ [] := by
  have cuts := cut_pieces template.toList
  rw [containsTokens, holdsToken_iff, scan]
  constructor
  · rintro ⟨before, word, after, split⟩ none
    obtain ⟨found, member, -⟩ := cuts.exists_occurrence 0 split
    rw [none] at member
    cases member
  · intro some
    obtain ⟨found, member⟩ := List.exists_mem_of_ne_nil _ some
    obtain ⟨before, word, after, split, -⟩ := cuts.exists_word 0 found member
    exact ⟨before, word, after, split⟩

/-! ## What scanning means -/

/-- An occurrence reports a word that stands in a template between two other texts: where it
starts and ends in bytes, the characters it was written with, and what the word says. -/
structure Reports (template : String) (occurrence : Occurrence) (before : String)
    (word : Word Quotation) (after : String) : Prop where
  split : template = before ++ word.text ++ after
  matched : occurrence.matched = word.text
  start : occurrence.start = before.utf8ByteSize
  stop : occurrence.stop = (before ++ word.text).utf8ByteSize
  token : occurrence.token = word.token Quotation.meaning
  isCall : occurrence.token.isCall = word.call.isSome
  rejoined :
    Text.dotted (occurrence.token.key :: occurrence.token.path) = occurrence.token.identifier

/-- Occurrences are those of the leftmost words of a template that do not overlap. -/
structure Scanned (template : String) (found : List Occurrence) : Prop where
  reports : ∀ occurrence ∈ found, ∃ before word after,
    Reports template occurrence before word after
  nonempty : ∀ occurrence ∈ found, occurrence.start < occurrence.stop
  apart : found.Pairwise fun left right => left.stop ≤ right.start
  complete : ∀ (before : String) (word : Word Quotation) (after : String),
    template = before ++ word.text ++ after →
      ∃ occurrence ∈ found,
        occurrence.start ≤ before.utf8ByteSize ∧ before.utf8ByteSize < occurrence.stop

private theorem key_cons_path (token : Token) :
    token.key :: token.path = Text.segments token.identifier := by
  have nonempty : Text.segments token.identifier ≠ [] := by
    rw [Text.segments, ne_eq, List.map_eq_nil_iff]
    exact Text.splitAt_ne_nil '.' _
  obtain ⟨first, others, equal⟩ := List.exists_cons_of_ne_nil nonempty
  rw [Token.key, Token.path, equal]
  rfl

private theorem dotted_key_path (token : Token) :
    Text.dotted (token.key :: token.path) = token.identifier := by
  rw [key_cons_path, Text.dotted_segments]

theorem reports_occurrence (before : List Char) (word : Word Quotation) (after : List Char) :
    Reports (String.ofList (before ++ word.written ++ after))
      (word.occurrence (byteLength before)) (String.ofList before) word (String.ofList after) where
  split := by rw [Word.text, String.ofList_append, String.ofList_append]
  matched := rfl
  start := by rw [Word.occurrence, ← byteLength_toList, String.toList_ofList]
  stop := by
    rw [Word.occurrence, Word.text, ← byteLength_toList, String.toList_append,
      String.toList_ofList, String.toList_ofList, byteLength_append]
  token := rfl
  isCall := Option.isSome_map.trans Option.isSome_map
  rejoined := dotted_key_path _

theorem scanned_scan (template : String) : Scanned template (scan template) := by
  have cuts := cut_pieces template.toList
  refine ⟨?_, ?_, cuts.pairwise_stop_le_start 0, ?_⟩
  · intro occurrence member
    obtain ⟨before, word, after, split, rfl⟩ := cuts.exists_word 0 occurrence member
    refine ⟨String.ofList before, word, String.ofList after, ?_⟩
    rw [← String.ofList_toList (s := template), split, Nat.zero_add]
    exact reports_occurrence before word after
  · intro occurrence member
    obtain ⟨before, word, after, -, rfl⟩ := cuts.exists_word 0 occurrence member
    exact word.start_lt_stop _
  · intro before word after split
    have cut : template.toList = before.toList ++ word.written ++ after.toList := by
      rw [split, String.toList_append, String.toList_append, Word.text, String.toList_ofList]
    obtain ⟨found, member, starts, stops⟩ := cuts.exists_occurrence 0 cut
    rw [Nat.zero_add, byteLength_toList] at starts stops
    exact ⟨found, member, starts, stops⟩

/-! ## Only one list of occurrences -/

theorem written_append_inj {left right : Word Quotation} {afterLeft afterRight : List Char}
    (same : left.written ++ afterLeft = right.written ++ afterRight) :
    left.written = right.written ∧
      left.token Quotation.meaning = right.token Quotation.meaning := by
  have read := readToken?_append left afterLeft
  rw [same, readToken?_append right afterRight] at read
  simp only [Option.some.injEq, Prod.mk.injEq] at read
  obtain ⟨token, rfl⟩ := read
  exact ⟨List.append_cancel_right same, token.symm⟩

/-- Places in a text with as many bytes before them are the same place. -/
theorem append_inj_of_byteLength {before after otherBefore otherAfter : List Char}
    (same : before ++ after = otherBefore ++ otherAfter)
    (bytes : byteLength before = byteLength otherBefore) :
    before = otherBefore ∧ after = otherAfter := by
  rcases beyond_or_byteLength_lt same with ⟨beyond, rfl, rfl⟩ | shorter
  · rw [byteLength_append] at bytes
    cases beyond with
    | nil => exact ⟨(List.append_nil before).symm, rfl⟩
    | cons head beyond =>
      have positive := byteLength_pos (List.cons_ne_nil head beyond)
      omega
  · omega

section Unique

variable {template : String} {left right : Occurrence}

private theorem Reports.eq_of_start {before after otherBefore otherAfter : String}
    {word otherWord : Word Quotation} (reports : Reports template left before word after)
    (others : Reports template right otherBefore otherWord otherAfter)
    (same : left.start = right.start) : left = right := by
  have split : before.toList ++ (word.written ++ after.toList) =
      otherBefore.toList ++ (otherWord.written ++ otherAfter.toList) := by
    have equal := congrArg String.toList (reports.split.symm.trans others.split)
    simpa only [String.toList_append, Word.text, String.toList_ofList, List.append_assoc]
      using equal
  have bytes : byteLength before.toList = byteLength otherBefore.toList := by
    rw [byteLength_toList, byteLength_toList, ← reports.start, ← others.start, same]
  obtain ⟨-, rest⟩ := append_inj_of_byteLength split bytes
  obtain ⟨written, token⟩ := written_append_inj rest
  have text : word.text = otherWord.text := congrArg String.ofList written
  have matched : left.matched = right.matched := by
    rw [reports.matched, others.matched, text]
  have stop : left.stop = right.stop := by
    rw [reports.stop, others.stop, String.utf8ByteSize_append, String.utf8ByteSize_append,
      ← reports.start, ← others.start, same, text]
  have sameToken : left.token = right.token := by
    rw [reports.token, others.token, token]
  cases left
  cases right
  simp only [Occurrence.mk.injEq]
  exact ⟨matched, same, stop, sameToken⟩

private theorem Scanned.stop_le_start {found : List Occurrence} (scanned : Scanned template found)
    (leftMember : left ∈ found) (rightMember : right ∈ found) (before : left.start < right.start) :
    left.stop ≤ right.start := by
  let clear := fun left right : Occurrence => left.stop ≤ right.start ∨ right.stop ≤ left.start
  have symmetric : Std.Symm clear := ⟨fun _ _ => Or.symm⟩
  have pairwise : found.Pairwise clear := scanned.apart.imp Or.inl
  have either : clear left right :=
    pairwise.forall leftMember rightMember fun same => Nat.lt_irrefl _ (same ▸ before)
  rcases either with apart | apart
  · exact apart
  · have nonempty := scanned.nonempty right rightMember
    omega

/-- What one such list holds, any other holds: an occurrence of the first begins inside one of the
second, which cannot begin earlier, for then it would be in the first list and overlap there. -/
private theorem Scanned.mem_of_mem {found others : List Occurrence}
    (scanned : Scanned template found)
    (otherScanned : Scanned template others) (occurrence : Occurrence)
    (member : occurrence ∈ found) : occurrence ∈ others := by
  induction place : occurrence.start using Nat.strongRecOn generalizing found others occurrence with
  | ind start ih =>
    obtain ⟨before, word, after, reports⟩ := scanned.reports occurrence member
    obtain ⟨other, otherMember, starts, stops⟩ :=
      otherScanned.complete before word after reports.split
    rw [← reports.start] at starts stops
    rcases Nat.lt_or_eq_of_le starts with earlier | same
    · have shared : other ∈ found :=
        ih other.start (place ▸ earlier) otherScanned scanned other otherMember rfl
      have apart := scanned.stop_le_start shared member earlier
      omega
    · obtain ⟨otherBefore, otherWord, otherAfter, otherReports⟩ :=
        otherScanned.reports other otherMember
      rwa [reports.eq_of_start otherReports same.symm]

private theorem Scanned.nodup {found : List Occurrence} (scanned : Scanned template found) :
    found.Nodup := by
  refine scanned.apart.imp_of_mem fun leftMember _ apart same => ?_
  have nonempty := scanned.nonempty _ leftMember
  rw [same] at nonempty apart
  omega

theorem Scanned.unique {found others : List Occurrence} (scanned : Scanned template found)
    (otherScanned : Scanned template others) : found = others := by
  have permuted : found.Perm others :=
    (List.perm_ext_iff_of_nodup scanned.nodup otherScanned.nodup).mpr fun occurrence =>
      ⟨scanned.mem_of_mem otherScanned occurrence, otherScanned.mem_of_mem scanned occurrence⟩
  refine permuted.eq_of_pairwise ?_ scanned.apart otherScanned.apart
  intro left right leftMember rightMember forward backward
  have first := scanned.nonempty left leftMember
  have second := otherScanned.nonempty right rightMember
  omega

end Unique

/-- The scanner finds the leftmost words of the grammar that do not overlap, with their ranges and
what they say, and nothing else has all the properties of that list. A template holds a token when
the list is not empty. -/
theorem scanned_iff_eq_scan (template : String) :
    (∀ found, Scanned template found ↔ found = scan template) ∧
      (containsTokens template = true ↔ scan template ≠ []) := by
  refine ⟨fun found => ⟨?_, ?_⟩, containsTokens_iff⟩
  · intro scanned
    exact scanned.unique (scanned_scan template)
  · rintro rfl
    exact scanned_scan template

end Stencil.Template
