import Stencil.Proofs.Template.Captures

/-!
# Only one way to read a token

Two words at the beginning of one text have the same end and the same parts. Each part is told from
the next by one character: a blank from what is no blank, a name from what cannot continue it, an
argument from its back-tick, and an argument list from whatever has no comma after its blanks.
-/

set_option autoImplicit false

namespace Stencil.Template

namespace Grammar

variable {left right : List Char}

/-! ## Parts -/

/-- A text that does not begin with a blank. -/
def Visible (text : List Char) : Prop :=
  ∀ character ∈ text.head?, Text.isBlank character = false

private theorem visible_cons {character : Char} (seen : Text.isBlank character = false)
    (rest : List Char) : Visible (character :: rest) := by
  intro other first
  obtain rfl := Option.some.inj first
  exact seen

theorem Blanks.append_inj {first second : Blanks} (leftVisible : Visible left)
    (rightVisible : Visible right)
    (same : first.characters ++ left = second.characters ++ right) :
    first = second ∧ left = right := by
  obtain ⟨firstTaken, firstDropped⟩ := takeWhile_of_ends first.blank leftVisible
  obtain ⟨secondTaken, secondDropped⟩ := takeWhile_of_ends second.blank rightVisible
  rw [same] at firstTaken firstDropped
  obtain ⟨firstCharacters, _⟩ := first
  obtain ⟨secondCharacters, _⟩ := second
  obtain rfl : firstCharacters = secondCharacters := firstTaken.symm.trans secondTaken
  exact ⟨rfl, firstDropped.symm.trans secondDropped⟩

theorem Name.append_inj {first second : Name}
    (leftEnds : ∀ character ∈ left.head?, ¬ IsNamePart character)
    (rightEnds : ∀ character ∈ right.head?, ¬ IsNamePart character)
    (same : first.characters ++ left = second.characters ++ right) :
    first = second ∧ left = right := by
  have read := readIdentifier?_append first leftEnds
  rw [same, readIdentifier?_append second rightEnds] at read
  obtain ⟨characters, rfl⟩ := Prod.mk.inj (Option.some.inj read)
  obtain ⟨firstHead, firstRest, _, _, _⟩ := first
  obtain ⟨secondHead, secondRest, _, _, _⟩ := second
  obtain ⟨rfl, rfl⟩ := List.cons.inj characters
  exact ⟨rfl, rfl⟩

theorem Quotation.append_inj {first second : Quotation}
    (same : first.written ++ left = second.written ++ right) : first = second ∧ left = right := by
  have read := readQuoted?_append first left
  rw [same, readQuoted?_append second right] at read
  obtain ⟨body, rfl⟩ := Prod.mk.inj (Option.some.inj read)
  obtain ⟨firstBody, _⟩ := first
  obtain ⟨secondBody, _⟩ := second
  obtain rfl : secondBody = firstBody := body
  exact ⟨rfl, rfl⟩

private theorem Quotation.visible (quotation : Quotation) (rest : List Char) :
    Visible (quotation.written ++ rest) :=
  visible_cons (by decide) _

theorem Further.append_inj {first second : Further Quotation}
    (same : first.written ++ left = second.written ++ right) : first = second ∧ left = right := by
  obtain ⟨firstBefore, firstAfter, firstArgument⟩ := first
  obtain ⟨secondBefore, secondAfter, secondArgument⟩ := second
  simp only [Further.written, List.append_assoc, List.cons_append] at same
  have comma : ∀ rest, Visible (',' :: rest) := visible_cons (by decide)
  obtain ⟨rfl, following⟩ := Blanks.append_inj (comma _) (comma _) same
  obtain ⟨rfl, quoted⟩ := Blanks.append_inj (firstArgument.visible _) (secondArgument.visible _)
    (List.cons.inj following).2
  obtain ⟨rfl, rest⟩ := Quotation.append_inj quoted
  exact ⟨rfl, rest⟩

/-- A text that has no comma after its blanks, so that no further argument begins. -/
def EndsListing (text : List Char) : Prop :=
  ∀ following, skipBlanks text ≠ ',' :: following

private theorem not_endsListing (further : Further Quotation) (rest : List Char) :
    ¬ EndsListing (further.written ++ rest) := by
  intro ends
  apply ends (further.after.characters ++ (further.argument.written ++ rest))
  simp only [Further.written, List.append_assoc, List.cons_append]
  rw [skipBlanks_append, skipBlanks_cons (by decide)]

theorem furthers_append_inj {first second : List (Further Quotation)} (leftEnds : EndsListing left)
    (rightEnds : EndsListing right)
    (same : first.flatMap Further.written ++ left = second.flatMap Further.written ++ right) :
    first = second ∧ left = right := by
  induction first generalizing second with
  | nil =>
    cases second with
    | nil => exact ⟨rfl, same⟩
    | cons further rest =>
      rw [List.flatMap_nil, List.nil_append, List.flatMap_cons, List.append_assoc] at same
      rw [same] at leftEnds
      exact absurd leftEnds (not_endsListing further _)
  | cons head rest ih =>
    cases second with
    | nil =>
      rw [List.flatMap_nil, List.nil_append, List.flatMap_cons, List.append_assoc] at same
      rw [← same] at rightEnds
      exact absurd rightEnds (not_endsListing head _)
    | cons other others =>
      rw [List.flatMap_cons, List.flatMap_cons, List.append_assoc, List.append_assoc] at same
      obtain ⟨rfl, later⟩ := Further.append_inj same
      obtain ⟨rfl, rest⟩ := ih later
      exact ⟨rfl, rest⟩

theorem Listing.append_inj {first second : Listing Quotation} (leftEnds : EndsListing left)
    (rightEnds : EndsListing right)
    (same : first.written ++ left = second.written ++ right) : first = second ∧ left = right := by
  obtain ⟨firstArgument, firstOthers⟩ := first
  obtain ⟨secondArgument, secondOthers⟩ := second
  rw [Listing.written, Listing.written, List.append_assoc, List.append_assoc] at same
  obtain ⟨rfl, later⟩ := Quotation.append_inj same
  obtain ⟨rfl, rest⟩ := furthers_append_inj leftEnds rightEnds later
  exact ⟨rfl, rest⟩

private theorem Listing.visible (listing : Listing Quotation) (rest : List Char) :
    Visible (listing.written ++ rest) := by
  rw [Listing.written, List.append_assoc]
  exact listing.first.visible _

private theorem endsListing_closing (closing : Blanks) (rest : List Char) :
    EndsListing (closing.characters ++ ')' :: rest) := by
  intro following comma
  rw [skipBlanks_append, skipBlanks_cons (by decide)] at comma
  cases comma

/-! ## Calls and words -/

/-- What stands between the parentheses of a call does not begin with blanks and a parenthesis when
there is an argument. -/
private theorem Call.inside_ne {before after opening : Blanks} {listing : Listing Quotation}
    {rest following : List Char} :
    before.characters ++ (after.characters ++ ')' :: rest) ≠
      opening.characters ++ (listing.written ++ following) := by
  intro same
  have skipped := congrArg skipBlanks same
  rw [skipBlanks_append, skipBlanks_append, skipBlanks_cons (by decide), skipBlanks_append,
    Listing.written, List.append_assoc, skipBlanks_written] at skipped
  cases skipped

/-- Empty parentheses may hold blanks, and how these are divided leaves no trace. -/
theorem Call.captures_eq {first second : Call Quotation}
    (same : first.written ++ left = second.written ++ right) :
    left = right ∧ ∀ start, first.captures start = second.captures start := by
  have read := readCall?_append first left
  rw [same, readCall?_append second right] at read
  obtain ⟨-, rfl⟩ := Prod.mk.inj (Option.some.inj read)
  have written := List.append_cancel_right same
  refine ⟨rfl, fun start => ?_⟩
  rw [Call.captures, Call.captures, written]
  refine congrArg _ ?_
  obtain ⟨firstOpening, firstListing, firstClosing⟩ := first
  obtain ⟨secondOpening, secondListing, secondClosing⟩ := second
  have inside := (List.cons.inj written).2
  cases firstListing with
  | none =>
    cases secondListing with
    | none => rfl
    | some listing => exact absurd inside Call.inside_ne
  | some listing =>
    cases secondListing with
    | none => exact absurd inside.symm Call.inside_ne
    | some other =>
      obtain ⟨rfl, listed⟩ := Blanks.append_inj (listing.visible _) (other.visible _) inside
      obtain ⟨rfl, -⟩ := Listing.append_inj (endsListing_closing _ _) (endsListing_closing _ _)
        listed
      rfl

private theorem Word.visible_tail (word : Word Quotation) (rest : List Char) :
    Visible (word.tail ++ rest) := by
  obtain ⟨opening, name, gap, call⟩ := word
  cases call with
  | none => exact visible_cons (by decide) _
  | some call => exact visible_cons (by decide) _

/-- Words that begin one text end at one place and capture the same. -/
theorem Word.captures_eq {first second : Word Quotation}
    (same : first.written ++ left = second.written ++ right) :
    first.written = second.written ∧ ∀ start, first.captures start = second.captures start := by
  refine ⟨(written_append_inj same).1, fun start => ?_⟩
  have firstEnds := not_isNamePart_after_name first left
  have secondEnds := not_isNamePart_after_name second right
  have firstTail := first.visible_tail left
  have secondTail := second.visible_tail right
  obtain ⟨firstOpening, firstName, firstGap, firstCall⟩ := first
  obtain ⟨secondOpening, secondName, secondGap, secondCall⟩ := second
  simp only [Word.written, List.cons_append, List.append_assoc] at same
  have named : ∀ (name : Name) rest, Visible (name.characters ++ rest) := fun name _ =>
    visible_cons (isBlank_of_isNamePart (.inl name.starts)) _
  obtain ⟨rfl, afterOpening⟩ := Blanks.append_inj (named _ _) (named _ _)
    (List.cons.inj (List.cons.inj same).2).2
  obtain ⟨rfl, afterName⟩ := Name.append_inj firstEnds secondEnds afterOpening
  obtain ⟨rfl, tails⟩ := Blanks.append_inj firstTail secondTail afterName
  cases firstCall with
  | none =>
    cases secondCall with
    | none => rfl
    | some called => cases tails
  | some called =>
    cases secondCall with
    | none => cases tails
    | some other =>
      simp only [Word.tail, List.append_assoc] at tails
      obtain ⟨-, captured⟩ := Call.captures_eq tails
      simp only [Word.captures, captured]
      rfl

end Grammar

/-! ## Token expressions in a template -/

open Grammar

/-- What stands between two offsets of a template, in bytes, is a token expression with the given
captures. -/
def TokenAt (template : String) (start stop : Nat) (captures : List Capture) : Prop :=
  ∃ before expression after, template.toList = before ++ (expression ++ after) ∧
    start = byteLength before ∧ stop = start + byteLength expression ∧
      Pattern.token.Matches start expression captures

theorem TokenAt.unique {template : String} {start stop other : Nat}
    {captures others : List Capture} (first : TokenAt template start stop captures)
    (second : TokenAt template start other others) : stop = other ∧ captures = others := by
  obtain ⟨before, expression, after, split, starts, rfl, way⟩ := first
  obtain ⟨otherBefore, otherExpression, otherAfter, otherSplit, otherStarts, rfl, otherWay⟩ := second
  obtain ⟨word, rfl, rfl⟩ := Pattern.matches_token_iff.mp way
  obtain ⟨otherWord, rfl, rfl⟩ := Pattern.matches_token_iff.mp otherWay
  obtain ⟨-, same⟩ := append_inj_of_byteLength (split.symm.trans otherSplit)
    (starts.symm.trans otherStarts)
  obtain ⟨written, captured⟩ := Word.captures_eq same
  exact ⟨by rw [written], captured start⟩

/-- The pattern of a token can be matched in one way only. From one offset at most one expression
begins, and everything that is captured in it is determined: the identifier, whether it is a call,
where its listing stands and each argument. No expression begins another one. So the reader, which
never gives anything back, reads what any matcher captures; and cutting the listing on its own gives
the arguments that are captured within the whole. -/
theorem uniquely_readable :
    (∀ (template : String) (start stop other : Nat) (captures others : List Capture),
      TokenAt template start stop captures → TokenAt template start other others →
        stop = other ∧ captures = others) ∧
      (∀ (start other : Nat) (short long : List Char) (captures others : List Capture),
        Pattern.token.Matches start short captures → Pattern.token.Matches other long others →
          short <+: long → short = long) ∧
      (∀ (start : Nat) (text rest : List Char) (token : Token),
        readToken? text = some (token, rest) ↔
          ∃ expression captures, text = expression ++ rest ∧
            Pattern.token.Matches start expression captures ∧
              Capture.token? captures = some token) ∧
      ∀ (start : Nat) (expression listing : List Char) (captures : List Capture),
        Pattern.token.Matches start expression captures →
          Capture.textOf? .listing captures = some listing →
            arguments (String.ofList listing) = (Capture.bodies captures).map unescape := by
  refine ⟨?_, ?_, ?_, ?_⟩
  · intro template start stop other captures others first second
    exact first.unique second
  · intro start other short long captures others first second begins
    obtain ⟨word, rfl, rfl⟩ := Pattern.matches_token_iff.mp first
    obtain ⟨otherWord, rfl, rfl⟩ := Pattern.matches_token_iff.mp second
    obtain ⟨rest, split⟩ := begins
    rw [← List.append_nil otherWord.written] at split
    exact (written_append_inj split).1
  · intro start text rest token
    constructor
    · intro read
      obtain ⟨word, rfl, rfl⟩ := exists_word_of_readToken? read
      exact ⟨_, _, rfl, Pattern.matches_token_iff.mpr ⟨word, rfl, rfl⟩,
        word.token?_captures start⟩
    · intro listed
      obtain ⟨expression, captures, rfl, way, spelled⟩ := listed
      obtain ⟨word, rfl, rfl⟩ := Pattern.matches_token_iff.mp way
      obtain rfl := Option.some.inj ((word.token?_captures start).symm.trans spelled)
      exact readToken?_append word rest
  · intro start expression listing captures way captured
    obtain ⟨word, rfl, rfl⟩ := Pattern.matches_token_iff.mp way
    exact Word.arguments_of_captured captured

/-- An escaped back-tick, which both alternatives could begin, between blanks. -/
theorem uniquely_readable_escaped :
    let expression := "$\x7b b (`\\'`) \x7d".toList
    let captures : List Capture :=
      [⟨.identifier, 4, ['b']⟩, ⟨.call, 6, "(`\\'`)".toList⟩, ⟨.listing, 7, "`\\'`".toList⟩,
        ⟨.body, 8, "\\'".toList⟩]
    TokenAt "a$\x7b b (`\\'`) \x7d" 1 14 captures ∧
      (∀ other others, TokenAt "a$\x7b b (`\\'`) \x7d" 1 other others →
        14 = other ∧ captures = others) ∧
      (∀ start short others, Pattern.token.Matches start short others →
        short <+: expression → short = expression) ∧
      readToken? expression = some (⟨"b", some ["`"]⟩, []) ∧
      arguments "`\\'`" = ["`"] := by
  intro expression captures
  have way : Pattern.token.Matches 1 expression captures := by
    let blank : Blanks := ⟨[' '], List.forall_mem_singleton.mpr rfl⟩
    let name : Name := ⟨'b', [], by decide, List.forall_mem_nil _, by decide⟩
    let listing : Listing Quotation := ⟨⟨['\\', '\''], by decide⟩, []⟩
    refine Pattern.matches_token_iff.mpr
      ⟨⟨blank, name, blank, some (⟨.none, some listing, .none⟩, blank)⟩, ?_, ?_⟩
    · rfl
    · rfl
  have there : TokenAt "a$\x7b b (`\\'`) \x7d" 1 14 captures :=
    ⟨['a'], expression, [], rfl, rfl, rfl, way⟩
  obtain ⟨unique, shortest, reader, cut⟩ := uniquely_readable
  refine ⟨there, fun other others second => unique _ _ _ _ _ _ there second, ?_, ?_, ?_⟩
  · exact fun start short others first begins =>
      shortest start 1 short expression others captures first way begins
  · exact (reader 1 expression [] _).mpr ⟨expression, captures, rfl, way, rfl⟩
  · exact cut 1 expression "`\\'`".toList captures way rfl

end Stencil.Template
