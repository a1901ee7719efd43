import Stencil.Proofs.Template.Pattern

/-!
# Captures of a token

What the pattern of a token captures, told from the tree of a word. Words that begin one text have
the same captures and the same end, so no choice of a matcher has any influence.
-/

set_option autoImplicit false

namespace Stencil.Template

namespace Grammar

/-! ## What a tree captures -/

private theorem blank_of_mem_nil : ∀ character ∈ ([] : List Char), Text.isBlank character = true :=
  List.forall_mem_nil _

def Blanks.none : Blanks := ⟨[], blank_of_mem_nil⟩

def Blanks.append (left right : Blanks) : Blanks where
  characters := left.characters ++ right.characters
  blank := List.forall_mem_append.mpr ⟨left.blank, right.blank⟩

def Quotation.captures (start : Nat) (quotation : Quotation) : List Capture :=
  [⟨.body, start + 1, quotation.body⟩]

def Further.captures (start : Nat) (further : Further Quotation) : List Capture :=
  further.argument.captures
    (start + byteLength further.before.characters + 1 + byteLength further.after.characters)

def furtherCaptures : Nat → List (Further Quotation) → List Capture
  | _, [] => []
  | start, further :: rest =>
    further.captures start ++ furtherCaptures (start + byteLength further.written) rest

def Listing.captures (start : Nat) (listing : Listing Quotation) : List Capture :=
  ⟨.listing, start, listing.written⟩ ::
    (listing.first.captures start ++
      furtherCaptures (start + byteLength listing.first.written) listing.others)

def Call.captures (start : Nat) (call : Call Quotation) : List Capture :=
  ⟨.call, start, call.written⟩ ::
    match call.listing with
    | none => []
    | some listing => listing.captures (start + 1 + byteLength call.opening.characters)

/-- Where the name of a word starts that starts at an offset. -/
def Word.nameStart (start : Nat) (word : Word Quotation) : Nat :=
  start + 1 + 1 + byteLength word.opening.characters

def Word.captures (start : Nat) (word : Word Quotation) : List Capture :=
  ⟨.identifier, word.nameStart start, word.name.characters⟩ ::
    match word.call with
    | none => []
    | some (call, _) =>
      call.captures (word.nameStart start + byteLength word.name.characters +
        byteLength word.gap.characters)

end Grammar

namespace Pattern

open Grammar

variable {start : Nat} {text : List Char} {captures : List Capture}

theorem matches_blanks_iff :
    Matches blanks start text captures ↔
      ∃ blanks : Blanks, text = blanks.characters ∧ captures = [] := by
  rw [blanks, matches_many_one_iff]
  constructor
  · intro listed
    exact ⟨⟨text, listed.1⟩, rfl, listed.2⟩
  · intro listed
    obtain ⟨blanks, rfl, rfl⟩ := listed
    exact ⟨blanks.blank, rfl⟩

private theorem matches_blanks_both_iff {rest : Pattern} :
    Matches (.both blanks rest) start text captures ↔
      ∃ (blanks : Blanks) (right : List Char),
        Matches rest (start + byteLength blanks.characters) right captures ∧
          text = blanks.characters ++ right := by
  rw [matches_both_iff]
  constructor
  · intro listed
    obtain ⟨left, right, before, after, head, tail, rfl, rfl⟩ := listed
    obtain ⟨blanks, rfl, rfl⟩ := matches_blanks_iff.mp head
    exact ⟨blanks, right, tail, rfl⟩
  · intro listed
    obtain ⟨blanks, right, tail, rfl⟩ := listed
    exact ⟨_, _, _, _, matches_blanks_iff.mpr ⟨blanks, rfl, rfl⟩, tail, rfl, rfl⟩

theorem matches_identifier_iff :
    Matches identifier start text captures ↔
      ∃ name : Name, text = name.characters ∧
        captures = [⟨.identifier, start, name.characters⟩] := by
  rw [identifier, matches_group_iff]
  constructor
  · intro listed
    obtain ⟨others, way, rfl⟩ := listed
    obtain ⟨left, right, before, after, head, tail, rfl, rfl⟩ := matches_both_iff.mp way
    obtain ⟨first, starts, rfl, rfl⟩ := matches_one_iff.mp head
    obtain ⟨short, continues, rfl⟩ := matches_upTo_one_iff.mp tail
    refine ⟨⟨first, right, isIdentifierStart_iff.mp starts, ?_, short⟩, rfl, rfl⟩
    exact fun character member => isIdentifierPart_iff.mp (continues character member)
  · intro listed
    obtain ⟨name, rfl, rfl⟩ := listed
    have continues : ∀ character ∈ name.rest, isIdentifierPart character = true :=
      fun character member => isIdentifierPart_iff.mpr (name.continues character member)
    refine ⟨[], ?_, rfl⟩
    exact .both (.one (isIdentifierStart_iff.mpr name.starts))
      (matches_upTo_one_iff.mpr ⟨name.bounded, continues, rfl⟩)

/-- Neither alternative takes a back-tick, so it does not matter which one takes a backslash. -/
private theorem tick_not_mem_of_matches_bodyPart (way : Matches bodyPart start text captures) :
    '`' ∉ text ∧ captures = [] := by
  cases way with
  | left inside =>
    obtain ⟨right, tail, rfl⟩ := matches_exactly_both_iff.mp inside
    obtain ⟨rfl, rfl⟩ := matches_exactly_iff.mp tail
    exact ⟨by decide, rfl⟩
  | right inside =>
    obtain ⟨character, other, rfl, rfl⟩ := matches_one_iff.mp inside
    exact ⟨fun member => of_decide_eq_true other (List.mem_singleton.mp member).symm, rfl⟩

theorem matches_many_bodyPart_iff :
    Matches (.many bodyPart) start text captures ↔ '`' ∉ text ∧ captures = [] := by
  constructor
  · intro way
    generalize repeated : Pattern.many bodyPart = pattern at way
    induction way with
    | done => exact ⟨List.not_mem_nil, rfl⟩
    | again head tail _ ih =>
      cases repeated
      obtain ⟨here, rfl⟩ := tick_not_mem_of_matches_bodyPart head
      obtain ⟨later, rfl⟩ := ih rfl
      exact ⟨fun member => (List.mem_append.mp member).elim here later, rfl⟩
    | _ => cases repeated
  · intro listed
    obtain ⟨absent, rfl⟩ := listed
    induction text generalizing start with
    | nil => exact .done
    | cons character rest ih =>
      have other : character ≠ '`' := (List.ne_of_not_mem_cons absent).symm
      exact .again (.right (.one (decide_eq_true other)))
        (ih (List.not_mem_of_not_mem_cons absent))

theorem matches_argument_iff :
    Matches argument start text captures ↔
      ∃ quotation : Quotation,
        text = quotation.written ∧ captures = quotation.captures start := by
  rw [argument, matches_exactly_both_iff]
  constructor
  · intro listed
    obtain ⟨right, way, rfl⟩ := listed
    obtain ⟨written, closing, before, after, head, tail, rfl, rfl⟩ := matches_both_iff.mp way
    obtain ⟨others, inside, rfl⟩ := matches_group_iff.mp head
    obtain ⟨closed, rfl⟩ := matches_many_bodyPart_iff.mp inside
    obtain ⟨rfl, rfl⟩ := matches_exactly_iff.mp tail
    exact ⟨⟨written, closed⟩, rfl, rfl⟩
  · intro listed
    obtain ⟨quotation, rfl, rfl⟩ := listed
    refine ⟨quotation.body ++ ['`'], ?_, rfl⟩
    exact .both (.group (matches_many_bodyPart_iff.mpr ⟨quotation.closed, rfl⟩))
      (matches_exactly_iff.mpr ⟨rfl, rfl⟩)

theorem matches_furtherArgument_iff :
    Matches furtherArgument start text captures ↔
      ∃ further : Further Quotation, text = further.written ∧ captures = further.captures start := by
  rw [furtherArgument, matches_blanks_both_iff]
  constructor
  · intro listed
    obtain ⟨before, _, comma, rfl⟩ := listed
    obtain ⟨_, spaced, rfl⟩ := matches_exactly_both_iff.mp comma
    obtain ⟨after, _, quoted, rfl⟩ := matches_blanks_both_iff.mp spaced
    obtain ⟨quotation, rfl, rfl⟩ := matches_argument_iff.mp quoted
    exact ⟨⟨before, after, quotation⟩, rfl, rfl⟩
  · intro listed
    obtain ⟨further, rfl, rfl⟩ := listed
    refine ⟨further.before, _, matches_exactly_both_iff.mpr ⟨_, ?_, rfl⟩, rfl⟩
    refine matches_blanks_both_iff.mpr ⟨further.after, _, ?_, rfl⟩
    exact matches_argument_iff.mpr ⟨further.argument, rfl, rfl⟩

theorem matches_many_furtherArgument_iff :
    Matches (.many furtherArgument) start text captures ↔
      ∃ others : List (Further Quotation),
        text = others.flatMap Further.written ∧ captures = furtherCaptures start others := by
  constructor
  · intro way
    generalize repeated : Pattern.many furtherArgument = pattern at way
    induction way with
    | done => exact ⟨[], rfl, rfl⟩
    | again head tail _ ih =>
      cases repeated
      obtain ⟨further, rfl, rfl⟩ := matches_furtherArgument_iff.mp head
      obtain ⟨others, rfl, rfl⟩ := ih rfl
      exact ⟨further :: others, rfl, rfl⟩
    | _ => cases repeated
  · intro listed
    obtain ⟨others, rfl, rfl⟩ := listed
    induction others generalizing start with
    | nil => exact .done
    | cons further rest ih =>
      exact .again (matches_furtherArgument_iff.mpr ⟨further, rfl, rfl⟩) ih

theorem matches_listing_iff :
    Matches listing start text captures ↔
      ∃ listing : Listing Quotation,
        text = listing.written ∧ captures = listing.captures start := by
  rw [listing, matches_group_iff]
  constructor
  · intro listed
    obtain ⟨others, way, rfl⟩ := listed
    obtain ⟨left, right, before, after, head, tail, rfl, rfl⟩ := matches_both_iff.mp way
    obtain ⟨first, rfl, rfl⟩ := matches_argument_iff.mp head
    obtain ⟨others, rfl, rfl⟩ := matches_many_furtherArgument_iff.mp tail
    exact ⟨⟨first, others⟩, rfl, rfl⟩
  · intro listed
    obtain ⟨listing, rfl, rfl⟩ := listed
    refine ⟨_, .both (matches_argument_iff.mpr ⟨listing.first, rfl, rfl⟩) ?_, rfl⟩
    exact matches_many_furtherArgument_iff.mpr ⟨listing.others, rfl, rfl⟩

theorem matches_call_iff :
    Matches call start text captures ↔
      ∃ call : Call Quotation, text = call.written ∧ captures = call.captures start := by
  rw [call, matches_group_iff]
  constructor
  · intro listed
    obtain ⟨_, way, rfl⟩ := listed
    obtain ⟨_, spaced, rfl⟩ := matches_exactly_both_iff.mp way
    obtain ⟨opening, _, within, rfl⟩ := matches_blanks_both_iff.mp spaced
    obtain ⟨inside, _, before, _, head, tail, rfl, rfl⟩ := matches_both_iff.mp within
    obtain ⟨closing, _, closed, rfl⟩ := matches_blanks_both_iff.mp tail
    obtain ⟨rfl, rfl⟩ := matches_exactly_iff.mp closed
    obtain ⟨rfl, rfl⟩ | once := matches_optional_iff.mp head
    · exact ⟨⟨opening, none, closing⟩, rfl, rfl⟩
    · obtain ⟨listing, rfl, rfl⟩ := matches_listing_iff.mp once
      refine ⟨⟨opening, some listing, closing⟩, rfl, ?_⟩
      rw [List.append_nil]
      rfl
  · intro listed
    obtain ⟨⟨opening, listing, closing⟩, rfl, rfl⟩ := listed
    refine ⟨_, matches_exactly_both_iff.mpr ⟨_, ?_, rfl⟩, rfl⟩
    refine matches_blanks_both_iff.mpr ⟨opening, _, ?_, rfl⟩
    refine matches_both_iff.mpr ?_
    cases listing with
    | none =>
      refine ⟨_, _, _, _, .absent, matches_blanks_both_iff.mpr ⟨closing, _, ?_, rfl⟩, rfl, rfl⟩
      exact matches_exactly_iff.mpr ⟨rfl, rfl⟩
    | some listing =>
      refine ⟨_, _, _, _, .present (matches_listing_iff.mpr ⟨listing, rfl, rfl⟩),
        matches_blanks_both_iff.mpr ⟨closing, _, matches_exactly_iff.mpr ⟨rfl, rfl⟩, rfl⟩, rfl, ?_⟩
      exact (List.append_nil _).symm

/-- Without a call the blanks before the brace can be divided anywhere; they are one gap. -/
theorem matches_token_iff :
    Matches token start text captures ↔
      ∃ word : Word Quotation, text = word.written ∧ captures = word.captures start := by
  rw [token, matches_exactly_both_iff]
  constructor
  · intro listed
    obtain ⟨_, braced, rfl⟩ := listed
    obtain ⟨_, spaced, rfl⟩ := matches_exactly_both_iff.mp braced
    obtain ⟨opening, _, named, rfl⟩ := matches_blanks_both_iff.mp spaced
    obtain ⟨_, _, _, _, head, tail, rfl, rfl⟩ := matches_both_iff.mp named
    obtain ⟨name, rfl, rfl⟩ := matches_identifier_iff.mp head
    obtain ⟨gap, _, called, rfl⟩ := matches_blanks_both_iff.mp tail
    obtain ⟨_, _, _, _, between, ending, rfl, rfl⟩ := matches_both_iff.mp called
    obtain ⟨after, _, closed, rfl⟩ := matches_blanks_both_iff.mp ending
    obtain ⟨rfl, rfl⟩ := matches_exactly_iff.mp closed
    obtain ⟨rfl, rfl⟩ | once := matches_optional_iff.mp between
    · refine ⟨⟨opening, name, gap.append after, none⟩, ?_, rfl⟩
      simp only [Word.written, Word.tail, Blanks.append, List.nil_append, List.append_assoc]
    · obtain ⟨call, rfl, rfl⟩ := matches_call_iff.mp once
      refine ⟨⟨opening, name, gap, some (call, after)⟩, rfl, ?_⟩
      rw [List.append_nil]
      rfl
  · intro listed
    obtain ⟨⟨opening, name, gap, call⟩, rfl, rfl⟩ := listed
    refine ⟨_, matches_exactly_both_iff.mpr ⟨_, ?_, rfl⟩, rfl⟩
    refine matches_blanks_both_iff.mpr ⟨opening, _, ?_, rfl⟩
    refine .both (matches_identifier_iff.mpr ⟨name, rfl, rfl⟩) ?_
    refine matches_blanks_both_iff.mpr ⟨gap, _, ?_, rfl⟩
    cases call with
    | none =>
      refine .both .absent (matches_blanks_both_iff.mpr ⟨.none, _, ?_, rfl⟩)
      exact matches_exactly_iff.mpr ⟨rfl, rfl⟩
    | some called =>
      obtain ⟨call, after⟩ := called
      refine matches_both_iff.mpr ⟨_, _, _, _, .present (matches_call_iff.mpr ⟨call, rfl, rfl⟩),
        matches_blanks_both_iff.mpr ⟨after, _, matches_exactly_iff.mpr ⟨rfl, rfl⟩, rfl⟩, rfl, ?_⟩
      exact (List.append_nil _).symm

end Pattern

/-! ## What captures say -/

namespace Capture

def textOf? (group : Group) (captures : List Capture) : Option (List Char) :=
  (captures.find? (·.group = group)).map Capture.text

def bodies (captures : List Capture) : List (List Char) :=
  (captures.filter (·.group = .body)).map Capture.text

/-- The token of what is captured. Its arguments are cut from the text of the whole listing. -/
def token? (captures : List Capture) : Option Token :=
  (textOf? .identifier captures).map fun identifier =>
    ⟨String.ofList identifier, (textOf? .call captures).map fun _ =>
      ((textOf? .listing captures).map fun listing =>
        arguments (String.ofList listing)).getD []⟩

end Capture

namespace Grammar

open Text

/-- The first quoted stretch of a text is its first quotation. -/
theorem quotedStretches_quotation {before : List Char} (quiet : '`' ∉ before)
    (quotation : Quotation) (rest : List Char) :
    quotedStretches (splitAt '`' (before ++ (quotation.written ++ rest))) =
      quotation.body :: quotedStretches (splitAt '`' rest) := by
  have split : splitAt '`' (before ++ (quotation.written ++ rest)) =
      before :: quotation.body :: splitAt '`' rest := by
    rw [Quotation.written, List.cons_append, splitAt_append quiet, List.append_assoc,
      List.singleton_append, splitAt_append quotation.closed]
  obtain ⟨next, others, equal⟩ := List.exists_cons_of_ne_nil (splitAt_ne_nil '`' rest)
  rw [split, equal, quotedStretches]

private theorem Blanks.tick_not_mem (blanks : Blanks) : '`' ∉ blanks.characters := by
  intro member
  have blank := blanks.blank '`' member
  revert blank
  decide

private theorem Further.tick_not_mem (further : Further Quotation) :
    '`' ∉ further.before.characters ++ ',' :: further.after.characters := by
  intro member
  obtain before | following := List.mem_append.mp member
  · exact further.before.tick_not_mem before
  · obtain comma | after := List.mem_cons.mp following
    · revert comma
      decide
    · exact further.after.tick_not_mem after

private theorem quotedStretches_furthers (others : List (Further Quotation)) :
    quotedStretches (splitAt '`' (others.flatMap Further.written)) =
      others.map fun further => further.argument.body := by
  induction others with
  | nil => rfl
  | cons further rest ih =>
    have quoted := quotedStretches_quotation further.tick_not_mem further.argument
      (rest.flatMap Further.written)
    rw [ih, List.append_assoc, List.cons_append, ← List.append_assoc further.after.characters]
      at quoted
    rw [List.flatMap_cons, Further.written, List.append_assoc, List.cons_append]
    exact quoted

/-- Cutting a listing at its back-ticks gives its arguments. -/
theorem Listing.arguments_written (listing : Listing Quotation) :
    Template.arguments (String.ofList listing.written) =
      listing.arguments.map Quotation.meaning := by
  have quoted := quotedStretches_quotation List.not_mem_nil listing.first
    (listing.others.flatMap Further.written)
  rw [List.nil_append, quotedStretches_furthers] at quoted
  rw [Template.arguments, String.toList_ofList, Listing.written, quoted, Listing.arguments,
    List.map_cons, List.map_cons, List.map_map, List.map_map]
  rfl

private theorem bodies_furtherCaptures (start : Nat) (others : List (Further Quotation)) :
    Capture.bodies (furtherCaptures start others) =
      others.map fun further => further.argument.body := by
  induction others generalizing start with
  | nil => rfl
  | cons further rest ih =>
    exact congrArg (further.argument.body :: ·) (ih _)

theorem Listing.bodies_captures (start : Nat) (listing : Listing Quotation) :
    Capture.bodies (listing.captures start) = listing.arguments.map Quotation.body := by
  have others := bodies_furtherCaptures (start + byteLength listing.first.written) listing.others
  rw [Listing.arguments, List.map_cons, List.map_map]
  exact congrArg (listing.first.body :: ·) others

theorem Word.token?_captures (start : Nat) (word : Word Quotation) :
    Capture.token? (word.captures start) = some (word.token Quotation.meaning) := by
  obtain ⟨opening, name, gap, call⟩ := word
  cases call with
  | none => rfl
  | some called =>
    obtain ⟨⟨before, listing, after⟩, closing⟩ := called
    cases listing with
    | none => rfl
    | some listing =>
      refine congrArg (fun given => some (Token.mk _ (some given))) ?_
      exact listing.arguments_written

/-- The text of a listing is cut into the bodies that are captured in it. -/
theorem Word.arguments_of_captured {start : Nat} {word : Word Quotation} {listing : List Char}
    (captured : Capture.textOf? .listing (word.captures start) = some listing) :
    Template.arguments (String.ofList listing) =
      (Capture.bodies (word.captures start)).map unescape := by
  obtain ⟨opening, name, gap, call⟩ := word
  cases call with
  | none => cases captured
  | some called =>
    obtain ⟨⟨before, given, after⟩, closing⟩ := called
    cases given with
    | none => cases captured
    | some given =>
      obtain rfl : given.written = listing := Option.some.inj captured
      have bodies : Capture.bodies (Word.captures start
          ⟨opening, name, gap, some (⟨before, some given, after⟩, closing)⟩) =
            given.arguments.map Quotation.body := given.bodies_captures _
      rw [given.arguments_written, bodies, List.map_map]
      rfl

end Grammar

end Stencil.Template
