import Stencil.Proofs.Template.Grammar

/-!
# Reading a token is parsing the grammar

The reader of tokens accepts exactly the words of the grammar, whatever follows them, and gives what
the word says. Its completeness rests on one fact for each reader: the character after what it reads
cannot continue it. So it never has to give anything back.
-/

set_option autoImplicit false

namespace Stencil.Template.Grammar

/-! ## Classes of characters -/

theorem isIdentifierStart_iff {character : Char} :
    isIdentifierStart character = true ↔ IsNameStart character := by
  unfold isIdentifierStart IsNameStart
  delta Char.isAlpha Char.isUpper Char.isLower
  simp only [Bool.or_eq_true, Bool.and_eq_true, decide_eq_true_eq, or_assoc, ge_iff_le,
    Char.le_def]

theorem isIdentifierPart_iff {character : Char} :
    isIdentifierPart character = true ↔ IsNamePart character := by
  unfold isIdentifierPart IsNamePart IsNameStart
  delta Char.isAlphanum Char.isAlpha Char.isUpper Char.isLower Char.isDigit
  simp only [Bool.or_eq_true, Bool.and_eq_true, decide_eq_true_eq, ge_iff_le, Char.le_def]
  grind

private theorem toNat_of_between {low high character : Char} (least : low ≤ character)
    (greatest : character ≤ high) (above : 46 ≤ low.toNat) (below : high.toNat ≤ 122) :
    46 ≤ character.toNat ∧ character.toNat ≤ 122 := by
  constructor
  · exact Nat.le_trans above least
  · exact Nat.le_trans greatest below

private theorem toNat_of_isNamePart {character : Char} (part : IsNamePart character) :
    46 ≤ character.toNat ∧ character.toNat ≤ 122 := by
  rcases part with (⟨least, greatest⟩ | ⟨least, greatest⟩ | rfl | rfl) | ⟨least, greatest⟩
  · exact toNat_of_between least greatest (by decide) (by decide)
  · exact toNat_of_between least greatest (by decide) (by decide)
  · decide
  · decide
  · exact toNat_of_between least greatest (by decide) (by decide)

theorem isBlank_of_isNamePart {character : Char} (part : IsNamePart character) :
    Text.isBlank character = false := by
  have range := toNat_of_isNamePart part
  simp only [Text.isBlank, Text.blankRanges, List.any_cons, List.any_nil, Bool.or_eq_false_iff,
    Bool.and_eq_false_iff, decide_eq_false_iff_not, and_true]
  omega

private theorem not_isNamePart_of_isBlank {character : Char}
    (blank : Text.isBlank character = true) :
    ¬ IsNamePart character := by
  intro part
  rw [isBlank_of_isNamePart part] at blank
  cases blank

/-! ## Blanks -/

theorem skipBlanks_append (blanks : Blanks) (text : List Char) :
    skipBlanks (blanks.characters ++ text) = skipBlanks text :=
  List.dropWhile_append_of_pos blanks.blank

theorem skipBlanks_cons {character : Char} (seen : Text.isBlank character = false)
    (text : List Char) : skipBlanks (character :: text) = character :: text :=
  List.dropWhile_cons_of_neg (by simp [seen])

private theorem skipBlanks_skipBlanks (text : List Char) :
    skipBlanks (skipBlanks text) = skipBlanks text := by
  induction text with
  | nil => rfl
  | cons character rest ih =>
    cases blank : Text.isBlank character with
    | true =>
      have skipped : skipBlanks (character :: rest) = skipBlanks rest :=
        List.dropWhile_cons_of_pos blank
      rw [skipped, ih]
    | false => rw [skipBlanks_cons blank, skipBlanks_cons blank]

private theorem exists_blanks (text : List Char) :
    ∃ blanks : Blanks, text = blanks.characters ++ skipBlanks text := by
  refine ⟨⟨text.takeWhile Text.isBlank, ?_⟩, List.takeWhile_append_dropWhile.symm⟩
  intro character member
  exact List.all_eq_true.mp List.all_takeWhile character member

/-! ## Names -/

theorem takeWhile_of_ends {test : Char → Bool} {stretch text : List Char}
    (inside : ∀ character ∈ stretch, test character = true)
    (ends : ∀ character ∈ text.head?, test character = false) :
    (stretch ++ text).takeWhile test = stretch ∧ (stretch ++ text).dropWhile test = text := by
  rw [List.takeWhile_append_of_pos inside, List.dropWhile_append_of_pos inside]
  cases text with
  | nil => exact ⟨List.append_nil _, rfl⟩
  | cons character rest =>
    have outside : ¬ test character = true := by
      rw [ends character rfl]
      exact Bool.false_ne_true
    rw [List.takeWhile_cons_of_neg outside, List.dropWhile_cons_of_neg outside]
    exact ⟨List.append_nil _, rfl⟩

theorem readIdentifier?_append (name : Name) {text : List Char}
    (ends : ∀ character ∈ text.head?, ¬ IsNamePart character) :
    readIdentifier? (name.characters ++ text) = some (name.characters, text) := by
  have stretch := @takeWhile_of_ends isIdentifierPart name.rest text
    (fun character member => isIdentifierPart_iff.mpr (name.continues character member))
    (fun character first =>
      Bool.eq_false_iff.mpr fun part => ends character first (isIdentifierPart_iff.mp part))
  have starts := isIdentifierStart_iff.mpr name.starts
  have bounded : name.rest.length < identifierLimit := Nat.lt_succ_of_le name.bounded
  simp only [Name.characters, List.cons_append, readIdentifier?, stretch.1, stretch.2, starts,
    bounded, and_self, if_true]

theorem exists_name_of_readIdentifier? {text identifier rest : List Char}
    (read : readIdentifier? text = some (identifier, rest)) :
    ∃ name : Name, name.characters = identifier ∧ text = name.characters ++ rest := by
  cases text with
  | nil => cases read
  | cons first following =>
    simp only [readIdentifier?] at read
    split at read
    case isFalse => cases read
    case isTrue valid =>
      simp only [Option.some.injEq, Prod.mk.injEq] at read
      obtain ⟨rfl, rfl⟩ := read
      have continues :
          ∀ character ∈ following.takeWhile isIdentifierPart, IsNamePart character := by
        intro character member
        exact isIdentifierPart_iff.mp (List.all_eq_true.mp List.all_takeWhile character member)
      refine ⟨⟨first, following.takeWhile isIdentifierPart, isIdentifierStart_iff.mp valid.1,
        continues, Nat.le_of_lt_succ valid.2⟩, rfl, ?_⟩
      simp only [Name.characters, List.cons_append, List.takeWhile_append_dropWhile]

/-! ## Arguments -/

theorem readQuoted?_append (quotation : Quotation) (text : List Char) :
    readQuoted? (quotation.written ++ text) = some (quotation.body, text) := by
  have inside : ∀ character ∈ quotation.body, decide (character ≠ '`') = true := by
    intro character member
    refine decide_eq_true fun same => quotation.closed ?_
    exact same ▸ member
  have stretch := @takeWhile_of_ends _ quotation.body ('`' :: text) inside (by simp)
  simp only [Quotation.written, List.cons_append, List.append_assoc, List.nil_append, readQuoted?,
    stretch.1, stretch.2]

theorem exists_quotation_of_readQuoted? {text body rest : List Char}
    (read : readQuoted? text = some (body, rest)) :
    ∃ quotation : Quotation, quotation.body = body ∧ text = quotation.written ++ rest := by
  unfold readQuoted? at read
  split at read
  case h_2 => cases read
  case h_1 following =>
    split at read
    case h_1 => cases read
    case h_2 closing after equal =>
      simp only [Option.some.injEq, Prod.mk.injEq] at read
      obtain ⟨rfl, rfl⟩ := read
      have ends : closing = '`' := by
        have stopped :=
          List.head?_dropWhile_not (fun character => decide (character ≠ '`')) following
        rw [equal] at stopped
        simpa using stopped
      subst ends
      refine ⟨⟨following.takeWhile (· ≠ '`'), ?_⟩, rfl, ?_⟩
      · intro member
        have inside := List.all_eq_true.mp List.all_takeWhile '`' member
        simp at inside
      · have whole := List.takeWhile_append_dropWhile (p := (· ≠ '`')) (l := following)
        rw [equal] at whole
        simp only [Quotation.written, List.cons_append, List.append_assoc, List.nil_append, whole]

private theorem readArguments?_of_comma {text body rest following : List Char}
    (read : readQuoted? text = some (body, rest)) (comma : skipBlanks rest = ',' :: following) :
    readArguments? text =
      (readArguments? (skipBlanks following)).map fun more => (body :: more.1, more.2) := by
  rw [readArguments?]
  split
  case h_1 refused =>
    rw [refused] at read
    cases read
  case h_2 other after again =>
    rw [again] at read
    cases read
    split
    case h_1 next continues =>
      rw [continues] at comma
      cases comma
      rfl
    case h_2 stops => exact absurd comma (stops following)

private theorem readArguments?_of_last {text body rest : List Char}
    (read : readQuoted? text = some (body, rest))
    (ends : ∀ following, skipBlanks rest ≠ ',' :: following) :
    readArguments? text = some ([body], rest) := by
  rw [readArguments?]
  split
  case h_1 refused =>
    rw [refused] at read
    cases read
  case h_2 other after again =>
    rw [again] at read
    cases read
    split
    case h_1 next continues => exact absurd continues (ends next)
    case h_2 => rfl

theorem skipBlanks_written (quotation : Quotation) (text : List Char) :
    skipBlanks (quotation.written ++ text) = quotation.written ++ text :=
  skipBlanks_cons (by decide) _

theorem readArguments?_append (listing : Listing Quotation) {text : List Char}
    (ends : ∀ following, skipBlanks text ≠ ',' :: following) :
    readArguments? (listing.written ++ text) =
      some (listing.arguments.map Quotation.body, text) := by
  obtain ⟨first, others⟩ := listing
  -- Each further argument is read by the call that follows the comma before it.
  induction others generalizing first with
  | nil =>
    have read := readQuoted?_append first text
    simpa [Listing.written, Listing.arguments] using readArguments?_of_last read ends
  | cons further others ih =>
    have whole : Listing.written ⟨first, further :: others⟩ ++ text =
        first.written ++ (further.before.characters ++ ',' ::
          (further.after.characters ++
            (Listing.written ⟨further.argument, others⟩ ++ text))) := by
      simp only [Listing.written, List.flatMap_cons, Further.written, List.append_assoc,
        List.cons_append]
    have comma := skipBlanks_append further.before
      (',' :: (further.after.characters ++ (Listing.written ⟨further.argument, others⟩ ++ text)))
    rw [skipBlanks_cons (by decide)] at comma
    have next : skipBlanks (further.after.characters ++
        (Listing.written ⟨further.argument, others⟩ ++ text)) =
        Listing.written ⟨further.argument, others⟩ ++ text := by
      rw [skipBlanks_append, Listing.written, List.append_assoc, skipBlanks_written]
    rw [whole, readArguments?_of_comma (readQuoted?_append first _) comma, next,
      ih further.argument]
    rfl

theorem exists_listing_of_readArguments? {text rest : List Char} {bodies : List (List Char)}
    (read : readArguments? text = some (bodies, rest)) :
    ∃ listing : Listing Quotation,
      listing.arguments.map Quotation.body = bodies ∧ text = listing.written ++ rest := by
  fun_induction readArguments? text generalizing bodies rest with
  | case1 => cases read
  | case2 text body after readFirst following comma ih =>
    simp only [Option.map_eq_some_iff, Prod.exists, Prod.mk.injEq] at read
    obtain ⟨others, last, readOthers, rfl, rfl⟩ := read
    obtain ⟨first, rfl, rfl⟩ := exists_quotation_of_readQuoted? readFirst
    obtain ⟨listing, rfl, split⟩ := ih readOthers
    obtain ⟨before, beforeSplit⟩ := exists_blanks after
    obtain ⟨gap, gapSplit⟩ := exists_blanks following
    refine ⟨⟨first, ⟨before, gap, listing.first⟩ :: listing.others⟩, rfl, ?_⟩
    rw [beforeSplit, comma, gapSplit, split]
    simp only [Listing.written, List.flatMap_cons, Further.written, List.append_assoc,
      List.cons_append]
  | case3 text body after readFirst stops =>
    simp only [Option.some.injEq, Prod.mk.injEq] at read
    obtain ⟨rfl, rfl⟩ := read
    obtain ⟨first, rfl, rfl⟩ := exists_quotation_of_readQuoted? readFirst
    refine ⟨⟨first, []⟩, rfl, ?_⟩
    simp only [Listing.written, List.flatMap_nil, List.append_nil]

/-! ## Calls -/

private theorem skipBlanks_closing (call : Call Quotation) (text : List Char) :
    skipBlanks (call.closing.characters ++ ')' :: text) = ')' :: text := by
  rw [skipBlanks_append, skipBlanks_cons (by decide)]

theorem readCall?_append (call : Call Quotation) (text : List Char) :
    readCall? (call.written ++ text) = some (some (call.arguments.map Quotation.body), text) := by
  have closed := skipBlanks_closing call text
  obtain ⟨opening, listing, closing⟩ := call
  cases listing with
  | none =>
    simp only [Call.written, Call.inside, List.nil_append, List.cons_append, List.append_assoc,
      readCall?, skipBlanks_append] at closed ⊢
    rw [closed]
    rfl
  | some listing =>
    have ends : ∀ following,
        skipBlanks (closing.characters ++ ')' :: text) ≠ ',' :: following := by
      intro following comma
      rw [closed] at comma
      cases comma
    have read := readArguments?_append listing ends
    have shown : skipBlanks (listing.written ++ (closing.characters ++ ')' :: text)) =
        listing.written ++ (closing.characters ++ ')' :: text) := by
      rw [Listing.written, List.append_assoc, skipBlanks_written]
    simp only [Call.written, Call.inside, List.nil_append, List.cons_append, List.append_assoc,
      readCall?, skipBlanks_append, shown]
    split
    case h_1 following parenthesis =>
      simp only [Listing.written, Quotation.written, List.cons_append] at parenthesis
      cases parenthesis
    case h_2 =>
      simp only [read, Option.bind_eq_bind, Option.bind_some, closed]
      rfl

private theorem readCall?_of_no_parenthesis {text : List Char}
    (other : ∀ rest, text ≠ '(' :: rest) :
    readCall? text = some (none, text) := by
  unfold readCall?
  split
  case h_1 rest => exact absurd rfl (other rest)
  case h_2 => rfl

theorem exists_call_of_readCall? {text rest : List Char} {bodies? : Option (List (List Char))}
    (read : readCall? text = some (bodies?, rest)) :
    bodies? = none ∧ rest = text ∨
      ∃ call : Call Quotation,
        bodies? = some (call.arguments.map Quotation.body) ∧ text = call.written ++ rest := by
  unfold readCall? at read
  split at read
  case h_2 =>
    simp only [Option.some.injEq, Prod.mk.injEq] at read
    exact .inl ⟨read.1.symm, read.2.symm⟩
  case h_1 tail =>
    obtain ⟨opening, openingSplit⟩ := exists_blanks tail
    right
    split at read
    case h_1 following parenthesis =>
      simp only [Option.some.injEq, Prod.mk.injEq] at read
      obtain ⟨rfl, rfl⟩ := read
      refine ⟨⟨opening, none, ⟨[], by simp⟩⟩, rfl, ?_⟩
      rw [openingSplit, parenthesis]
      simp only [Call.written, Call.inside, List.nil_append, List.cons_append, List.append_assoc]
    case h_2 =>
      simp only [Option.bind_eq_bind, Option.bind_eq_some_iff, Prod.exists] at read
      obtain ⟨bodies, after, readInner, closed⟩ := read
      obtain ⟨listing, rfl, innerSplit⟩ := exists_listing_of_readArguments? readInner
      obtain ⟨closing, closingSplit⟩ := exists_blanks after
      split at closed
      case h_2 => cases closed
      case h_1 following parenthesis =>
        simp only [Option.some.injEq, Prod.mk.injEq] at closed
        obtain ⟨rfl, rfl⟩ := closed
        refine ⟨⟨opening, some listing, closing⟩, rfl, ?_⟩
        rw [openingSplit, innerSplit, closingSplit, parenthesis]
        simp only [Call.written, Call.inside, List.nil_append, List.cons_append, List.append_assoc]

/-! ## Tokens -/

private theorem skipBlanks_name (name : Name) (text : List Char) :
    skipBlanks (name.characters ++ text) = name.characters ++ text :=
  skipBlanks_cons (isBlank_of_isNamePart (.inl name.starts)) _

/-- Whatever may follow a name, blanks, a call or the brace, does not begin with a character that
could continue the name. -/
theorem not_isNamePart_after_name (word : Word Quotation) (text : List Char) :
    ∀ character ∈ (word.gap.characters ++ (word.tail ++ text)).head?, ¬ IsNamePart character := by
  intro character first
  obtain ⟨opening, name, ⟨gap, blank⟩, call⟩ := word
  cases gap with
  | cons head rest =>
    cases first
    exact not_isNamePart_of_isBlank (blank character List.mem_cons_self)
  | nil =>
    cases call with
    | none =>
      cases first
      exact (not_congr isIdentifierPart_iff).mp (by decide)
    | some call =>
      cases first
      exact (not_congr isIdentifierPart_iff).mp (by decide)

/-- A word is read as what it says, whatever follows it. -/
theorem readToken?_append (word : Word Quotation) (text : List Char) :
    readToken? (word.written ++ text) = some (word.token Quotation.meaning, text) := by
  have readName := readIdentifier?_append word.name (not_isNamePart_after_name word text)
  obtain ⟨opening, name, gap, call⟩ := word
  have closed : ∀ blanks : Blanks, skipBlanks (blanks.characters ++ '\x7d' :: text) =
      '\x7d' :: text := by
    intro blanks
    rw [skipBlanks_append, skipBlanks_cons (by decide)]
  simp only [Word.written, List.cons_append, List.append_assoc, readToken?, skipBlanks_append,
    skipBlanks_name, readName, Option.bind_eq_bind, Option.bind_some]
  cases call with
  | none =>
    have brace : skipBlanks ('\x7d' :: text) = '\x7d' :: text := skipBlanks_cons (by decide) text
    have readNone : readCall? ('\x7d' :: text) = some (none, '\x7d' :: text) :=
      readCall?_of_no_parenthesis (by simp)
    simp only [Word.tail, List.cons_append, List.nil_append, brace, readNone, Option.bind_some]
    rfl
  | some call =>
    obtain ⟨call, after⟩ := call
    have parenthesis : ∀ following, skipBlanks (call.written ++ following) =
        call.written ++ following := fun following => skipBlanks_cons (by decide) _
    simp only [Word.tail, List.append_assoc, List.cons_append, List.nil_append, parenthesis,
      readCall?_append, Option.bind_some, closed]
    simp only [Word.token, Word.arguments, Option.map_some, List.map_map]
    rfl

/-- Whatever is read as a token begins with a word that says it. -/
theorem exists_word_of_readToken? {text rest : List Char} {token : Token}
    (read : readToken? text = some (token, rest)) :
    ∃ word : Word Quotation,
      word.token Quotation.meaning = token ∧ text = word.written ++ rest := by
  unfold readToken? at read
  split at read
  case h_2 => cases read
  case h_1 tail =>
    simp only [Option.bind_eq_bind, Option.bind_eq_some_iff, Prod.exists] at read
    obtain ⟨identifier, afterName, readName, bodies?, afterCall, readRest, closed⟩ := read
    obtain ⟨opening, openingSplit⟩ := exists_blanks tail
    obtain ⟨name, rfl, nameSplit⟩ := exists_name_of_readIdentifier? readName
    obtain ⟨gap, gapSplit⟩ := exists_blanks afterName
    obtain ⟨after, afterSplit⟩ := exists_blanks afterCall
    split at closed
    case h_2 => cases closed
    case h_1 following brace =>
      simp only [Option.some.injEq, Prod.mk.injEq] at closed
      obtain ⟨rfl, rfl⟩ := closed
      rcases exists_call_of_readCall? readRest with ⟨rfl, rfl⟩ | ⟨call, rfl, callSplit⟩
      · -- Without a call the blanks before the brace were skipped already.
        rw [skipBlanks_skipBlanks] at brace
        refine ⟨⟨opening, name, gap, none⟩, rfl, ?_⟩
        rw [openingSplit, nameSplit, gapSplit, brace]
        simp only [Word.written, Word.tail, List.cons_append, List.append_assoc, List.nil_append]
      · refine ⟨⟨opening, name, gap, some (call, after)⟩, ?_, ?_⟩
        · simp only [Word.token, Word.arguments, Option.map_some, List.map_map]
          rfl
        · rw [openingSplit, nameSplit, gapSplit, callSplit, afterSplit, brace]
          simp only [Word.written, Word.tail, List.cons_append, List.append_assoc, List.nil_append]

end Stencil.Template.Grammar
