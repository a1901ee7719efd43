import Stencil.Proofs.Template.Captures
import Stencil.Proofs.Template.Rendering

/-!
# Arguments between back-ticks

The back-ticks of a text delimit its arguments two by two, from the left; a last one without a
partner delimits none. So a text has half as many arguments as back-ticks. Searching it for the
pattern of a quoted argument finds the same ones, and the listing of a call, cut on its own, gives
the arguments of the call. What an argument can be is told exactly: any text without the pair that
stands for a back-tick.
-/

set_option autoImplicit false

namespace Stencil.Template

open Grammar Text

/-! ## Two by two -/

/-- How the quotations of a text are told from the left. What stands before a quotation is passed
over, and so is a back-tick that no other one follows. -/
inductive ReadsQuotations : List Char → List (List Char) → Prop where
  | silent {text : List Char} (quiet : '`' ∉ text) : ReadsQuotations text []
  | unclosed {before after : List Char} (quiet : '`' ∉ before) (single : '`' ∉ after) :
      ReadsQuotations (before ++ '`' :: after) []
  | quotation {before rest : List Char} {bodies : List (List Char)} (quiet : '`' ∉ before)
      (quotation : Quotation) (reads : ReadsQuotations rest bodies) :
      ReadsQuotations (before ++ (quotation.written ++ rest)) (quotation.body :: bodies)

private theorem exists_quotation_of_tick_mem {after : List Char} (another : '`' ∈ after) :
    ∃ (quotation : Quotation) (rest : List Char), '`' :: after = quotation.written ++ rest := by
  obtain ⟨body, rest, rfl, closed⟩ := List.eq_append_cons_of_mem another
  exact ⟨⟨body, closed⟩, rest, by simp [Quotation.written]⟩

theorem readsQuotations_quotedStretches (text : List Char) :
    ReadsQuotations text (quotedStretches (splitAt '`' text)) := by
  -- On the length: what follows a quotation is no immediate tail of the text.
  induction length : text.length using Nat.strongRecOn generalizing text with
  | ind size ih =>
    by_cases tick : '`' ∈ text
    · obtain ⟨before, after, rfl, quiet⟩ := List.eq_append_cons_of_mem tick
      by_cases another : '`' ∈ after
      · obtain ⟨quotation, rest, split⟩ := exists_quotation_of_tick_mem another
        rw [split] at length ⊢
        have shorter : rest.length < size := by
          simp only [Quotation.written, List.length_append, List.length_cons] at length
          omega
        rw [quotedStretches_quotation quiet]
        exact .quotation quiet quotation (ih rest.length shorter rest rfl)
      · rw [splitAt_append quiet, splitAt_of_not_mem another]
        exact .unclosed quiet another
    · rw [splitAt_of_not_mem tick]
      exact .silent tick

private theorem Grammar.Quotation.count_written (quotation : Quotation) :
    quotation.written.count '`' = 2 := by
  have inside : quotation.body.count '`' = 0 := List.count_eq_zero.mpr quotation.closed
  simp [Quotation.written, inside]

/-- A stretch of a text between two neighbouring back-ticks, with a number of pairs of them before
it. -/
def BetweenTicks (text : List Char) (pairs : Nat) (body : List Char) : Prop :=
  ∃ before after, text = before ++ '`' :: (body ++ '`' :: after) ∧
    before.count '`' = 2 * pairs ∧ '`' ∉ body

private theorem append_tick_inj {before other rest others : List Char}
    (same : before ++ '`' :: rest = other ++ '`' :: others)
    (ticks : before.count '`' = other.count '`') : before = other ∧ rest = others := by
  induction before generalizing other with
  | nil =>
    cases other with
    | nil => exact ⟨rfl, (List.cons.inj same).2⟩
    | cons character other =>
      obtain ⟨rfl, -⟩ := List.cons.inj same
      simp at ticks
  | cons character before ih =>
    cases other with
    | nil =>
      obtain ⟨rfl, -⟩ := List.cons.inj same
      simp at ticks
    | cons head other =>
      obtain ⟨rfl, later⟩ := List.cons.inj same
      have fewer : before.count '`' = other.count '`' := by
        simp only [List.count_cons] at ticks
        omega
      obtain ⟨rfl, rfl⟩ := ih later fewer
      exact ⟨rfl, rfl⟩

namespace BetweenTicks

variable {text body other : List Char} {pairs : Nat}

theorem unique (between : BetweenTicks text pairs body) (otherwise : BetweenTicks text pairs other) :
    body = other := by
  obtain ⟨before, after, rfl, ticks, closed⟩ := between
  obtain ⟨otherBefore, otherAfter, split, otherTicks, otherClosed⟩ := otherwise
  obtain ⟨rfl, rest⟩ := append_tick_inj split (ticks.trans otherTicks.symm)
  have none : body.count '`' = other.count '`' := by
    rw [List.count_eq_zero.mpr closed, List.count_eq_zero.mpr otherClosed]
  exact (append_tick_inj rest none).1

private theorem lt_count (between : BetweenTicks text pairs body) : pairs < text.count '`' / 2 := by
  obtain ⟨before, after, rfl, ticks, -⟩ := between
  simp only [List.count_append, List.count_cons_self, ticks]
  omega

end BetweenTicks

namespace ReadsQuotations

variable {text body : List Char} {bodies : List (List Char)} {index : Nat}

theorem length_eq (reads : ReadsQuotations text bodies) :
    bodies.length = text.count '`' / 2 := by
  induction reads with
  | silent quiet => simp [List.count_eq_zero.mpr quiet]
  | unclosed quiet single => simp [List.count_eq_zero.mpr quiet, List.count_eq_zero.mpr single]
  | quotation quiet quotation _ ih =>
    simp only [List.length_cons, ih, List.count_append, List.count_eq_zero.mpr quiet,
      quotation.count_written]
    omega

private theorem betweenTicks_of_getElem? (reads : ReadsQuotations text bodies)
    (there : bodies[index]? = some body) : BetweenTicks text index body := by
  induction reads generalizing index with
  | silent => cases there
  | unclosed => cases there
  | @quotation before rest bodies quiet quotation reads ih =>
    have none : before.count '`' = 0 := List.count_eq_zero.mpr quiet
    cases index with
    | zero =>
      obtain rfl := Option.some.inj there
      exact ⟨before, rest, by simp [Quotation.written], none, quotation.closed⟩
    | succ index =>
      obtain ⟨between, after, rfl, ticks, closed⟩ := ih there
      refine ⟨before ++ (quotation.written ++ between), after, ?_, ?_, closed⟩
      · simp only [List.append_assoc]
      · simp only [List.count_append, none, quotation.count_written, ticks]
        omega

theorem getElem?_eq_some_iff (reads : ReadsQuotations text bodies) :
    bodies[index]? = some body ↔ BetweenTicks text index body := by
  constructor
  · exact reads.betweenTicks_of_getElem?
  · intro between
    have within : index < bodies.length := by
      rw [reads.length_eq]
      exact between.lt_count
    have there := List.getElem?_eq_getElem within
    rw [there, (reads.betweenTicks_of_getElem? there).unique between]

end ReadsQuotations

/-! ## Searching for quotations -/

namespace Pattern

/-- No match of a pattern begins a text that starts at an offset in bytes. -/
def Misses (pattern : Pattern) (start : Nat) (text : List Char) : Prop :=
  ∀ expression rest captures, text = expression ++ rest → ¬ pattern.Matches start expression captures

/-- What is captured when a text is searched from the left for a pattern that matches no empty text:
the search goes on behind each match, and one character further where none begins. -/
inductive Finds (pattern : Pattern) : Nat → List Char → List Capture → Prop where
  | done {start : Nat} : Finds pattern start [] []
  | skipped {start : Nat} {character : Char} {rest : List Char} {captures : List Capture}
      (misses : pattern.Misses start (character :: rest))
      (later : Finds pattern (start + character.utf8Size) rest captures) :
      Finds pattern start (character :: rest) captures
  | found {start : Nat} {expression rest : List Char} {captures others : List Capture}
      (way : pattern.Matches start expression captures)
      (later : Finds pattern (start + byteLength expression) rest others) :
      Finds pattern start (expression ++ rest) (captures ++ others)

variable {start : Nat} {character : Char} {text before rest : List Char} {captures : List Capture}

private theorem misses_argument_of_other (other : character ≠ '`') :
    argument.Misses start (character :: rest) := by
  intro expression after captures split way
  obtain ⟨quotation, rfl, -⟩ := matches_argument_iff.mp way
  exact other (List.cons.inj split).1

private theorem misses_argument_of_single (single : '`' ∉ rest) :
    argument.Misses start ('`' :: rest) := by
  intro expression after captures split way
  obtain ⟨quotation, rfl, -⟩ := matches_argument_iff.mp way
  apply single
  rw [(List.cons.inj split).2]
  simp

private theorem finds_argument_append (quiet : '`' ∉ before)
    (later : argument.Finds (start + byteLength before) rest captures) :
    argument.Finds start (before ++ rest) captures := by
  induction before generalizing start with
  | nil => exact later
  | cons character before ih =>
    have other : character ≠ '`' := (List.ne_of_not_mem_cons quiet).symm
    refine .skipped (misses_argument_of_other other) ?_
    apply ih (List.not_mem_of_not_mem_cons quiet)
    rwa [Nat.add_assoc]

private theorem finds_argument_of_quiet (quiet : '`' ∉ text) : argument.Finds start text [] := by
  rw [← List.append_nil text]
  exact finds_argument_append quiet .done

private theorem exists_finds_argument (start : Nat) (text : List Char) :
    ∃ captures, argument.Finds start text captures := by
  have reads := readsQuotations_quotedStretches text
  generalize quotedStretches (splitAt '`' text) = bodies at reads
  induction reads generalizing start with
  | silent quiet => exact ⟨[], finds_argument_of_quiet quiet⟩
  | unclosed quiet single =>
    refine ⟨[], finds_argument_append quiet (.skipped (misses_argument_of_single single) ?_)⟩
    exact finds_argument_of_quiet single
  | @quotation before rest _ quiet quotation _ ih =>
    obtain ⟨captures, later⟩ := ih (start + byteLength before + byteLength quotation.written)
    have way : argument.Matches (start + byteLength before) quotation.written
        (quotation.captures _) := matches_argument_iff.mpr ⟨quotation, rfl, rfl⟩
    exact ⟨_, finds_argument_append quiet (.found way later)⟩

/-- What stands before the first back-tick is passed over, whatever it is. -/
private theorem quotedStretches_cons_congr (first other : List Char) (rest : List (List Char)) :
    quotedStretches (first :: rest) = quotedStretches (other :: rest) := by
  rcases rest with _ | ⟨body, _ | ⟨next, rest⟩⟩
  · rfl
  · rfl
  · rfl

/-- Where no quotation begins, the next character changes nothing: it is passed over with what
stands before the next back-tick, or it is a back-tick without a partner. -/
private theorem quotedStretches_of_misses (misses : argument.Misses start (character :: rest)) :
    quotedStretches (splitAt '`' (character :: rest)) = quotedStretches (splitAt '`' rest) := by
  by_cases tick : character = '`'
  · subst tick
    have single : '`' ∉ rest := by
      intro another
      obtain ⟨quotation, after, split⟩ := exists_quotation_of_tick_mem another
      exact misses _ _ _ split (matches_argument_iff.mpr ⟨quotation, rfl, rfl⟩)
    rw [splitAt, if_pos rfl, splitAt_of_not_mem single]
    rfl
  · obtain ⟨first, others, split⟩ := List.exists_cons_of_ne_nil (splitAt_ne_nil '`' rest)
    rw [splitAt, if_neg tick, split]
    exact quotedStretches_cons_congr _ _ others

theorem Finds.bodies_eq (finds : argument.Finds start text captures) :
    Capture.bodies captures = quotedStretches (splitAt '`' text) := by
  induction finds with
  | done => rfl
  | skipped misses _ ih => rw [ih, quotedStretches_of_misses misses]
  | found way _ ih =>
    obtain ⟨quotation, rfl, rfl⟩ := matches_argument_iff.mp way
    have first := quotedStretches_quotation List.not_mem_nil quotation
    rw [← List.nil_append (quotation.written ++ _), first, ← ih]
    rfl

end Pattern

/-! ## The arguments of a text -/

theorem length_arguments (raw : String) :
    (arguments raw).length = raw.toList.count '`' / 2 := by
  rw [arguments, List.length_map]
  exact (readsQuotations_quotedStretches _).length_eq

theorem getElem?_arguments_eq_some_iff {raw argument : String} {index : Nat} :
    (arguments raw)[index]? = some argument ↔
      ∃ body, BetweenTicks raw.toList index body ∧
        ReadsPairs '\\' '\'' '`' body argument.toList := by
  have reads := readsQuotations_quotedStretches raw.toList
  simp only [arguments, List.getElem?_map, Option.map_eq_some_iff, reads.getElem?_eq_some_iff,
    readsPairs_iff, unescape, ← String.toList_inj, String.toList_ofList]

theorem arguments_of_finds {raw : String} {start : Nat} {captures : List Capture}
    (finds : Pattern.argument.Finds start raw.toList captures) :
    arguments raw = (Capture.bodies captures).map unescape := by
  rw [arguments, finds.bodies_eq]

/-! ## What an argument can be -/

theorem not_infix_of_mem_arguments {raw argument : String} (member : argument ∈ arguments raw) :
    ¬ ['\\', '\''] <:+: argument.toList := by
  obtain ⟨body, -, rfl⟩ := List.mem_map.mp member
  rw [unescape, String.toList_ofList]
  exact pair_not_infix_replacePair (by decide) (by decide) body

/-- An argument is the only one of the text that quotes it. -/
theorem Argument.arguments_quotation (argument : Argument) :
    arguments (String.ofList argument.quotation.written) = [argument.text] := by
  have quoted := quotedStretches_quotation List.not_mem_nil argument.quotation []
  rw [List.nil_append, List.append_nil] at quoted
  rw [arguments, String.toList_ofList, quoted]
  exact congrArg (fun text => [text]) argument.meaning_quotation

/-! ## The arguments of a call -/

theorem Grammar.Call.arguments_listing (call : Call Quotation) :
    ((call.listing.map Listing.written).map fun listing =>
      Template.arguments (String.ofList listing)).getD [] =
        call.arguments.map Quotation.meaning := by
  obtain ⟨opening, listing, closing⟩ := call
  cases listing with
  | none => rfl
  | some listing => exact listing.arguments_written

/-- A token that captures a call is a word of the grammar with a call, and captures its listing. -/
theorem exists_call_of_captured {start : Nat} {expression written : List Char}
    {captures : List Capture} (way : Pattern.token.Matches start expression captures)
    (captured : Capture.textOf? .call captures = some written) :
    ∃ (word : Word Quotation) (call : Call Quotation) (after : Blanks),
      expression = word.written ∧ word.call = some (call, after) ∧ written = call.written ∧
        Capture.textOf? .listing captures = call.listing.map Listing.written := by
  obtain ⟨word, rfl, rfl⟩ := Pattern.matches_token_iff.mp way
  obtain ⟨opening, name, gap, call⟩ := word
  cases call with
  | none => cases captured
  | some call =>
    obtain ⟨⟨before, listing, closing⟩, after⟩ := call
    refine ⟨_, ⟨before, listing, closing⟩, after, rfl, rfl, (Option.some.inj captured).symm, ?_⟩
    cases listing with
    | none => rfl
    | some listing => rfl

/-- A text has half as many arguments as back-ticks, rounded down. Each one is read from the stretch
between the two back-ticks of its pair, a pair `\'` being read as a back-tick, and a search for the
pattern of a quoted argument finds just these stretches. What arguments can be are the texts that
hold no `\'`; each of them is the one argument of a text. Cutting the listing that a call captures,
if any, gives the arguments of the call, one for each in order. -/
theorem arguments_between_ticks :
    (∀ raw : String,
      (arguments raw).length = raw.toList.count '`' / 2 ∧
      (∀ index argument, (arguments raw)[index]? = some argument ↔
        ∃ body, BetweenTicks raw.toList index body ∧
          ReadsPairs '\\' '\'' '`' body argument.toList) ∧
      (∃ captures, Pattern.argument.Finds 0 raw.toList captures) ∧
      ∀ captures, Pattern.argument.Finds 0 raw.toList captures →
        arguments raw = (Capture.bodies captures).map unescape) ∧
    (∀ text : String, (∃ raw, text ∈ arguments raw) ↔ ¬ ['\\', '\''] <:+: text.toList) ∧
    (∀ text : String, ¬ ['\\', '\''] <:+: text.toList →
      arguments (String.ofList ('`' :: (escape text.toList ++ ['`']))) = [text]) ∧
    ∀ (start : Nat) (expression written : List Char) (captures : List Capture),
      Pattern.token.Matches start expression captures →
        Capture.textOf? .call captures = some written →
          ∃ (word : Word Quotation) (call : Call Quotation) (after : Blanks),
            expression = word.written ∧ word.call = some (call, after) ∧ written = call.written ∧
            Capture.textOf? .listing captures = call.listing.map Listing.written ∧
            ((Capture.textOf? .listing captures).map fun listing =>
              arguments (String.ofList listing)).getD [] =
                call.arguments.map Quotation.meaning := by
  refine ⟨fun raw => ⟨?_, ?_, ?_, ?_⟩, fun text => ⟨?_, ?_⟩, ?_, ?_⟩
  · exact length_arguments raw
  · exact fun index argument => getElem?_arguments_eq_some_iff
  · exact Pattern.exists_finds_argument 0 raw.toList
  · exact fun captures finds => arguments_of_finds finds
  · rintro ⟨raw, member⟩
    exact not_infix_of_mem_arguments member
  · intro unpaired
    have quoted := Argument.arguments_quotation ⟨text, unpaired⟩
    exact ⟨_, quoted ▸ List.mem_singleton_self text⟩
  · intro text unpaired
    exact Argument.arguments_quotation ⟨text, unpaired⟩
  · intro start expression written captures way captured
    obtain ⟨word, call, after, whole, called, within, listed⟩ :=
      exists_call_of_captured way captured
    refine ⟨word, call, after, whole, called, within, listed, ?_⟩
    rw [listed]
    exact call.arguments_listing

/-- Three back-ticks, and a backslash in front of a pair; then a call with blanks around its two
arguments, the first of them a pair and the second a parenthesis. -/
theorem arguments_between_ticks_odd :
    let captures : List Capture :=
      [⟨.identifier, 2, ['f']⟩, ⟨.call, 4, "( `\\'` , `)` )".toList⟩,
        ⟨.listing, 6, "`\\'` , `)`".toList⟩, ⟨.body, 7, "\\'".toList⟩, ⟨.body, 14, [')']⟩]
    BetweenTicks "x`a\\\\''`y`".toList 0 "a\\\\''".toList ∧
      (arguments "x`a\\\\''`y`").length = 1 ∧
      (arguments "x`a\\\\''`y`")[0]? = some "a\\`'" ∧
      ¬ ['\\', '\''] <:+: "a\\`'".toList ∧ arguments "`a\\\\''`" = ["a\\`'"] ∧
      Pattern.token.Matches 0 "$\x7bf ( `\\'` , `)` )\x7d".toList captures ∧
      ∃ (word : Word Quotation) (call : Call Quotation) (after : Blanks),
        "$\x7bf ( `\\'` , `)` )\x7d".toList = word.written ∧ word.call = some (call, after) ∧
          "( `\\'` , `)` )".toList = call.written ∧
          some "`\\'` , `)`".toList = call.listing.map Listing.written ∧
          arguments "`\\'` , `)`" = call.arguments.map Quotation.meaning := by
  intro captures
  have between : BetweenTicks "x`a\\\\''`y`".toList 0 "a\\\\''".toList :=
    ⟨['x'], "y`".toList, rfl, rfl, by decide⟩
  have way : Pattern.token.Matches 0 "$\x7bf ( `\\'` , `)` )\x7d".toList captures := by
    let blank : Blanks := ⟨[' '], List.forall_mem_singleton.mpr rfl⟩
    let name : Name := ⟨'f', [], by decide, List.forall_mem_nil _, by decide⟩
    let given : Listing Quotation :=
      ⟨⟨['\\', '\''], by decide⟩, [⟨blank, blank, ⟨[')'], by decide⟩⟩]⟩
    refine Pattern.matches_token_iff.mpr
      ⟨⟨.none, name, blank, some (⟨blank, some given, blank⟩, .none)⟩, ?_, ?_⟩
    · rfl
    · rfl
  obtain ⟨cut, possible, quoted, called⟩ := arguments_between_ticks
  obtain ⟨length, items, -⟩ := cut "x`a\\\\''`y`"
  have there : (arguments "x`a\\\\''`y`")[0]? = some "a\\`'" :=
    (items 0 _).mpr ⟨_, between, readsPairs_iff.mpr rfl⟩
  have unpaired : ¬ ['\\', '\''] <:+: "a\\`'".toList :=
    (possible _).mp ⟨_, List.mem_of_getElem? there⟩
  have spelled : String.ofList ('`' :: (escape "a\\`'".toList ++ ['`'])) = "`a\\\\''`" := by decide
  have given : Capture.textOf? .listing captures = some "`\\'` , `)`".toList := rfl
  obtain ⟨word, call, after, whole, calls, within, listed, arguments⟩ :=
    called 0 _ _ captures way rfl
  rw [given] at listed arguments
  rw [Option.map_some, Option.getD_some, String.ofList_toList] at arguments
  refine ⟨between, length, there, unpaired, ?_, way, word, call, after, whole, calls, within,
    listed, arguments⟩
  rw [← spelled]
  exact quoted _ unpaired

end Stencil.Template
