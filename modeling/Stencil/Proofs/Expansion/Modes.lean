import Stencil.Proofs.Expansion.Reference

/-!
# Loose and strict expansions

A loose expansion never fails and is the reference expansion. A strict one takes the same steps up
to the first token that does not resolve: without such a token both end alike, and with one the
strict expansion ends there with its reason.
-/

set_option autoImplicit false

namespace Stencil

open Template

/-! ## Templates without tokens -/

theorem scan_eq_nil_of_blank {template : String} (blank : Text.isBlankText template = true) :
    scan template = [] := by
  cases found : scan template with
  | nil => rfl
  | cons occurrence rest =>
    have member : occurrence ∈ scan template := found ▸ List.mem_cons_self
    obtain ⟨before, word, after, split, -⟩ :=
      (cut_pieces template.toList).exists_word 0 occurrence member
    have dollar : '$' ∈ template.toList := by
      rw [split, List.append_assoc]
      exact List.mem_append_right before List.mem_cons_self
    exact absurd (List.all_eq_true.mp blank '$' dollar) (by decide)

namespace Tokenizer

variable {σ : Type} (tokenizer : Tokenizer σ) (wildcard : Option (Strategy σ))

private theorem expandPieces_of_no_tokens {cut : List Piece} {offset : Nat}
    (none : occurrences offset cut = []) (sofar : Expansion) (state : σ) :
    tokenizer.expandPieces wildcard sofar state cut =
      (⟨.ok (sofar.append (String.ofList (cut.flatMap Piece.written))), sofar.keys⟩, state) := by
  induction cut generalizing offset sofar with
  | nil => rw [List.flatMap_nil, Expansion.append_empty]; rfl
  | cons piece rest ih =>
    cases piece with
    | token written token => cases none
    | plain character =>
      rw [expandPieces, ih none, String.singleton_eq_ofList, Expansion.append_append]
      rfl

/-- The early end for blank templates changes nothing. -/
theorem expand_eq_expandPieces (template : String) (state : σ) :
    tokenizer.expand wildcard template state =
      tokenizer.expandPieces wildcard .empty state (pieces template.toList) := by
  unfold expand
  split
  case isFalse => rfl
  case isTrue blank =>
    rw [tokenizer.expandPieces_of_no_tokens wildcard (scan_eq_nil_of_blank blank),
      (cut_pieces template.toList).flatMap_written, String.ofList_toList]
    simp only [Expansion.append, Expansion.empty, String.empty_append]

private theorem looseExpansion_of_no_tokens {template : String} (none : scan template = [])
    (state : σ) :
    tokenizer.looseExpansion wildcard template state = (⟨template, 0, .empty⟩, state) := by
  rw [looseExpansion, none]
  simp only [resolutions, weave, slice_full, failures, List.countP_nil]
  rfl

/-! ## Steps -/

theorem expandPieces_of_resolved {token : Token} {text : String} {state next : σ}
    (resolves : tokenizer.resolve wildcard token state = (.ok text, next)) (sofar : Expansion)
    (written : List Char) (rest : List Piece) :
    tokenizer.expandPieces wildcard sofar state (.token written token :: rest) =
      tokenizer.expandPieces wildcard ((sofar.note token.key).append text) next rest := by
  rw [expandPieces, resolves]

theorem expandPieces_of_failed (strict : tokenizer.strict = true) {token : Token}
    {reason : FailureReason} {state next : σ}
    (fails : tokenizer.resolve wildcard token state = (.error reason, next)) (sofar : Expansion)
    (written : List Char) (rest : List Piece) :
    tokenizer.expandPieces wildcard sofar state (.token written token :: rest) =
      (.failure (String.ofList written) reason (noteKey sofar.keys token.key), next) := by
  rw [expandPieces, fails, ← Expansion.keys_note]
  simp only [strict, if_true, Report.failure]

/-! ## Loose expansions -/

/-- What was expanded before, with the rest of a template woven onto it. -/
def woven (sofar : Expansion) (template : String) (last : Nat)
    (resolved : List (Occurrence × Resolution)) : Expansion :=
  ⟨sofar.output ++ weave template last resolved, sofar.unresolved + failures resolved,
    noteKeys sofar.keys (resolved.map Prod.fst)⟩

theorem map_fst_resolutions (found : List Occurrence) (state : σ) :
    (tokenizer.resolutions wildcard found state).1.map Prod.fst = found := by
  induction found generalizing state with
  | nil => rfl
  | cons occurrence rest ih =>
    simp only [resolutions, List.map_cons, ih]

def settle (sofar : Expansion) (occurrence : Occurrence) : Resolution → Expansion
  | .ok text => (sofar.note occurrence.token.key).append text
  | .error _ => (sofar.note occurrence.token.key).leave occurrence.matched

private theorem output_settle (sofar : Expansion) (occurrence : Occurrence)
    (resolution : Resolution) :
    (settle sofar occurrence resolution).output =
      sofar.output ++ standIn occurrence resolution := by
  cases resolution <;>
    simp only [settle, Expansion.append, Expansion.leave, Expansion.output_note, standIn]

private theorem unresolved_settle (sofar : Expansion) (occurrence : Occurrence)
    (resolution : Resolution) :
    (settle sofar occurrence resolution).unresolved =
      sofar.unresolved + if resolution.failed then 1 else 0 := by
  cases resolution <;>
    simp only [settle, Expansion.append, Expansion.leave, Expansion.unresolved_note,
      Resolution.failed, Bool.false_eq_true, if_true, if_false, Nat.add_zero]

private theorem keys_settle (sofar : Expansion) (occurrence : Occurrence)
    (resolution : Resolution) :
    (settle sofar occurrence resolution).keys = noteKey sofar.keys occurrence.token.key := by
  cases resolution <;>
    simp only [settle, Expansion.append, Expansion.leave, Expansion.keys_note]

theorem woven_settle (sofar : Expansion) (template gap : String) (last : Nat)
    (occurrence : Occurrence) (resolution : Resolution) (rest : List (Occurrence × Resolution))
    (between : slice template last occurrence.start = gap) :
    woven (settle (sofar.append gap) occurrence resolution) template occurrence.stop rest =
      woven sofar template last ((occurrence, resolution) :: rest) := by
  have outputs : (settle (sofar.append gap) occurrence resolution).output ++
      weave template occurrence.stop rest =
        sofar.output ++ weave template last ((occurrence, resolution) :: rest) := by
    rw [output_settle, weave, between]
    simp only [Expansion.append, String.append_assoc]
  have counts : (settle (sofar.append gap) occurrence resolution).unresolved + failures rest =
      sofar.unresolved + failures ((occurrence, resolution) :: rest) := by
    rw [unresolved_settle, failures, failures, List.countP_cons]
    simp only [Expansion.append]
    omega
  have keys : noteKeys (settle (sofar.append gap) occurrence resolution).keys
      (rest.map Prod.fst) =
        noteKeys sofar.keys (((occurrence, resolution) :: rest).map Prod.fst) := by
    rw [keys_settle]
    rfl
  rw [woven, woven, outputs, counts, keys]

theorem expandPieces_token_of_loose (loose : tokenizer.strict = false) (sofar : Expansion)
    (state : σ) (occurrence : Occurrence) (written : List Char) (rest : List Piece)
    (matched : occurrence.matched = String.ofList written) :
    tokenizer.expandPieces wildcard sofar state (.token written occurrence.token :: rest) =
      tokenizer.expandPieces wildcard
        (settle sofar occurrence (tokenizer.resolve wildcard occurrence.token state).1)
        (tokenizer.resolve wildcard occurrence.token state).2 rest := by
  cases resolved : tokenizer.resolve wildcard occurrence.token state with
  | mk resolution next =>
    cases resolution with
    | ok text => exact tokenizer.expandPieces_of_resolved wildcard resolved sofar written rest
    | error reason =>
      rw [expandPieces, resolved, ← matched]
      simp only [loose, Bool.false_eq_true, if_false, settle]

/-- The gap before the next piece was put out already; the invariant is that it reaches from the end
of the last token to where the pieces begin. -/
private theorem expandPieces_of_loose (loose : tokenizer.strict = false) (cut : List Piece)
    (before gap : List Char) (sofar : Expansion) (state : σ) :
    let template := String.ofList (before ++ gap ++ cut.flatMap Piece.written)
    let resolved := tokenizer.resolutions wildcard
      (occurrences (byteLength (before ++ gap)) cut) state
    let expansion := woven sofar template (byteLength before) resolved.1
    tokenizer.expandPieces wildcard (sofar.append (String.ofList gap)) state cut =
      (.success expansion, resolved.2) := by
  intro template resolved expansion
  induction cut generalizing before gap sofar state with
  | nil =>
    have rest : slice template (byteLength before) template.utf8ByteSize = String.ofList gap := by
      have size : template.utf8ByteSize = byteLength (before ++ gap) := by
        rw [← byteLength_toList, String.toList_ofList, List.flatMap_nil, List.append_nil]
      rw [size]
      exact slice_append before gap []
    have same : expansion = sofar.append (String.ofList gap) := by
      simp only [expansion, resolved, occurrences, resolutions, woven, weave, rest]
      rfl
    rw [expandPieces, same]
    rfl
  | cons piece rest ih =>
    cases piece with
    | plain character =>
      have recursive := ih before (gap ++ [character]) sofar state
      rw [expandPieces, String.singleton_eq_ofList, Expansion.append_append, recursive]
      simp only [expansion, resolved, template, occurrences, List.flatMap_cons, Piece.written,
        List.append_assoc, byteLength_append, byteLength, Nat.add_assoc, Nat.add_zero]
    | token written token =>
      let start := byteLength (before ++ gap)
      let occurrence : Occurrence :=
        ⟨String.ofList written, start, start + byteLength written, token⟩
      have between : slice template (byteLength before) occurrence.start = String.ofList gap := by
        simp only [template, List.flatMap_cons, ← List.append_assoc]
        rw [List.append_assoc (before ++ gap)]
        exact slice_append before gap (written ++ rest.flatMap Piece.written)
      have step := tokenizer.expandPieces_token_of_loose wildcard loose
        (sofar.append (String.ofList gap)) state occurrence written rest rfl
      have recursive := ih (before ++ gap ++ written) []
        (settle (sofar.append (String.ofList gap)) occurrence
          (tokenizer.resolve wildcard token state).1)
        (tokenizer.resolve wildcard token state).2
      rw [Expansion.append_empty, List.append_nil, List.append_assoc (before ++ gap),
        byteLength_append (before ++ gap)] at recursive
      have same := woven_settle sofar template (String.ofList gap) (byteLength before) occurrence
        (tokenizer.resolve wildcard token state).1
        (tokenizer.resolutions wildcard (occurrences occurrence.stop rest)
          (tokenizer.resolve wildcard token state).2).1 between
      exact step.trans
        (recursive.trans (congrArg (fun woven => (Report.success woven, resolved.2)) same))

theorem expand_of_loose (loose : tokenizer.strict = false) (template : String) (state : σ) :
    tokenizer.expand wildcard template state =
      (.success (tokenizer.looseExpansion wildcard template state).1,
        (tokenizer.looseExpansion wildcard template state).2) := by
  have run := tokenizer.expandPieces_of_loose wildcard loose (pieces template.toList) [] [] .empty
    state
  rw [Expansion.append_empty, ← tokenizer.expand_eq_expandPieces] at run
  simp only [List.append_nil, List.nil_append, (cut_pieces template.toList).flatMap_written,
    String.ofList_toList] at run
  rw [run, looseExpansion, woven, map_fst_resolutions]
  simp only [Expansion.empty, String.empty_append, Nat.zero_add]
  rfl

/-- A loose expansion always succeeds. Its output is the template with every token replaced by what
it resolves to, or left as it was written, and its count is that of the tokens left. A template
without tokens is its own expansion, and expanding a blank one without the early end for it gives
the same. -/
theorem expand_eq_looseExpansion (loose : tokenizer.strict = false) (template : String)
    (state : σ) :
    tokenizer.expand wildcard template state =
        (.success (tokenizer.looseExpansion wildcard template state).1,
          (tokenizer.looseExpansion wildcard template state).2) ∧
      (scan template = [] →
        tokenizer.expand wildcard template state = (.success ⟨template, 0, .empty⟩, state)) ∧
      tokenizer.expandPieces wildcard .empty state (pieces template.toList) =
        tokenizer.expand wildcard template state := by
  have whole := tokenizer.expand_of_loose wildcard loose template state
  refine ⟨whole, ?_, (tokenizer.expand_eq_expandPieces wildcard template state).symm⟩
  intro none
  rw [whole, tokenizer.looseExpansion_of_no_tokens wildcard none]

/-- A strategy that counts its evaluations and gives a text which looks like its own token. Neither
that text nor the token without a strategy is expanded. -/
theorem expand_eq_looseExpansion_counted :
    let counted : Strategy Nat :=
      ⟨fun _ count => (.ok (.string "<$\x7bn\x7d>"), count + 1),
        fun _ _ count => (.ok .null, count)⟩
    let tokenizer : Tokenizer Nat := ⟨Dictionary.ofList [("n", counted)], false, .sensitive⟩
    tokenizer.strict = false ∧ ∃ expansion,
      tokenizer.expand none "$\x7bn\x7d $\x7bb.c\x7d $\x7bn()\x7d." 0 = (.success expansion, 2) ∧
        expansion.output = "<$\x7bn\x7d> $\x7bb.c\x7d <$\x7bn\x7d>." ∧
        expansion.unresolved = 1 ∧ expansion.keys.keys = ["b", "n"] := by
  intro counted tokenizer
  have whole := (tokenizer.expand_eq_looseExpansion none rfl
    "$\x7bn\x7d $\x7bb.c\x7d $\x7bn()\x7d." 0).1
  have last : (tokenizer.looseExpansion none
      "$\x7bn\x7d $\x7bb.c\x7d $\x7bn()\x7d." 0).2 = 2 := by decide +kernel
  rw [last] at whole
  exact ⟨rfl, _, whole, by decide +kernel, by decide +kernel, by decide +kernel⟩

/-! ## Strict expansions -/

private theorem FirstFailure.later {state middle next : σ} {before : List Occurrence}
    {occurrence failing : Occurrence} {text : String} {reason : FailureReason}
    (resolves : tokenizer.resolve wildcard occurrence.token state = (.ok text, middle))
    (first : tokenizer.FirstFailure wildcard middle before failing reason next) :
    tokenizer.FirstFailure wildcard state (occurrence :: before) failing reason next := by
  constructor
  · intro entry member
    simp only [resolutions, resolves] at member
    rcases List.mem_cons.mp member with rfl | earlier
    · rfl
    · exact first.resolved entry earlier
  · simp only [resolutions, resolves]
    exact first.fails

/-- Both modes take the same steps from one token to the next until a token does not resolve. -/
theorem expandPieces_of_strict (cut : List Piece) (offset : Nat) (sofar : Expansion) (state : σ) :
    (failures (tokenizer.resolutions wildcard (occurrences offset cut) state).1 = 0 ∧
        (tokenizer.withMode true).expandPieces wildcard sofar state cut =
          (tokenizer.withMode false).expandPieces wildcard sofar state cut) ∨
      ∃ before failing after reason next,
        occurrences offset cut = before ++ failing :: after ∧
          tokenizer.FirstFailure wildcard state before failing reason next ∧
          (tokenizer.withMode true).expandPieces wildcard sofar state cut =
            (.failure failing.matched reason (noteKeys sofar.keys (before ++ [failing])),
              next) := by
  induction cut generalizing offset sofar state with
  | nil => exact .inl ⟨rfl, rfl⟩
  | cons piece rest ih =>
    cases piece with
    | plain character => exact ih (offset + character.utf8Size) _ state
    | token written token =>
      let occurrence : Occurrence :=
        ⟨String.ofList written, offset, offset + byteLength written, token⟩
      cases resolved : tokenizer.resolve wildcard token state with
      | mk resolution middle =>
        cases resolution with
        | error reason =>
          have stops := (tokenizer.withMode true).expandPieces_of_failed wildcard rfl resolved
            sofar written rest
          refine .inr ⟨[], occurrence, occurrences occurrence.stop rest, reason, middle, rfl,
            ⟨?_, resolved⟩, stops⟩
          intro entry member
          cases member
        | ok text =>
          have goesOn : ∀ strict : Bool,
              (tokenizer.withMode strict).expandPieces wildcard sofar state
                  (.token written token :: rest) =
                (tokenizer.withMode strict).expandPieces wildcard
                  ((sofar.note token.key).append text) middle rest :=
            fun strict => (tokenizer.withMode strict).expandPieces_of_resolved wildcard resolved
              sofar written rest
          rw [goesOn, goesOn]
          rcases ih occurrence.stop ((sofar.note token.key).append text) middle with
            ⟨none, agree⟩ | ⟨before, failing, after, reason, next, split, first, stops⟩
          · refine .inl ⟨?_, agree⟩
            simp only [failures, occurrences, resolutions, resolved, List.countP_cons,
              Resolution.failed, Bool.false_eq_true, if_false]
            exact none
          · have later : tokenizer.FirstFailure wildcard state (occurrence :: before) failing
                reason next := FirstFailure.later tokenizer wildcard resolved first
            rw [Expansion.keys_append, Expansion.keys_note] at stops
            refine .inr ⟨occurrence :: before, failing, after, reason, next, ?_, later, stops⟩
            rw [occurrences, split]
            rfl

/-- Of two tokenizers that differ in their mode only, from the same state, the strict one succeeds
when the loose one leaves no token, and then both end alike. Otherwise it reports the first token
that the loose one leaves, with the reason for which that token fails there. -/
theorem strict_iff_loose (template : String) (state : σ) :
    (tokenizer.withMode false).expand wildcard template state =
        (.success (tokenizer.looseExpansion wildcard template state).1,
          (tokenizer.looseExpansion wildcard template state).2) ∧
      ((∃ expansion, ((tokenizer.withMode true).expand wildcard template state).1.result =
          .ok expansion) ↔
        (tokenizer.looseExpansion wildcard template state).1.unresolved = 0) ∧
      ((tokenizer.looseExpansion wildcard template state).1.unresolved = 0 →
        (tokenizer.withMode true).expand wildcard template state =
          (tokenizer.withMode false).expand wildcard template state) ∧
      ((tokenizer.looseExpansion wildcard template state).1.unresolved ≠ 0 →
        ∃ before failing after reason next,
          scan template = before ++ failing :: after ∧
            tokenizer.FirstFailure wildcard state before failing reason next ∧
            (tokenizer.withMode true).expand wildcard template state =
              (.failure failing.matched reason (noteKeys .empty (before ++ [failing])), next)) := by
  have loose := (tokenizer.withMode false).expand_of_loose wildcard rfl template state
  simp only [looseExpansion, resolutions_withMode] at loose ⊢
  refine ⟨loose, ?_⟩
  have runs := tokenizer.expandPieces_of_strict wildcard (pieces template.toList) 0 .empty state
  rw [← expand_eq_expandPieces, ← expand_eq_expandPieces] at runs
  rcases runs with ⟨zero, agree⟩ | ⟨before, failing, after, reason, next, split, first, stops⟩
  · refine ⟨⟨fun _ => zero, fun _ => ?_⟩, fun _ => agree, fun left => absurd zero left⟩
    rw [agree, loose]
    exact ⟨_, rfl⟩
  · have nonzero : failures (tokenizer.resolutions wildcard (scan template) state).1 ≠ 0 := by
      rw [scan, split]
      exact first.failures_ne_zero
    refine ⟨⟨?_, fun zero => absurd zero nonzero⟩, fun zero => absurd zero nonzero,
      fun _ => ⟨before, failing, after, reason, next, split, first, stops⟩⟩
    rintro ⟨expansion, succeeds⟩
    rw [stops] at succeeds
    cases succeeds

end Tokenizer

end Stencil
