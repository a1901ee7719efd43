import Stencil.Proofs.Expansion.Modes
import Stencil.Proofs.Template.Rendering

/-!
# Expansions in steps

Between two tokens of a template anything may happen to the state. Here an expansion is cut into
steps that end with a token, in two ways: as the tokenizer carries it out, over the pieces of the
template, and as the reference tells it, over its occurrences. Step by step the two agree, from any
state that the steps find.
-/

set_option autoImplicit false

namespace Stencil

open Template

/-- What a step comes to when the expansion is then finished. -/
def carryOn {Stage σ : Type} (finish : Stage → σ → Report × σ) :
    (Report ⊕ Stage) × σ → Report × σ
  | (.inl report, next) => (report, next)
  | (.inr stage, next) => finish stage next

/-- A way to expand templates in steps. A step ends the expansion with a report or leaves a stage
with less ahead to go on from; `finish` is what the steps come to when nothing happens between
them. -/
structure Expander (σ : Type) where
  Stage : Type
  start : String → Stage
  proceed : Stage → σ → (Report ⊕ Stage) × σ
  finish : Stage → σ → Report × σ
  finish_eq : ∀ stage state, finish stage state = carryOn finish (proceed stage state)
  ahead : Stage → Nat
  ahead_lt : ∀ {stage later state next}, proceed stage state = (.inr later, next) →
    ahead later < ahead stage

namespace Expander

variable {σ : Type}

def expand (expander : Expander σ) (template : String) (state : σ) : Report × σ :=
  expander.finish (expander.start template) state

/-- Two steps end alike: with one report, or at related stages, and in one state. -/
inductive Alike {A B : Type} (related : A → B → Prop) :
    (Report ⊕ A) × σ → (Report ⊕ B) × σ → Prop where
  | ended (report : Report) (next : σ) : Alike related (.inl report, next) (.inl report, next)
  | going {left : A} {right : B} (next : σ) (agree : related left right) :
      Alike related (.inr left, next) (.inr right, next)

/-- Related stages stay related, whatever state the next step finds. -/
structure Agree (left right : Expander σ) (related : left.Stage → right.Stage → Prop) : Prop where
  start : ∀ template, related (left.start template) (right.start template)
  proceed : ∀ {here there}, related here there →
    ∀ state, Alike related (left.proceed here state) (right.proceed there state)

private theorem Agree.finish_eq {left right : Expander σ}
    {related : left.Stage → right.Stage → Prop}
    (agree : left.Agree right related) {here : left.Stage} {there : right.Stage}
    (relates : related here there) (state : σ) :
    left.finish here state = right.finish there state := by
  generalize size : left.ahead here = bound
  induction bound using Nat.strongRecOn generalizing here there state with
  | ind bound ih =>
    -- Only the left side is seen to have less ahead; the right one takes as many steps.
    rw [left.finish_eq, right.finish_eq]
    have alike := agree.proceed relates state
    generalize stepped : left.proceed here state = outcome at alike ⊢
    generalize right.proceed there state = other at alike ⊢
    cases alike with
    | ended => rfl
    | going next later =>
      subst size
      exact ih _ (left.ahead_lt stepped) later next rfl

theorem Agree.expand_eq {left right : Expander σ} {related : left.Stage → right.Stage → Prop}
    (agree : left.Agree right related) (template : String) (state : σ) :
    left.expand template state = right.expand template state :=
  agree.finish_eq (agree.start template) state

end Expander

/-! ## The steps of a tokenizer -/

/-- What was put out up to the end of a token, and the pieces after it. -/
structure Progress where
  sofar : Expansion
  rest : List Piece

namespace Tokenizer

variable {σ : Type} (tokenizer : Tokenizer σ) (wildcard : Option (Strategy σ))

def proceed (sofar : Expansion) (state : σ) : List Piece → (Report ⊕ Progress) × σ
  | [] => (.inl (.success sofar), state)
  | .plain character :: rest => proceed (sofar.append (String.singleton character)) state rest
  | .token written token :: rest =>
    let noted := sofar.note token.key
    match tokenizer.resolve wildcard token state with
    | (.ok text, next) => (.inr ⟨noted.append text, rest⟩, next)
    | (.error reason, next) =>
      if tokenizer.strict then (.inl (.failure (String.ofList written) reason noted.keys), next)
      else (.inr ⟨noted.leave (String.ofList written), rest⟩, next)

def finish (progress : Progress) (state : σ) : Report × σ :=
  tokenizer.expandPieces wildcard progress.sofar state progress.rest

private theorem expandPieces_eq_carryOn (sofar : Expansion) (state : σ) (cut : List Piece) :
    tokenizer.expandPieces wildcard sofar state cut =
      carryOn (tokenizer.finish wildcard) (tokenizer.proceed wildcard sofar state cut) := by
  induction cut generalizing sofar with
  | nil => rfl
  | cons piece rest ih =>
    cases piece with
    | plain character =>
      rw [expandPieces, proceed]
      exact ih _
    | token written token =>
      rw [expandPieces, proceed]
      cases tokenizer.resolve wildcard token state with
      | mk resolution next =>
        cases resolution with
        | ok text => rfl
        | error reason => cases tokenizer.strict <;> rfl

private theorem length_rest_lt {sofar : Expansion} {state next : σ} {cut : List Piece}
    {later : Progress}
    (proceeds : tokenizer.proceed wildcard sofar state cut = (.inr later, next)) :
    later.rest.length < cut.length := by
  induction cut generalizing sofar with
  | nil => cases proceeds
  | cons piece rest ih =>
    cases piece with
    | plain character => exact Nat.lt_succ_of_lt (ih proceeds)
    | token written token =>
      rw [proceed] at proceeds
      split at proceeds
      case h_1 =>
        cases proceeds
        exact Nat.lt_succ_self _
      case h_2 =>
        split at proceeds
        case isTrue => cases proceeds
        case isFalse =>
          cases proceeds
          exact Nat.lt_succ_self _

def expander : Expander σ where
  Stage := Progress
  start := fun template => ⟨.empty, pieces template.toList⟩
  proceed := fun progress state => tokenizer.proceed wildcard progress.sofar state progress.rest
  finish := tokenizer.finish wildcard
  finish_eq := fun progress state =>
    tokenizer.expandPieces_eq_carryOn wildcard progress.sofar state progress.rest
  ahead := fun progress => progress.rest.length
  ahead_lt := tokenizer.length_rest_lt wildcard

theorem expand_expander (template : String) (state : σ) :
    (tokenizer.expander wildcard).expand template state =
      tokenizer.expand wildcard template state :=
  (tokenizer.expand_eq_expandPieces wildcard template state).symm

end Tokenizer

/-! ## The steps of the reference -/

/-- The occurrences of a template that were resolved, with their resolutions, and those ahead. -/
structure Account where
  template : String
  settled : List (Occurrence × Resolution)
  ahead : List Occurrence

namespace Account

variable {σ : Type} (strict : Bool) (reading : Token → Attempt σ FailureReason String)

def expansion (account : Account) : Expansion :=
  ⟨weave account.template 0 account.settled, failures account.settled,
    noteKeys .empty (account.settled.map Prod.fst)⟩

/-- The report when an occurrence fails strictly. -/
def failure (account : Account) (occurrence : Occurrence) (reason : FailureReason) : Report :=
  .failure occurrence.matched reason
    (noteKeys .empty (account.settled.map Prod.fst ++ [occurrence]))

def settle (account : Account) (occurrence : Occurrence) (resolution : Resolution)
    (ahead : List Occurrence) : Account :=
  { account with settled := account.settled ++ [(occurrence, resolution)], ahead }

def proceed (account : Account) (state : σ) : (Report ⊕ Account) × σ :=
  match account.ahead with
  | [] => (.inl (.success account.expansion), state)
  | occurrence :: ahead =>
    match reading occurrence.token state with
    | (.ok text, next) => (.inr (account.settle occurrence (.ok text) ahead), next)
    | (.error reason, next) =>
      if strict then (.inl (account.failure occurrence reason), next)
      else (.inr (account.settle occurrence (.error reason) ahead), next)

/-- Settles what is ahead. -/
def settleAll (account : Account) (state : σ) : List Occurrence → Report × σ
  | [] => (.success account.expansion, state)
  | occurrence :: ahead =>
    match reading occurrence.token state with
    | (.ok text, next) =>
      settleAll (account.settle occurrence (.ok text) ahead) next ahead
    | (.error reason, next) =>
      if strict then (account.failure occurrence reason, next)
      else settleAll (account.settle occurrence (.error reason) ahead) next ahead

def finish (account : Account) (state : σ) : Report × σ :=
  account.settleAll strict reading state account.ahead

private theorem finish_eq_carryOn (account : Account) (state : σ) :
    account.finish strict reading state =
      carryOn (Account.finish strict reading) (account.proceed strict reading state) := by
  rw [finish, proceed]
  cases account.ahead with
  | nil => rfl
  | cons occurrence ahead =>
    simp only [settleAll]
    cases reading occurrence.token state with
    | mk resolution next =>
      cases resolution with
      | ok text => rfl
      | error reason => cases strict <;> rfl

private theorem length_ahead_lt {account later : Account} {state next : σ}
    (proceeds : account.proceed strict reading state = (.inr later, next)) :
    later.ahead.length < account.ahead.length := by
  rw [proceed] at proceeds
  split at proceeds
  case h_1 => cases proceeds
  case h_2 ahead =>
    rw [ahead]
    split at proceeds
    case h_1 =>
      cases proceeds
      exact Nat.lt_succ_self _
    case h_2 =>
      split at proceeds
      case isTrue => cases proceeds
      case isFalse =>
        cases proceeds
        exact Nat.lt_succ_self _

/-- The reference expansion, in a mode and for a reading of tokens. -/
def expander : Expander σ where
  Stage := Account
  start := fun template => ⟨template, [], scan template⟩
  proceed := Account.proceed strict reading
  finish := Account.finish strict reading
  finish_eq := Account.finish_eq_carryOn strict reading
  ahead := fun account => account.ahead.length
  ahead_lt := Account.length_ahead_lt strict reading

end Account

/-! ## Agreement -/

private theorem exists_gap (cut : List Piece) :
    (∃ gap : List Char, cut = gap.map .plain) ∨
      ∃ (gap written : List Char) (token : Token) (rest : List Piece),
        cut = gap.map .plain ++ .token written token :: rest := by
  induction cut with
  | nil => exact .inl ⟨[], rfl⟩
  | cons piece rest ih =>
    cases piece with
    | token written token => exact .inr ⟨[], written, token, rest, rfl⟩
    | plain character =>
      rcases ih with ⟨gap, rfl⟩ | ⟨gap, written, token, after, rfl⟩
      · exact .inl ⟨character :: gap, rfl⟩
      · exact .inr ⟨character :: gap, written, token, after, rfl⟩

private theorem flatMap_written_plain (gap : List Char) :
    (gap.map Piece.plain).flatMap Piece.written = gap := by
  induction gap with
  | nil => rfl
  | cons character rest ih => rw [List.map_cons, List.flatMap_cons, ih]; rfl

/-- A progress and an account tell of one expansion: the same occurrences are ahead, and whatever
they resolve to, the output comes to the same. -/
structure Tells (progress : Progress) (account : Account) (before : List Char) : Prop where
  template : account.template = String.ofList (before ++ progress.rest.flatMap Piece.written)
  ahead : account.ahead = occurrences (byteLength before) progress.rest
  woven : ∀ later, Tokenizer.woven progress.sofar account.template (byteLength before) later =
    Tokenizer.woven .empty account.template 0 (account.settled ++ later)

/-- The occurrence of a token that was written after some text. -/
def occurrenceAfter (passed written : List Char) (token : Token) : Occurrence :=
  ⟨String.ofList written, byteLength passed, byteLength (passed ++ written), token⟩

namespace Tells

variable {progress : Progress} {account : Account} {before gap : List Char}

/-- With only a gap left, the expansion is what was put out and that gap. -/
private theorem expansion (tells : Tells progress account before)
    (split : progress.rest = gap.map .plain) :
    progress.sofar.append (String.ofList gap) = account.expansion := by
  have whole : account.template = String.ofList (before ++ gap) := by
    rw [tells.template, split, flatMap_written_plain]
  have size : account.template.utf8ByteSize = byteLength (before ++ gap) := by
    rw [whole, ← byteLength_toList, String.toList_ofList]
  have tail : slice account.template (byteLength before) account.template.utf8ByteSize =
      String.ofList gap := by
    have cut := slice_append before gap []
    rwa [List.append_nil, ← whole, ← size] at cut
  have agree := tells.woven []
  rw [List.append_nil, Tokenizer.woven, Tokenizer.woven, weave, tail] at agree
  simp only [Expansion.empty, String.empty_append, Nat.zero_add] at agree
  exact agree

private theorem keys (tells : Tells progress account before) :
    progress.sofar.keys = noteKeys .empty (account.settled.map Prod.fst) := by
  have agree := congrArg Expansion.keys (tells.woven [])
  rw [List.append_nil] at agree
  exact agree

variable {written : List Char} {token : Token} {rest : List Piece}
  (split : progress.rest = gap.map .plain ++ .token written token :: rest)

include split

private theorem ahead_eq (tells : Tells progress account before) :
    account.ahead = occurrenceAfter (before ++ gap) written token ::
      occurrences (byteLength (before ++ gap ++ written)) rest := by
  rw [tells.ahead, split, occurrences_plain_append, occurrences, occurrenceAfter,
    byteLength_append (before ++ gap), byteLength_append before]

/-- Settling the next occurrence on both sides. -/
private theorem settle (tells : Tells progress account before) (resolution : Resolution) :
    let occurrence := occurrenceAfter (before ++ gap) written token
    Tells ⟨Tokenizer.settle (progress.sofar.append (String.ofList gap)) occurrence resolution, rest⟩
      (account.settle occurrence resolution (occurrences occurrence.stop rest))
      (before ++ gap ++ written) := by
  intro occurrence
  have whole : account.template =
      String.ofList (before ++ gap ++ (written ++ rest.flatMap Piece.written)) := by
    rw [tells.template, split, List.flatMap_append, flatMap_written_plain, List.flatMap_cons,
      List.append_assoc]
    rfl
  have between : slice account.template (byteLength before) occurrence.start =
      String.ofList gap := by
    rw [whole]
    exact slice_append before gap _
  refine ⟨?_, rfl, fun later => ?_⟩
  · rw [Account.settle, whole, List.append_assoc (before ++ gap)]
  · have step := Tokenizer.woven_settle progress.sofar account.template (String.ofList gap)
      (byteLength before) occurrence resolution later between
    have agree := tells.woven ((occurrence, resolution) :: later)
    rw [List.append_cons] at agree
    exact step.trans agree

end Tells

namespace Tokenizer

variable {σ : Type} (tokenizer : Tokenizer σ) (wildcard : Option (Strategy σ))

private theorem proceed_plain_append (gap : List Char) (sofar : Expansion) (state : σ)
    (cut : List Piece) :
    tokenizer.proceed wildcard sofar state (gap.map .plain ++ cut) =
      tokenizer.proceed wildcard (sofar.append (String.ofList gap)) state cut := by
  induction gap generalizing sofar with
  | nil => rw [Expansion.append_empty]; rfl
  | cons character rest ih =>
    rw [List.map_cons, List.cons_append, proceed, ih, String.singleton_eq_ofList,
      Expansion.append_append]
    rfl

private theorem agree_account {progress : Progress} {account : Account} {before : List Char}
    (tells : Tells progress account before) (state : σ) :
    Expander.Alike (fun progress account => ∃ before, Tells progress account before)
      (tokenizer.proceed wildcard progress.sofar state progress.rest)
      (account.proceed tokenizer.strict (tokenizer.resolve wildcard) state) := by
  rcases exists_gap progress.rest with ⟨gap, split⟩ | ⟨gap, written, token, rest, split⟩
  · have none : account.ahead = [] := by
      have quiet := occurrences_plain_append gap (byteLength before) []
      rw [List.append_nil] at quiet
      rw [tells.ahead, split, quiet]
      rfl
    have plain := tokenizer.proceed_plain_append wildcard gap progress.sofar state []
    rw [List.append_nil] at plain
    rw [split, plain, Account.proceed, none, proceed, tells.expansion split]
    exact .ended _ _
  · have settled := tells.settle split
    rw [split, proceed_plain_append, Account.proceed, tells.ahead_eq split, proceed]
    simp only [occurrenceAfter] at settled ⊢
    cases tokenizer.resolve wildcard token state with
    | mk resolution next =>
      cases resolution with
      | ok text => exact .going next ⟨_, settled (.ok text)⟩
      | error reason =>
        cases tokenizer.strict with
        | false => exact .going next ⟨_, settled (.error reason)⟩
        | true =>
          have keys : ((progress.sofar.append (String.ofList gap)).note token.key).keys =
              noteKeys .empty (account.settled.map Prod.fst ++
                [occurrenceAfter (before ++ gap) written token]) := by
            rw [Expansion.keys_note, Expansion.keys_append, tells.keys, noteKeys, noteKeys,
              List.foldl_append]
            rfl
          simp only [if_true, keys]
          exact .ended _ next

/-- Step by step a tokenizer does what the reference tells. -/
theorem agree_expander :
    (tokenizer.expander wildcard).Agree
      (Account.expander tokenizer.strict (tokenizer.resolve wildcard))
      fun progress account => ∃ before, Tells progress account before where
  start := by
    intro template
    refine ⟨[], ?_, rfl, fun later => rfl⟩
    rw [List.nil_append]
    change template = String.ofList ((pieces template.toList).flatMap Piece.written)
    rw [(cut_pieces template.toList).flatMap_written, String.ofList_toList]
  proceed := by
    rintro progress account ⟨before, tells⟩ state
    exact tokenizer.agree_account wildcard tells state

/-- An expansion that is not interrupted is the reference expansion. -/
theorem expand_eq_reference (template : String) (state : σ) :
    tokenizer.expand wildcard template state =
      (Account.expander tokenizer.strict (tokenizer.resolve wildcard)).expand template state := by
  rw [← (tokenizer.agree_expander wildcard).expand_eq, expand_expander]

end Tokenizer

end Stencil
