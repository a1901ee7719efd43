import Stencil.Proofs.Template.Scanning

/-!
# The pattern of a token

Tokens are described by a regular pattern with named groups. A pattern matches a text in every way
in which its choices can be made: how often a repetition goes on, whether something optional is
there and which alternative is taken. Each way captures the texts of the groups and their places.
This is put together from the trees of the grammar: the ways in which the pattern of a token matches
a text are the words that are written as it.
-/

set_option autoImplicit false

namespace Stencil.Template

open Grammar

/-! ## Patterns -/

inductive Group where
  | identifier
  | call
  | listing
  | body
deriving DecidableEq

structure Capture where
  group : Group
  start : Nat
  text : List Char
deriving DecidableEq

inductive Pattern where
  | one (test : Char → Bool)
  | both (first second : Pattern)
  | either (first second : Pattern)
  | optional (inside : Pattern)
  | many (inside : Pattern)
  | upTo (limit : Nat) (inside : Pattern)
  | group (name : Group) (inside : Pattern)

namespace Pattern

/-- A way in which a pattern matches a text that starts at an offset in bytes, with what it
captures. -/
inductive Matches : Pattern → Nat → List Char → List Capture → Prop
  | one {test : Char → Bool} {start : Nat} {character : Char} (passes : test character = true) :
      Matches (.one test) start [character] []
  | both {first second : Pattern} {start : Nat} {left right : List Char}
      {captures others : List Capture} (head : Matches first start left captures)
      (tail : Matches second (start + byteLength left) right others) :
      Matches (.both first second) start (left ++ right) (captures ++ others)
  | left {first second : Pattern} {start : Nat} {text : List Char} {captures : List Capture}
      (inside : Matches first start text captures) :
      Matches (.either first second) start text captures
  | right {first second : Pattern} {start : Nat} {text : List Char} {captures : List Capture}
      (inside : Matches second start text captures) :
      Matches (.either first second) start text captures
  | absent {inside : Pattern} {start : Nat} : Matches (.optional inside) start [] []
  | present {inside : Pattern} {start : Nat} {text : List Char} {captures : List Capture}
      (once : Matches inside start text captures) : Matches (.optional inside) start text captures
  | done {inside : Pattern} {start : Nat} : Matches (.many inside) start [] []
  | again {inside : Pattern} {start : Nat} {left right : List Char}
      {captures others : List Capture} (head : Matches inside start left captures)
      (tail : Matches (.many inside) (start + byteLength left) right others) :
      Matches (.many inside) start (left ++ right) (captures ++ others)
  | stopped {limit : Nat} {inside : Pattern} {start : Nat} :
      Matches (.upTo limit inside) start [] []
  | further {limit : Nat} {inside : Pattern} {start : Nat} {left right : List Char}
      {captures others : List Capture} (head : Matches inside start left captures)
      (tail : Matches (.upTo limit inside) (start + byteLength left) right others) :
      Matches (.upTo (limit + 1) inside) start (left ++ right) (captures ++ others)
  | group {name : Group} {inside : Pattern} {start : Nat} {text : List Char}
      {captures : List Capture} (once : Matches inside start text captures) :
      Matches (.group name inside) start text (⟨name, start, text⟩ :: captures)

/-! ### The pattern of a token, piece by piece -/

def exactly (character : Char) : Pattern := .one (· = character)

def blanks : Pattern := .many (.one Text.isBlank)

/-- A name of one character and up to 1023 more. -/
def identifier : Pattern :=
  .group .identifier (.both (.one isIdentifierStart) (.upTo 1023 (.one isIdentifierPart)))

/-- An escaped back-tick or any other character. -/
def bodyPart : Pattern := .either (.both (exactly '\\') (exactly '\'')) (.one (· ≠ '`'))

def body : Pattern := .group .body (.many bodyPart)

def argument : Pattern := .both (exactly '`') (.both body (exactly '`'))

def furtherArgument : Pattern := .both blanks (.both (exactly ',') (.both blanks argument))

def listing : Pattern := .group .listing (.both argument (.many furtherArgument))

def call : Pattern :=
  .group .call
    (.both (exactly '(') (.both blanks (.both (.optional listing) (.both blanks (exactly ')')))))

def token : Pattern :=
  .both (exactly '$') (.both (exactly '\x7b') (.both blanks (.both identifier
    (.both blanks (.both (.optional call) (.both blanks (exactly '\x7d')))))))

/-! ### Ways to match -/

section Inversion

variable {start : Nat} {text : List Char} {captures : List Capture}

theorem matches_one_iff {test : Char → Bool} :
    Matches (.one test) start text captures ↔
      ∃ character, test character = true ∧ text = [character] ∧ captures = [] := by
  constructor
  · intro way
    cases way with
    | one passes => exact ⟨_, passes, rfl, rfl⟩
  · intro listed
    obtain ⟨character, passes, rfl, rfl⟩ := listed
    exact .one passes

theorem matches_exactly_iff {character : Char} :
    Matches (exactly character) start text captures ↔ text = [character] ∧ captures = [] := by
  rw [exactly, matches_one_iff]
  constructor
  · intro listed
    obtain ⟨other, passes, rfl, rfl⟩ := listed
    exact ⟨congrArg (fun written => [written]) (of_decide_eq_true passes), rfl⟩
  · intro listed
    exact ⟨character, decide_eq_true rfl, listed⟩

theorem matches_both_iff {first second : Pattern} :
    Matches (.both first second) start text captures ↔
      ∃ left right before after, Matches first start left before ∧
        Matches second (start + byteLength left) right after ∧
          text = left ++ right ∧ captures = before ++ after := by
  constructor
  · intro way
    cases way with
    | both head tail => exact ⟨_, _, _, _, head, tail, rfl, rfl⟩
  · intro listed
    obtain ⟨left, right, before, after, head, tail, rfl, rfl⟩ := listed
    exact .both head tail

theorem matches_exactly_both_iff {character : Char} {rest : Pattern} :
    Matches (.both (exactly character) rest) start text captures ↔
      ∃ right, Matches rest (start + character.utf8Size) right captures ∧
        text = character :: right := by
  rw [matches_both_iff]
  constructor
  · intro listed
    obtain ⟨left, right, before, after, head, tail, rfl, rfl⟩ := listed
    obtain ⟨rfl, rfl⟩ := matches_exactly_iff.mp head
    exact ⟨right, tail, rfl⟩
  · intro listed
    obtain ⟨right, tail, rfl⟩ := listed
    exact ⟨[character], right, [], captures, matches_exactly_iff.mpr ⟨rfl, rfl⟩, tail, rfl, rfl⟩

theorem matches_optional_iff {inside : Pattern} :
    Matches (.optional inside) start text captures ↔
      text = [] ∧ captures = [] ∨ Matches inside start text captures := by
  constructor
  · intro way
    cases way with
    | absent => exact .inl ⟨rfl, rfl⟩
    | present once => exact .inr once
  · intro listed
    obtain ⟨rfl, rfl⟩ | once := listed
    · exact .absent
    · exact .present once

theorem matches_group_iff {name : Group} {inside : Pattern} :
    Matches (.group name inside) start text captures ↔
      ∃ others, Matches inside start text others ∧ captures = ⟨name, start, text⟩ :: others := by
  constructor
  · intro way
    cases way with
    | group once => exact ⟨_, once, rfl⟩
  · intro listed
    obtain ⟨others, once, rfl⟩ := listed
    exact .group once

/-- A repeated character class matches the texts of its characters, each in one way. -/
theorem matches_many_one_iff {test : Char → Bool} :
    Matches (.many (.one test)) start text captures ↔
      (∀ character ∈ text, test character = true) ∧ captures = [] := by
  constructor
  · intro way
    generalize repeated : Pattern.many (.one test) = pattern at way
    induction way with
    | done => exact ⟨List.forall_mem_nil _, rfl⟩
    | again head tail _ ih =>
      cases repeated
      obtain ⟨character, passes, rfl, rfl⟩ := matches_one_iff.mp head
      obtain ⟨others, rfl⟩ := ih rfl
      exact ⟨List.forall_mem_cons.mpr ⟨passes, others⟩, rfl⟩
    | _ => cases repeated
  · intro listed
    obtain ⟨inside, rfl⟩ := listed
    induction text generalizing start with
    | nil => exact .done
    | cons character rest ih =>
      obtain ⟨passes, others⟩ := List.forall_mem_cons.mp inside
      exact .again (.one passes) (ih others)

theorem matches_upTo_one_iff {limit : Nat} {test : Char → Bool} :
    Matches (.upTo limit (.one test)) start text captures ↔
      text.length ≤ limit ∧ (∀ character ∈ text, test character = true) ∧ captures = [] := by
  constructor
  · intro way
    generalize repeated : Pattern.upTo limit (.one test) = pattern at way
    induction way generalizing limit with
    | stopped => exact ⟨Nat.zero_le _, List.forall_mem_nil _, rfl⟩
    | further head tail _ ih =>
      cases repeated
      obtain ⟨character, passes, rfl, rfl⟩ := matches_one_iff.mp head
      obtain ⟨short, others, rfl⟩ := ih rfl
      exact ⟨Nat.succ_le_succ short, List.forall_mem_cons.mpr ⟨passes, others⟩, rfl⟩
    | _ => cases repeated
  · intro listed
    obtain ⟨short, inside, rfl⟩ := listed
    induction text generalizing start limit with
    | nil => exact .stopped
    | cons character rest ih =>
      obtain ⟨passes, others⟩ := List.forall_mem_cons.mp inside
      cases limit with
      | zero => cases short
      | succ limit => exact .further (.one passes) (ih (Nat.le_of_succ_le_succ short) others)

end Inversion

end Pattern

end Stencil.Template
