import Stencil.Template.Token

/-!
# The grammar of tokens

Every way to write a token, as trees over characters:

    word     = "${" blank* name blank* [ "(" blank* [ listing ] blank* ")" blank* ] "}"
    listing  = argument (blank* "," blank* argument)*
    argument = "`" any character but "`" ... "`"
    name     = [A-Za-z_.] [A-Za-z0-9_.]{0,1023}

A tree carries what makes it well formed, so each one is a way to write some token. Trees are
generic in what stands for an argument: the text between two back-ticks, or the argument which that
text spells. Nothing here refers to the readers of `Stencil.Template.Token`.
-/

set_option autoImplicit false

namespace Stencil.Template.Grammar

def IsNameStart (character : Char) : Prop :=
  ('A' ≤ character ∧ character ≤ 'Z') ∨ ('a' ≤ character ∧ character ≤ 'z') ∨
    character = '_' ∨ character = '.'

def IsNamePart (character : Char) : Prop :=
  IsNameStart character ∨ ('0' ≤ character ∧ character ≤ '9')

instance : DecidablePred IsNameStart := fun character =>
  inferInstanceAs (Decidable (('A' ≤ character ∧ character ≤ 'Z') ∨
    ('a' ≤ character ∧ character ≤ 'z') ∨ character = '_' ∨ character = '.'))

instance : DecidablePred IsNamePart := fun character =>
  inferInstanceAs (Decidable (IsNameStart character ∨ ('0' ≤ character ∧ character ≤ '9')))

structure Blanks where
  characters : List Char
  blank : ∀ character ∈ characters, Text.isBlank character = true

structure Name where
  first : Char
  rest : List Char
  starts : IsNameStart first
  continues : ∀ character ∈ rest, IsNamePart character
  bounded : rest.length ≤ 1023

def Name.characters (name : Name) : List Char :=
  name.first :: name.rest

/-- The text between two back-ticks. -/
structure Quotation where
  body : List Char
  closed : '`' ∉ body

/-- An argument after the first one, with the blanks on either side of the comma before it. -/
structure Further (α : Type) where
  before : Blanks
  after : Blanks
  argument : α

structure Listing (α : Type) where
  first : α
  others : List (Further α)

structure Call (α : Type) where
  opening : Blanks
  listing : Option (Listing α)
  closing : Blanks

/-- A way to write a token. The blanks beside a call are those between its `)` and the brace. -/
structure Word (α : Type) where
  opening : Blanks
  name : Name
  gap : Blanks
  call : Option (Call α × Blanks)

/-! ## What a tree is written as -/

def Quotation.written (quotation : Quotation) : List Char :=
  '`' :: (quotation.body ++ ['`'])

def Further.written (further : Further Quotation) : List Char :=
  further.before.characters ++ ',' :: (further.after.characters ++ further.argument.written)

def Listing.written (listing : Listing Quotation) : List Char :=
  listing.first.written ++ listing.others.flatMap Further.written

def Call.inside (call : Call Quotation) : List Char :=
  match call.listing with
  | none => []
  | some listing => listing.written

def Call.written (call : Call Quotation) : List Char :=
  '(' :: (call.opening.characters ++ (call.inside ++ (call.closing.characters ++ [')'])))

def Word.tail (word : Word Quotation) : List Char :=
  match word.call with
  | none => ['\x7d']
  | some (call, after) => call.written ++ (after.characters ++ ['\x7d'])

def Word.written (word : Word Quotation) : List Char :=
  '$' :: '\x7b' ::
    (word.opening.characters ++ (word.name.characters ++ (word.gap.characters ++ word.tail)))

def Word.text (word : Word Quotation) : String :=
  String.ofList word.written

/-! ## What a tree says -/

section Meaning

variable {α β : Type}

def Listing.arguments (listing : Listing α) : List α :=
  listing.first :: listing.others.map Further.argument

def Call.arguments (call : Call α) : List α :=
  match call.listing with
  | none => []
  | some listing => listing.arguments

/-- Nothing without parentheses, and the empty list for empty ones. -/
def Word.arguments (word : Word α) : Option (List α) :=
  word.call.map fun call => call.1.arguments

def Word.token (meaning : α → String) (word : Word α) : Token :=
  ⟨String.ofList word.name.characters, word.arguments.map (List.map meaning)⟩

/-- The argument that the text between two back-ticks spells. -/
def Quotation.meaning (quotation : Quotation) : String :=
  unescape quotation.body

/-! ## Exchanging the arguments -/

def Further.map (change : α → β) (further : Further α) : Further β :=
  { further with argument := change further.argument }

def Listing.map (change : α → β) (listing : Listing α) : Listing β :=
  ⟨change listing.first, listing.others.map (Further.map change)⟩

def Call.map (change : α → β) (call : Call α) : Call β :=
  { call with listing := call.listing.map (Listing.map change) }

def Word.map (change : α → β) (word : Word α) : Word β :=
  { word with call := word.call.map fun call => (call.1.map change, call.2) }

theorem Listing.arguments_map (change : α → β) (listing : Listing α) :
    (listing.map change).arguments = listing.arguments.map change := by
  simp only [Listing.arguments, Listing.map, List.map_cons, List.map_map]
  rfl

theorem Call.arguments_map (change : α → β) (call : Call α) :
    (call.map change).arguments = call.arguments.map change := by
  obtain ⟨opening, listing, closing⟩ := call
  cases listing with
  | none => rfl
  | some listing => exact listing.arguments_map change

theorem Word.token_map (change : α → β) (meaning : β → String) (word : Word α) :
    (word.map change).token meaning = word.token (meaning ∘ change) := by
  obtain ⟨opening, name, gap, call⟩ := word
  cases call with
  | none => rfl
  | some call =>
    simp only [Word.token, Word.map, Word.arguments, Option.map_some, Call.arguments_map,
      List.map_map]

end Meaning

end Stencil.Template.Grammar
