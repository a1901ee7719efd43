import Stencil.Proofs.Expansion.Evaluations
import Stencil.Proofs.Expansion.Reasons
import Stencil.Proofs.Expansion.Simulation
import Stencil.Proofs.Expansion.SingleToken
import Stencil.Proofs.Wiring.Registration

/-!
# Which registered names can be used

A strategy may be registered under any name, but the key of a token is the part of an identifier
before its first dot. A name that is no such part, and is not equal up to case to one where case is
ignored, is dead: no token of any template selects it. Every other name is evaluated by the template
that is its token.
-/

set_option autoImplicit false

namespace Stencil

open Template Template.Grammar
open Text (SameLetter EqualUpToCase)

def IsLetter (character : Char) : Prop :=
  ('A' ≤ character ∧ character ≤ 'Z') ∨ ('a' ≤ character ∧ character ≤ 'z')

def IsDigit (character : Char) : Prop :=
  '0' ≤ character ∧ character ≤ '9'

instance : DecidablePred IsLetter := fun character =>
  inferInstanceAs (Decidable (('A' ≤ character ∧ character ≤ 'Z') ∨
    ('a' ≤ character ∧ character ≤ 'z')))

instance : DecidablePred IsDigit := fun character =>
  inferInstanceAs (Decidable ('0' ≤ character ∧ character ≤ '9'))

/-- Names of 1 to 1024 ASCII letters, digits and underscores that do not start with a digit. -/
structure Usable (name : String) : Prop where
  least : 1 ≤ name.length
  most : name.length ≤ 1024
  starts : ∀ first ∈ name.toList.head?, IsLetter first ∨ first = '_'
  continues : ∀ character ∈ name.toList,
    IsLetter character ∨ IsDigit character ∨ character = '_'

/-! ## Usable names -/

private theorem usable_of_cons {name : String} {first : Char} {rest : List Char}
    (characters : name.toList = first :: rest) (starts : IsLetter first ∨ first = '_')
    (continues : ∀ character ∈ rest, IsLetter character ∨ IsDigit character ∨ character = '_')
    (bounded : rest.length ≤ 1023) : Usable name := by
  have length : name.length = rest.length + 1 := by
    rw [← String.length_toList, characters, List.length_cons]
  refine ⟨by omega, by omega, ?_, ?_⟩
  · simpa [characters] using starts
  · rw [characters]
    refine List.forall_mem_cons.mpr ⟨?_, continues⟩
    exact starts.imp_right .inr

namespace Usable

variable {name : String} (usable : Usable name)

include usable

private theorem exists_cons :
    ∃ first rest, name.toList = first :: rest ∧ (IsLetter first ∨ first = '_') ∧
      (∀ character ∈ rest, IsLetter character ∨ IsDigit character ∨ character = '_') ∧
      rest.length ≤ 1023 := by
  obtain ⟨least, most, starts, continues⟩ := usable
  rw [← String.length_toList] at least most
  cases characters : name.toList with
  | nil => simp [characters] at least
  | cons first rest =>
    rw [characters] at most starts continues
    exact ⟨first, rest, rfl, starts first rfl, (List.forall_mem_cons.mp continues).2,
      Nat.le_of_succ_le_succ most⟩

private theorem ne_empty : name ≠ "" := by
  rintro rfl
  exact absurd usable.least (by decide)

theorem isPlain : Text.IsPlain name := by
  intro dot
  rcases usable.continues '.' dot with letter | digit | underscore
  · exact absurd letter (by decide)
  · exact absurd digit (by decide)
  · exact absurd underscore (by decide)

end Usable

theorem isNameStart_iff {character : Char} :
    IsNameStart character ↔ (IsLetter character ∨ character = '_') ∨ character = '.' := by
  simp only [IsNameStart, IsLetter, or_assoc]

theorem isNamePart_iff {character : Char} :
    IsNamePart character ↔
      (IsLetter character ∨ IsDigit character ∨ character = '_') ∨ character = '.' := by
  rw [IsNamePart, isNameStart_iff, IsDigit]
  tauto

/-- A usable name is an identifier as a whole. -/
theorem Usable.exists_name {name : String} (usable : Usable name) :
    ∃ entry : Name, entry.text = name := by
  obtain ⟨first, rest, characters, starts, continues, bounded⟩ := usable.exists_cons
  have within : ∀ character ∈ rest, IsNamePart character :=
    fun character member => isNamePart_iff.mpr (.inl (continues character member))
  refine ⟨⟨first, rest, isNameStart_iff.mpr (.inl starts), within, bounded⟩, ?_⟩
  rw [Name.text, Name.characters, ← characters, String.ofList_toList]

/-! ## Keys of tokens -/

/-- The key is what an identifier starts with. -/
private theorem Template.Token.exists_after_key (token : Token) :
    ∃ after, token.identifier.toList = token.key.toList ++ after := by
  rcases Text.isPlain_or_exists_head token.identifier with plain | ⟨head, rest, plain, split⟩
  · exact ⟨[], by rw [Token.key_of_isPlain plain, List.append_nil]⟩
  · refine ⟨'.' :: rest.toList, ?_⟩
    rw [Token.key_of_split plain split, split]
    simp

/-- The key of a written token is usable, unless it is missing. -/
theorem Template.Grammar.Word.usable_key (word : Word Quotation)
    (named : (word.token Quotation.meaning).key ≠ "") :
    Usable (word.token Quotation.meaning).key := by
  have plain := (word.token Quotation.meaning).isPlain_key
  obtain ⟨after, split⟩ := (word.token Quotation.meaning).exists_after_key
  cases characters : (word.token Quotation.meaning).key.toList with
  | nil => exact absurd (String.toList_eq_nil_iff.mp characters) named
  | cons first rest =>
    have whole : word.name.first :: word.name.rest = first :: (rest ++ after) := by
      rw [characters] at split
      exact String.toList_ofList.symm.trans split
    obtain ⟨start, tail⟩ := List.cons.inj whole
    rw [Text.IsPlain, characters, List.mem_cons, not_or] at plain
    have starts := isNameStart_iff.mp (start ▸ word.name.starts)
    have bounded := word.name.bounded
    rw [tail, List.length_append] at bounded
    refine usable_of_cons characters (starts.resolve_right (Ne.symm plain.1)) ?_ (by omega)
    intro character member
    have part := word.name.continues character (tail ▸ List.mem_append_left after member)
    refine (isNamePart_iff.mp part).resolve_right ?_
    rintro rfl
    exact plain.2 member

theorem usable_key_of_mem_scan {template : String} {occurrence : Occurrence}
    (member : occurrence ∈ scan template) (named : occurrence.token.key ≠ "") :
    Usable occurrence.token.key := by
  obtain ⟨word, same⟩ := exists_word_of_mem_scan member
  rw [same] at named ⊢
  exact word.usable_key named

/-! ## Letter case -/

private theorem Text.SameLetter.eq_or_letters {left right : Char} (same : SameLetter left right) :
    left = right ∨ (IsLetter left ∧ IsLetter right) := by
  have lowered : ∀ {capital small : Char}, 'A' ≤ capital ∧ capital ≤ 'Z' →
      small.toNat = capital.toNat + 32 → IsLetter small := by
    intro capital small ascii shifted
    have low : 65 ≤ capital.toNat := ascii.1
    have high : capital.toNat ≤ 90 := ascii.2
    refine .inr ⟨?_, ?_⟩
    · change 97 ≤ small.toNat
      omega
    · change small.toNat ≤ 122
      omega
  cases same with
  | equal => exact .inl rfl
  | lowered ascii shifted => exact .inr ⟨.inl ascii, lowered ascii shifted⟩
  | raised ascii shifted => exact .inr ⟨lowered ascii shifted, .inl ascii⟩

/-- A class of characters with all letters takes letters of either case. -/
private theorem forall_mem_of_sameLetters {inside : Char → Prop}
    (letters : ∀ character, IsLetter character → inside character) {left right : List Char}
    (alike : List.Forall₂ SameLetter left right) (all : ∀ character ∈ right, inside character) :
    ∀ character ∈ left, inside character := by
  induction alike with
  | nil => exact all
  | cons same _ ih =>
    obtain ⟨here, later⟩ := List.forall_mem_cons.mp all
    refine List.forall_mem_cons.mpr ⟨?_, ih later⟩
    rcases same.eq_or_letters with rfl | ⟨letter, -⟩
    · exact here
    · exact letters _ letter

theorem Usable.of_equalUpToCase {name key : String} (usable : Usable key)
    (alike : EqualUpToCase name key) : Usable name := by
  obtain ⟨first, rest, characters, starts, continues, bounded⟩ := usable.exists_cons
  rw [EqualUpToCase, characters] at alike
  cases split : name.toList with
  | nil =>
    rw [split] at alike
    cases alike
  | cons other others =>
    rw [split] at alike
    obtain ⟨same, later⟩ := List.forall₂_cons.mp alike
    refine usable_of_cons split ?_ ?_ (later.length_eq ▸ bounded)
    · rcases same.eq_or_letters with rfl | ⟨letter, -⟩
      · exact starts
      · exact .inl letter
    · exact forall_mem_of_sameLetters (fun _ => .inl) later continues

private theorem CaseRule.alike_self (caseRule : CaseRule) (name : String) :
    caseRule.Alike name name := by
  cases caseRule with
  | sensitive => exact rfl
  | insensitive => exact Text.fold_eq_iff.mp rfl

theorem CaseRule.Alike.usable {caseRule : CaseRule} {name key : String}
    (alike : caseRule.Alike name key) (usable : Usable key) : Usable name := by
  cases caseRule with
  | sensitive =>
    obtain rfl : name = key := alike
    exact usable
  | insensitive => exact usable.of_equalUpToCase alike

/-! ## Evaluations -/

namespace Tokenizer

variable {σ : Type} {tokenizer : Tokenizer σ} {wildcard : Option (Strategy σ)} {name : String}

/-- Expanding a template evaluates what is registered under a name. -/
def EvaluatesIn (tokenizer : Tokenizer σ) (wildcard : Option (Strategy σ)) (template : String)
    (state : σ) (name : String) : Prop :=
  ∃ evaluated ∈
      (tokenizer.observed.expand (observeWildcard wildcard) template ⟨state, []⟩).2.made,
    evaluated.evaluator = .registered name

/-- The key of a token means a name. -/
def Selects (tokenizer : Tokenizer σ) (token : Token) (name : String) : Prop :=
  token.key ≠ "" ∧ tokenizer.caseRule.Alike name token.key

theorem evaluation?_registered_iff {token : Token} :
    (∃ evaluated, tokenizer.evaluation? wildcard token = some evaluated ∧
        evaluated.evaluator = .registered name) ↔
      token.key ≠ "" ∧ tokenizer.name? token.key = some name := by
  by_cases missing : token.key = ""
  · simp [evaluation?_of_missing missing, missing]
  · rw [evaluation?_of_named missing]
    cases tokenizer.name? token.key with
    | some other => simp [missing]
    | none => cases wildcard <;> simp

variable (apart : tokenizer.Apart)

include apart

theorem name?_eq_some_iff {key : String} :
    tokenizer.name? key = some name ↔
      name ∈ tokenizer.strategies.keys ∧ tokenizer.caseRule.Alike name key := by
  constructor
  · intro selected
    have selects := List.find?_some selected
    exact ⟨List.mem_of_find?_eq_some selected, CaseRule.selects_iff.mp selects⟩
  · rintro ⟨among, alike⟩
    have selects := CaseRule.selects_iff.mpr alike
    cases selected : tokenizer.name? key with
    | none => exact absurd selects (List.find?_eq_none.mp selected name among)
    | some other =>
      have otherAmong : other ∈ tokenizer.strategies.keys := List.mem_of_find?_eq_some selected
      have otherSelects := List.find?_some selected
      rw [apart.selects_unique otherAmong among otherSelects selects]

/-- The evaluations that are made are those that the visited tokens select. -/
theorem evaluatesIn_iff (among : name ∈ tokenizer.strategies.keys) {template : String} {state : σ} :
    tokenizer.EvaluatesIn wildcard template state name ↔
      ∃ occurrence ∈ tokenizer.visited wildcard (scan template) state,
        tokenizer.Selects occurrence.token name := by
  have selects : ∀ token, tokenizer.Selects token name ↔
      ∃ evaluated, tokenizer.evaluation? wildcard token = some evaluated ∧
        evaluated.evaluator = .registered name := by
    intro token
    rw [evaluation?_registered_iff, name?_eq_some_iff apart, Selects]
    simp only [among, true_and]
  simp only [EvaluatesIn, expand_observed apart, List.nil_append, List.mem_filterMap, selects]
  constructor
  · rintro ⟨evaluated, ⟨occurrence, visited, asked⟩, own⟩
    exact ⟨occurrence, visited, evaluated, asked, own⟩
  · rintro ⟨occurrence, visited, evaluated, asked, own⟩
    exact ⟨evaluated, ⟨occurrence, visited, asked⟩, own⟩

omit apart in
theorem Selects.usable {template : String} {occurrence : Occurrence}
    (selects : tokenizer.Selects occurrence.token name) (member : occurrence ∈ scan template) :
    Usable name :=
  selects.2.usable (usable_key_of_mem_scan member selects.1)

/-- The template that is the token of a name evaluates it. -/
theorem evaluatesIn_of_usable (among : name ∈ tokenizer.strategies.keys) (usable : Usable name)
    (state : σ) : tokenizer.EvaluatesIn wildcard ("$\x7b" ++ name ++ "\x7d") state name := by
  obtain ⟨entry, rfl⟩ := usable.exists_name
  have key : (entry.word.occurrence 0).token.key = entry.text :=
    Token.key_of_isPlain usable.isPlain
  have found : scan entry.written = [entry.word.occurrence 0] := by
    rw [scan, entry.pieces_written]
    rfl
  apply (evaluatesIn_iff apart among).mpr
  change ∃ occurrence ∈ tokenizer.visited wildcard (scan entry.written) state, _
  rw [found, visited_singleton]
  refine ⟨_, List.mem_singleton_self _, ?_, ?_⟩
  · simpa [key] using usable.ne_empty
  · simpa [key] using tokenizer.caseRule.alike_self entry.text

/-- A registered name can be evaluated if it is usable, and else nothing selects it. -/
theorem exists_evaluatesIn_iff (among : name ∈ tokenizer.strategies.keys) (state : σ) :
    (∃ template, tokenizer.EvaluatesIn wildcard template state name) ↔ Usable name := by
  constructor
  · rintro ⟨template, evaluates⟩
    obtain ⟨occurrence, visited, selects⟩ := (evaluatesIn_iff apart among).mp evaluates
    exact selects.usable (mem_of_mem_visited wildcard visited)
  · exact fun usable => ⟨_, evaluatesIn_of_usable apart among usable state⟩

/-! ## Dead names -/

/-- The tokenizer without one of its names. -/
def without (tokenizer : Tokenizer σ) (name : String) : Tokenizer σ :=
  { tokenizer with strategies := tokenizer.strategies.erase name }

private theorem Apart.without (name : String) : (tokenizer.without name).Apart := by
  intro insensitive
  have fewer : (tokenizer.strategies.erase name).keys.Sublist tokenizer.strategies.keys :=
    List.filter_sublist.map Prod.fst
  exact (apart insensitive).sublist (fewer.map Text.fold)

private theorem find?_without {key : String} (unalike : ¬ tokenizer.caseRule.Alike name key) :
    (tokenizer.without name).find? key = tokenizer.find? key := by
  apply Option.ext
  intro strategy
  rw [(Apart.without apart name).find?_eq_some_iff, apart.find?_eq_some_iff]
  have kept : ∀ other, tokenizer.caseRule.Alike other key →
      (tokenizer.without name).strategies.get? other = tokenizer.strategies.get? other := by
    intro other alike
    have different : other ≠ name := by
      rintro rfl
      exact unalike alike
    exact (Dictionary.get?_erase _ name other).trans (if_neg different)
  constructor
  · rintro ⟨other, registered, alike⟩
    exact ⟨other, (kept other alike).symm.trans registered, alike⟩
  · rintro ⟨other, registered, alike⟩
    exact ⟨other, (kept other alike).trans registered, alike⟩

private theorem resolve_without {token : Token} (unselected : ¬ tokenizer.Selects token name) :
    (tokenizer.without name).resolve wildcard token = tokenizer.resolve wildcard token := by
  funext state
  by_cases missing : token.key = ""
  · rw [resolve_of_missing missing, resolve_of_missing missing]
  · have unalike : ¬ tokenizer.caseRule.Alike name token.key :=
      fun alike => unselected ⟨missing, alike⟩
    simp only [resolve, evaluate, find?_without apart unalike]

/-- A template without a token that selects a name is expanded as if the name were not there. -/
theorem expand_without {template : String}
    (unselected : ∀ occurrence ∈ scan template, ¬ tokenizer.Selects occurrence.token name)
    (state : σ) :
    (tokenizer.without name).expand wildcard template state =
      tokenizer.expand wildcard template state := by
  have alike : ResolveAlike Eq (tokenizer.without name) tokenizer wildcard wildcard
      (scan template) := by
    rintro occurrence member state _ rfl
    rw [resolve_without apart (unselected occurrence member)]
    exact ⟨rfl, rfl⟩
  have mode : (tokenizer.without name).strict = tokenizer.strict := rfl
  obtain ⟨report, next⟩ := expand_of_resolveAlike mode alike (Eq.refl state)
  exact Prod.ext report next

/-- A name is evaluated by some template if it is usable. If it is not, no token of any template
selects it, and every template is expanded as if it were not there. -/
structure UsesExactly (tokenizer : Tokenizer σ) (name : String) : Prop where
  evaluated : ∀ wildcard state,
    (∃ template, tokenizer.EvaluatesIn wildcard template state name) ↔ Usable name
  unselected : ¬ Usable name → ∀ template, ∀ occurrence ∈ scan template,
    ¬ tokenizer.Selects occurrence.token name
  dead : ¬ Usable name → ∀ wildcard template state,
    (tokenizer.without name).expand wildcard template state =
      tokenizer.expand wildcard template state

theorem usesExactly (among : name ∈ tokenizer.strategies.keys) : tokenizer.UsesExactly name where
  evaluated _ state := exists_evaluatesIn_iff apart among state
  unselected unusable _ _ member selects := unusable (selects.usable member)
  dead unusable _ _ state :=
    expand_without apart (fun _ member selects => unusable (selects.usable member)) state

end Tokenizer

/-- What names can be used depends on nothing but the names: neither on the mode nor on letter case,
and a configuration takes names that no token can select. -/
theorem usable_names {σ : Type} [Situated σ] :
    (∀ {strategies : Strategies σ} {strict : Bool} {caseRule : CaseRule} {tokenizer : Tokenizer σ},
        Tokenizer.build strategies strict caseRule = .ok tokenizer →
        ∀ name ∈ strategies.keys, tokenizer.UsesExactly name) ∧
      ∀ {config : TokenConfig} {context : WiringContext σ} {wired : Wired σ},
        config.build context = .ok wired →
        ∀ name ∈ config.tokens.keys, wired.tokenizer.UsesExactly name := by
  constructor
  · intro strategies strict caseRule tokenizer built name among
    obtain ⟨rfl, apart⟩ := Tokenizer.eq_of_build built
    exact Tokenizer.usesExactly apart among
  · intro config context wired built name among
    have wires := TokenConfig.wires_of_build built
    rw [← wires.registers.keys_eq] at among
    exact Tokenizer.usesExactly wires.tokenizer_apart among

theorem usable_names_dotted :
    let strategies : Strategies Surroundings :=
      Dictionary.ofList [("A_1", .constant .null), ("a.b", .constant .null)]
    let tokenizer : Tokenizer Surroundings := ⟨strategies, true, .insensitive⟩
    Tokenizer.build strategies true .insensitive = .ok tokenizer ∧
      strategies.keys = ["A_1", "a.b"] ∧
      ∀ state, (∃ template, tokenizer.EvaluatesIn none template state "A_1") ∧
        ¬ ∃ template, tokenizer.EvaluatesIn none template state "a.b" := by
  intro strategies tokenizer
  have keys : strategies.keys = ["A_1", "a.b"] := by decide +kernel
  have built : Tokenizer.build strategies true .insensitive = .ok tokenizer := by
    have apart : Tokenizer.firstCollision? [] strategies.keys = none := by decide +kernel
    simp only [Tokenizer.build, apart]
    rfl
  have uses := usable_names.1 built
  rw [keys] at uses
  refine ⟨built, keys, fun state => ⟨?_, ?_⟩⟩
  · have continues : ∀ character ∈ ['_', '1'],
        IsLetter character ∨ IsDigit character ∨ character = '_' := by
      simp [IsDigit]
    have usable : Usable "A_1" := usable_of_cons rfl (by decide) continues (by decide)
    exact ((uses "A_1" (by decide)).evaluated none state).mpr usable
  · have unusable : ¬ Usable "a.b" := fun usable => absurd usable.isPlain (by decide)
    exact fun evaluates => unusable (((uses "a.b" (by decide)).evaluated none state).mp evaluates)

end Stencil
