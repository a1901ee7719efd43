import Stencil.Text.Pair

/-!
# Characters spelled by pairs

A pair of characters is written for each occurrence of the one that it stands for. Reading the pairs
from the left gives the text back where nothing in it runs together with a pair, and what has been
read holds no more pairs, except for those that the character itself makes.
-/

set_option autoImplicit false

namespace Stencil.Text

variable {first second replacement : Char}

/-- The text with the pair for each occurrence of the character that it stands for. -/
def spellPair (first second replacement : Char) (text : List Char) : List Char :=
  text.flatMap fun character => if character = replacement then [first, second] else [character]

/-! ## Writing -/

theorem spellPair_cons_self (rest : List Char) :
    spellPair first second replacement (replacement :: rest) =
      first :: second :: spellPair first second replacement rest := by
  rw [spellPair, List.flatMap_cons, if_pos rfl]
  rfl

theorem spellPair_cons_of_ne {character : Char} (other : character ≠ replacement)
    (rest : List Char) :
    spellPair first second replacement (character :: rest) =
      character :: spellPair first second replacement rest := by
  rw [spellPair, List.flatMap_cons, if_neg other]
  rfl

theorem spellPair_ne_nil {text : List Char} (some : text ≠ []) :
    spellPair first second replacement text ≠ [] := by
  obtain ⟨character, rest, rfl⟩ := List.exists_cons_of_ne_nil some
  by_cases same : character = replacement
  · rw [same, spellPair_cons_self]
    exact List.cons_ne_nil _ _
  · rw [spellPair_cons_of_ne same]
    exact List.cons_ne_nil _ _

/-- Writing pairs brings in their two characters only and leaves none that they stand for. -/
theorem mem_spellPair {text : List Char} {character : Char}
    (member : character ∈ spellPair first second replacement text) :
    character = first ∨ character = second ∨ (character ∈ text ∧ character ≠ replacement) := by
  obtain ⟨letter, among, inside⟩ := List.mem_flatMap.mp member
  split at inside
  case isTrue =>
    cases List.mem_cons.mp inside with
    | inl here => exact .inl here
    | inr later => exact .inr (.inl (List.mem_singleton.mp later))
  case isFalse other =>
    obtain rfl := List.mem_singleton.mp inside
    exact .inr (.inr ⟨among, other⟩)

theorem replacement_not_mem_spellPair (apartFirst : replacement ≠ first)
    (apartSecond : replacement ≠ second) (text : List Char) :
    replacement ∉ spellPair first second replacement text := by
  intro member
  obtain here | here | ⟨-, other⟩ := mem_spellPair member
  · exact apartFirst here
  · exact apartSecond here
  · exact other rfl

/-! ## Reading -/

theorem replacePair_cons {character : Char} {rest : List Char}
    (apart : character = first → rest.head? ≠ some second) :
    replacePair first second replacement (character :: rest) =
      character :: replacePair first second replacement rest := by
  cases rest with
  | nil => rfl
  | cons next rest =>
    rw [replacePair, if_neg]
    intro pair
    obtain ⟨same, follows⟩ := pair
    exact apart same (congrArg some follows)

theorem head?_replacePair_cons {character : Char} (other : character ≠ first) (rest : List Char) :
    (replacePair first second replacement (character :: rest)).head? = some character := by
  rw [replacePair_cons fun same => absurd same other]
  rfl

theorem mem_replacePair {text : List Char} {character : Char}
    (member : character ∈ replacePair first second replacement text) :
    character ∈ text ∨ character = replacement := by
  induction text using replacePair.induct first second with
  | case1 left right rest pair ih =>
    rw [replacePair, if_pos pair] at member
    cases List.mem_cons.mp member with
    | inl here => exact .inr here
    | inr later =>
      refine (ih later).imp_left fun inside => ?_
      exact List.mem_cons_of_mem _ (List.mem_cons_of_mem _ inside)
  | case2 left right rest unpaired ih =>
    rw [replacePair, if_neg unpaired] at member
    cases List.mem_cons.mp member with
    | inl here => exact .inl (here ▸ List.mem_cons_self)
    | inr later => exact (ih later).imp_left (List.mem_cons_of_mem _)
  | case3 single => exact .inl member
  | case4 => exact .inl member

/-- A first character of the pair that stays is followed by what the reading goes on with, and the
text goes on with no second character there. -/
theorem not_infix_replacePair {text : List Char} {next : Char} (apart : replacement ≠ first)
    (goesOn : ∀ right rest, right :: rest <:+ text → right ≠ second →
      (replacePair first second replacement (right :: rest)).head? ≠ some next) :
    ¬ [first, next] <:+: replacePair first second replacement text := by
  induction text using replacePair.induct first second with
  | case1 left right rest pair ih =>
    rw [replacePair, if_pos pair]
    intro inside
    cases List.infix_cons_iff.mp inside with
    | inl starts => exact apart (List.cons_prefix_cons.mp starts).1.symm
    | inr later =>
      refine ih (fun head others ends => goesOn head others (ends.trans ?_)) later
      exact (List.suffix_cons right rest).trans (List.suffix_cons left _)
  | case2 left right rest unpaired ih =>
    rw [replacePair, if_neg unpaired]
    intro inside
    cases List.infix_cons_iff.mp inside with
    | inl starts =>
      obtain ⟨same, after, split⟩ := List.cons_prefix_cons.mp starts
      have other : right ≠ second := fun equal => unpaired ⟨same.symm, equal⟩
      refine goesOn right rest (List.suffix_cons left _) other ?_
      rw [← split]
      rfl
    | inr later =>
      refine ih (fun head others ends => goesOn head others (ends.trans ?_)) later
      exact List.suffix_cons left _
  | case3 single =>
    intro inside
    have short := inside.length_le
    simp only [replacePair, List.length_cons, List.length_nil] at short
    omega
  | case4 =>
    intro inside
    cases List.infix_nil.mp inside

private theorem eq_of_head?_replacePair {character head : Char} {rest : List Char}
    (starts : (replacePair first second replacement (character :: rest)).head? = some head) :
    head = character ∨ head = replacement := by
  cases rest with
  | nil => exact .inl (Option.some.inj starts).symm
  | cons next rest =>
    rw [replacePair] at starts
    split at starts
    case isTrue => exact .inr (Option.some.inj starts).symm
    case isFalse => exact .inl (Option.some.inj starts).symm

/-- No pair is left: what follows a first character that stays is itself no second one, and reading
brings in no second one. -/
theorem pair_not_infix_replacePair (apartFirst : replacement ≠ first)
    (apartSecond : replacement ≠ second) (text : List Char) :
    ¬ [first, second] <:+: replacePair first second replacement text := by
  apply not_infix_replacePair apartFirst
  intro right rest _ other starts
  cases eq_of_head?_replacePair starts with
  | inl same => exact other same.symm
  | inr read => exact apartSecond read.symm

/-- How a text is read from the left: a pair is read as the character that it stands for, and where
none starts the next character is read as itself. -/
inductive ReadsPairs (first second replacement : Char) : List Char → List Char → Prop where
  | nil : ReadsPairs first second replacement [] []
  | pair {rest read : List Char} (reads : ReadsPairs first second replacement rest read) :
      ReadsPairs first second replacement (first :: second :: rest) (replacement :: read)
  | other {character : Char} {rest read : List Char}
      (unpaired : ¬ [first, second] <+: character :: rest)
      (reads : ReadsPairs first second replacement rest read) :
      ReadsPairs first second replacement (character :: rest) (character :: read)

theorem readsPairs_replacePair (text : List Char) :
    ReadsPairs first second replacement text (replacePair first second replacement text) := by
  induction text using replacePair.induct first second with
  | case1 left right rest pair ih =>
    rw [replacePair, if_pos pair]
    obtain ⟨rfl, rfl⟩ := pair
    exact .pair ih
  | case2 left right rest unpaired ih =>
    rw [replacePair, if_neg unpaired]
    refine .other (fun starts => unpaired ?_) ih
    obtain ⟨same, follows⟩ := List.cons_prefix_cons.mp starts
    exact ⟨same.symm, (List.cons_prefix_cons.mp follows).1.symm⟩
  | case3 single =>
    refine .other (fun starts => ?_) .nil
    have short := starts.length_le
    simp only [List.length_cons, List.length_nil] at short
    omega
  | case4 => exact .nil

theorem readsPairs_iff {text read : List Char} :
    ReadsPairs first second replacement text read ↔
      replacePair first second replacement text = read := by
  constructor
  · intro reads
    induction reads with
    | nil => rfl
    | pair reads ih => rw [replacePair, if_pos ⟨rfl, rfl⟩, ih]
    | @other character rest read unpaired reads ih =>
      have apart : character = first → rest.head? ≠ some second := by
        intro same follows
        obtain ⟨others, rfl⟩ := List.head?_eq_some_iff.mp follows
        exact unpaired ⟨others, by rw [same]; rfl⟩
      rw [replacePair_cons apart, ih]
  · intro same
    rw [← same]
    exact readsPairs_replacePair text

/-! ## Reading what was written -/

/-- Writing makes no pair but the ones it means: what follows a first character is what was there
before, or the first character of the next pair. -/
private theorem head?_spellPair_ne {rest : List Char}
    (unpaired : ¬ [first, second] <:+: first :: rest)
    (apart : first = second → ¬ [first, replacement] <:+: first :: rest) :
    (spellPair first second replacement rest).head? ≠ some second := by
  intro head
  cases rest with
  | nil => cases head
  | cons next rest =>
    by_cases same : next = replacement
    · rw [same, spellPair_cons_self] at head
      exact apart (Option.some.inj head) ⟨[], rest, by rw [same]; rfl⟩
    · rw [spellPair_cons_of_ne same] at head
      exact unpaired ⟨[], rest, by rw [Option.some.inj head]; rfl⟩

theorem replacePair_spellPair {text : List Char} (unpaired : ¬ [first, second] <:+: text)
    (apart : first = second → ¬ [first, replacement] <:+: text) :
    replacePair first second replacement (spellPair first second replacement text) = text := by
  induction text with
  | nil => rfl
  | cons character rest ih =>
    have inside : rest <:+: character :: rest := (List.suffix_cons character rest).isInfix
    have shorter := ih (fun deeper => unpaired (deeper.trans inside))
      fun doubled deeper => apart doubled (deeper.trans inside)
    by_cases same : character = replacement
    · rw [same, spellPair_cons_self, replacePair, if_pos ⟨rfl, rfl⟩, shorter]
    · have goesOn : character = first →
          (spellPair first second replacement rest).head? ≠ some second := by
        intro starts
        subst starts
        exact head?_spellPair_ne unpaired apart
      rw [spellPair_cons_of_ne same, replacePair_cons goesOn, shorter]

end Stencil.Text
