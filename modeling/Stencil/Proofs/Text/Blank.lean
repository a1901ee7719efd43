import Stencil.Text.Blank

/-!
# What trimming leaves

Trimming a text takes the blanks off both of its ends and leaves the rest: a stretch of the text
that neither starts nor ends with a blank, and there is only one such stretch with nothing but
blanks around it.
-/

set_option autoImplicit false

namespace Stencil.Text

/-- A stretch of a text with nothing but blanks before and after it. -/
def Padded (text core : List Char) : Prop :=
  ∃ before after, (∀ character ∈ before, isBlank character = true) ∧
    (∀ character ∈ after, isBlank character = true) ∧ text = before ++ (core ++ after)

structure Trimmed (text core : List Char) : Prop where
  padded : Padded text core
  starts : ∀ character ∈ core.head?, isBlank character = false
  ends : ∀ character ∈ core.getLast?, isBlank character = false

private theorem dropWhile_isBlank_of_starts {text : List Char}
    (starts : ∀ character ∈ text.head?, isBlank character = false) :
    text.dropWhile isBlank = text := by
  cases text with
  | nil => rfl
  | cons character rest => exact List.dropWhile_cons_of_neg (by simp [starts character rfl])

private theorem starts_dropWhile_isBlank (text : List Char) :
    ∀ character ∈ (text.dropWhile isBlank).head?, isBlank character = false := by
  intro character first
  have stopped := List.head?_dropWhile_not isBlank text
  rw [first] at stopped
  exact stopped

private theorem blank_of_mem_takeWhile {text : List Char} :
    ∀ character ∈ text.takeWhile isBlank, isBlank character = true :=
  List.all_eq_true.mp List.all_takeWhile

theorem trimmed_trimChars (text : List Char) : Trimmed text (trimChars text) := by
  have front : text = text.takeWhile isBlank ++ text.dropWhile isBlank :=
    List.takeWhile_append_dropWhile.symm
  obtain ⟨rest, remains⟩ : ∃ rest, text.dropWhile isBlank = rest := ⟨_, rfl⟩
  have back : rest = trimChars text ++ (rest.reverse.takeWhile isBlank).reverse := by
    rw [trimChars, remains, ← List.reverse_append, List.takeWhile_append_dropWhile,
      List.reverse_reverse]
  refine ⟨⟨text.takeWhile isBlank, (rest.reverse.takeWhile isBlank).reverse,
    blank_of_mem_takeWhile, ?_, ?_⟩, ?_, ?_⟩
  · intro character member
    exact blank_of_mem_takeWhile character (List.mem_reverse.mp member)
  · rw [← back, ← remains]
    exact front
  · intro character first
    apply starts_dropWhile_isBlank text
    rw [remains, back, List.head?_append, Option.mem_def.mp first]
    rfl
  · intro character last
    rw [trimChars, List.getLast?_reverse] at last
    exact starts_dropWhile_isBlank _ character last

theorem Trimmed.trimChars_eq {text core : List Char} (trimmed : Trimmed text core) :
    trimChars text = core := by
  obtain ⟨⟨before, after, blankBefore, blankAfter, rfl⟩, starts, ends⟩ := trimmed
  have blankEnd : ∀ character ∈ after.reverse, isBlank character = true := by
    intro character member
    exact blankAfter character (List.mem_reverse.mp member)
  rw [trimChars, List.dropWhile_append_of_pos blankBefore]
  cases core with
  | nil =>
    have vanishes : (after ++ []).dropWhile isBlank = [] :=
      List.dropWhile_append_of_pos blankAfter
    rw [List.nil_append, ← List.append_nil after, vanishes]
    rfl
  | cons character rest =>
    have kept : ((character :: rest).reverse).dropWhile isBlank = (character :: rest).reverse := by
      apply dropWhile_isBlank_of_starts
      rw [List.head?_reverse]
      exact ends
    have front : (character :: rest ++ after).dropWhile isBlank = character :: rest ++ after :=
      dropWhile_isBlank_of_starts starts
    rw [front, List.reverse_append, List.dropWhile_append_of_pos blankEnd, kept,
      List.reverse_reverse]

theorem trimChars_eq_iff {text core : List Char} :
    trimChars text = core ↔ Trimmed text core := by
  constructor
  · intro same
    rw [← same]
    exact trimmed_trimChars text
  · exact Trimmed.trimChars_eq

theorem solid_of_any {core : List Char} (none : core.any isBlank = false) :
    ∀ character ∈ core, isBlank character = false := fun character member =>
  Bool.not_eq_true _ ▸ List.any_eq_false.mp none character member

/-- A stretch without blanks is what is left when there are only blanks around it. -/
theorem Padded.trimmed {text core : List Char} (padded : Padded text core)
    (solid : ∀ character ∈ core, isBlank character = false) : Trimmed text core :=
  ⟨padded, fun character first => solid character (List.mem_of_mem_head? first),
    fun character last => solid character (List.mem_of_mem_getLast? last)⟩

end Stencil.Text
