/-!
# Separated texts

Splitting at a separator character and joining again. A dotted name such as `a.b` is the list of
its segments; splitting never gives an empty list, so the name `""` has the one segment `""`.
-/

set_option autoImplicit false

namespace Stencil.Text

/-- The stretches between the separators, in order. There is one more of them than separators. -/
def splitAt (separator : Char) : List Char → List (List Char)
  | [] => [[]]
  | character :: rest =>
    if character = separator then
      [] :: splitAt separator rest
    else
      match splitAt separator rest with
      | [] => [[character]]
      | first :: others => (character :: first) :: others

def segments (name : String) : List String :=
  (splitAt '.' name.toList).map String.ofList

def dotted (names : List String) : String :=
  ".".intercalate names

theorem splitAt_ne_nil (separator : Char) (text : List Char) : splitAt separator text ≠ [] := by
  cases text with
  | nil => simp [splitAt]
  | cons character rest =>
    unfold splitAt
    split
    · simp
    · split <;> simp

private theorem intercalate_splitAt (separator : Char) (text : List Char) :
    [separator].intercalate (splitAt separator text) = text := by
  induction text with
  | nil => rfl
  | cons character rest ih =>
    unfold splitAt
    split
    case isTrue same =>
      obtain ⟨first, others, equal⟩ := List.exists_cons_of_ne_nil (splitAt_ne_nil separator rest)
      rw [equal] at ih ⊢
      rw [List.intercalate_cons_cons, ih, same]
      rfl
    case isFalse =>
      split
      case h_1 empty => exact absurd empty (splitAt_ne_nil separator rest)
      case h_2 first others equal =>
        rw [equal] at ih
        rw [List.intercalate_cons_cons_left, ih]

theorem dotted_segments (name : String) : dotted (segments name) = name := by
  rw [← String.toList_inj, dotted, String.toList_intercalate, segments, List.map_map,
    String.toList_comp_ofList, List.map_id]
  exact intercalate_splitAt '.' name.toList

theorem splitAt_of_not_mem {separator : Char} {text : List Char} (absent : separator ∉ text) :
    splitAt separator text = [text] := by
  induction text with
  | nil => rfl
  | cons character rest ih =>
    have other : character ≠ separator := (List.ne_of_not_mem_cons absent).symm
    rw [splitAt, if_neg other, ih (List.not_mem_of_not_mem_cons absent)]

theorem splitAt_append {separator : Char} {text : List Char} (absent : separator ∉ text)
    (rest : List Char) :
    splitAt separator (text ++ separator :: rest) = text :: splitAt separator rest := by
  induction text with
  | nil => rw [List.nil_append, splitAt, if_pos rfl]
  | cons character others ih =>
    have other : character ≠ separator := (List.ne_of_not_mem_cons absent).symm
    rw [List.cons_append, splitAt, if_neg other, ih (List.not_mem_of_not_mem_cons absent)]

private theorem not_mem_of_mem_splitAt {separator : Char} {text stretch : List Char}
    (member : stretch ∈ splitAt separator text) : separator ∉ stretch := by
  induction text generalizing stretch with
  | nil =>
    rw [splitAt, List.mem_singleton] at member
    rw [member]
    exact List.not_mem_nil
  | cons character rest ih =>
    unfold splitAt at member
    split at member
    case isTrue =>
      rcases List.mem_cons.mp member with rfl | later
      · exact List.not_mem_nil
      · exact ih later
    case isFalse other =>
      split at member
      case h_1 empty => exact absurd empty (splitAt_ne_nil separator rest)
      case h_2 first others equal =>
        rw [equal] at ih
        rcases List.mem_cons.mp member with rfl | later
        · intro inside
          rcases List.mem_cons.mp inside with same | deeper
          · exact other same.symm
          · exact ih List.mem_cons_self deeper
        · exact ih (List.mem_cons_of_mem first later)

theorem eq_or_mem_splitAt_of_mem (separator : Char) {text : List Char} {character : Char}
    (member : character ∈ text) :
    character = separator ∨ ∃ stretch ∈ splitAt separator text, character ∈ stretch := by
  induction text with
  | nil => cases member
  | cons head rest ih =>
    unfold splitAt
    split
    case isTrue same =>
      cases List.mem_cons.mp member with
      | inl here => exact .inl (here.trans same)
      | inr later =>
        refine (ih later).imp_right fun inside => ?_
        obtain ⟨stretch, among, inside⟩ := inside
        exact ⟨stretch, List.mem_cons_of_mem _ among, inside⟩
    case isFalse =>
      split
      case h_1 empty => exact absurd empty (splitAt_ne_nil separator rest)
      case h_2 first others equal =>
        rw [equal] at ih
        cases List.mem_cons.mp member with
        | inl here => exact .inr ⟨head :: first, List.mem_cons_self, here ▸ List.mem_cons_self⟩
        | inr later =>
          refine (ih later).imp_right fun inside => ?_
          obtain ⟨stretch, among, inside⟩ := inside
          cases List.mem_cons.mp among with
          | inl same =>
            have longer := List.mem_cons_of_mem head (same ▸ inside)
            exact ⟨head :: first, List.mem_cons_self, longer⟩
          | inr beyond => exact ⟨stretch, List.mem_cons_of_mem _ beyond, inside⟩

/-! ### Names with and without a dot -/

/-- A name that is a single segment. -/
def IsPlain (name : String) : Prop := '.' ∉ name.toList

instance : DecidablePred IsPlain :=
  fun name => inferInstanceAs (Decidable ('.' ∉ name.toList))

theorem not_isPlain_append (head rest : String) : ¬ IsPlain (head ++ "." ++ rest) := by
  intro plain
  refine plain ?_
  rw [String.toList_append, String.toList_append]
  exact List.mem_append_left _ (List.mem_append_right _ List.mem_cons_self)

theorem append_dot_ne_empty (head rest : String) : head ++ "." ++ rest ≠ "" := by
  intro empty
  refine not_isPlain_append head rest ?_
  rw [empty]
  exact List.not_mem_nil

theorem segments_of_isPlain {name : String} (plain : IsPlain name) : segments name = [name] := by
  rw [segments, splitAt_of_not_mem plain, List.map_singleton, String.ofList_toList]

theorem segments_ne_nil (name : String) : segments name ≠ [] := by
  rw [segments, ne_eq, List.map_eq_nil_iff]
  exact splitAt_ne_nil '.' name.toList

theorem segments_append {head : String} (plain : IsPlain head) (rest : String) :
    segments (head ++ "." ++ rest) = head :: segments rest := by
  have text : (head ++ "." ++ rest).toList = head.toList ++ '.' :: rest.toList := by
    rw [String.toList_append, String.toList_append, List.append_assoc]
    rfl
  rw [segments, text, splitAt_append plain, List.map_cons, String.ofList_toList]
  rfl

/-- Every name is a single segment, or one before a dot and what follows it. -/
theorem isPlain_or_exists_head (name : String) :
    IsPlain name ∨ ∃ head rest, IsPlain head ∧ name = head ++ "." ++ rest := by
  by_cases dot : '.' ∈ name.toList
  · obtain ⟨before, after, split, first⟩ := List.eq_append_cons_of_mem dot
    refine .inr ⟨String.ofList before, String.ofList after, ?_, ?_⟩
    · rw [IsPlain, String.toList_ofList]
      exact first
    · rw [← String.toList_inj, split, String.toList_append, String.toList_append,
        String.toList_ofList, String.toList_ofList, String.toList_ofList, List.append_assoc]
      rfl
  · exact .inl dot

theorem isPlain_of_mem_segments {name part : String} (member : part ∈ segments name) :
    IsPlain part := by
  obtain ⟨stretch, among, rfl⟩ := List.mem_map.mp member
  rw [IsPlain, String.toList_ofList]
  exact not_mem_of_mem_splitAt among

/-- The first segment of a name with a dot ends at its first dot. -/
theorem append_dot_inj {head other rest following : String} (plain : IsPlain head)
    (plainOther : IsPlain other) (same : head ++ "." ++ rest = other ++ "." ++ following) :
    head = other ∧ rest = following := by
  have split : segments (head ++ "." ++ rest) = segments (other ++ "." ++ following) := by rw [same]
  rw [segments_append plain, segments_append plainOther, List.cons.injEq] at split
  refine ⟨split.1, ?_⟩
  rw [← dotted_segments rest, split.2, dotted_segments]

/-! ### Names put together -/

theorem dotted_cons (head : String) {rest : List String} (more : rest ≠ []) :
    dotted (head :: rest) = head ++ "." ++ dotted rest := by
  obtain ⟨next, others, rfl⟩ := List.exists_cons_of_ne_nil more
  exact String.intercalate_cons_cons

theorem dotted_concat {names : List String} (some : names ≠ []) (last : String) :
    dotted (names ++ [last]) = dotted names ++ "." ++ last := by
  induction names with
  | nil => exact absurd rfl some
  | cons head rest ih =>
    by_cases more : rest = []
    · subst more
      exact dotted_cons head (List.cons_ne_nil last [])
    · have longer : rest ++ [last] ≠ [] := List.append_ne_nil_of_left_ne_nil more [last]
      rw [List.cons_append, dotted_cons head longer, ih more, dotted_cons head more]
      simp only [String.append_assoc]

theorem dotted_cons_ne_empty {head : String} (named : head ≠ "") (rest : List String) :
    dotted (head :: rest) ≠ "" := by
  by_cases more : rest = []
  · subst more
    exact named
  · rw [dotted_cons head more]
    exact append_dot_ne_empty head (dotted rest)

/-- Splitting is the inverse of joining single segments. -/
theorem segments_dotted {names : List String} (some : names ≠ [])
    (plain : ∀ name ∈ names, IsPlain name) : segments (dotted names) = names := by
  induction names with
  | nil => exact absurd rfl some
  | cons head rest ih =>
    obtain ⟨plainHead, plainRest⟩ := List.forall_mem_cons.mp plain
    by_cases more : rest = []
    · subst more
      exact segments_of_isPlain plainHead
    · rw [dotted_cons head more, segments_append plainHead, ih more plainRest]

end Stencil.Text
