/-!
# Entries under text keys

Lists of key and value pairs, read by the first entry of a key. `insert` replaces the value of a key
that is present where it stands and places a new key before the first greater one, so lists built by
it alone are in ascending key order. The order of texts is that of their code points, which is also
the order of their UTF-8 bytes.
-/

set_option autoImplicit false

namespace Stencil

abbrev Entries (α : Type) := List (String × α)

namespace Entries

variable {α : Type}

def get? (entries : Entries α) (key : String) : Option α :=
  match entries with
  | [] => none
  | (candidate, value) :: rest => if candidate = key then some value else get? rest key

def contains (entries : Entries α) (key : String) : Bool :=
  (get? entries key).isSome

def replace (entries : Entries α) (key : String) (value : α) : Entries α :=
  match entries with
  | [] => []
  | (candidate, old) :: rest =>
    if candidate = key then (candidate, value) :: rest
    else (candidate, old) :: replace rest key value

/-- Puts an entry before the first one with a greater key. -/
def place (entries : Entries α) (key : String) (value : α) : Entries α :=
  match entries with
  | [] => [(key, value)]
  | (candidate, old) :: rest =>
    if key < candidate then (key, value) :: (candidate, old) :: rest
    else (candidate, old) :: place rest key value

/-- Sets the value of a key, keeping its place when it has one. -/
def insert (entries : Entries α) (key : String) (value : α) : Entries α :=
  if entries.contains key then replace entries key value else place entries key value

def erase (entries : Entries α) (key : String) : Entries α :=
  entries.filter fun entry => entry.1 ≠ key

def keys (entries : Entries α) : List String :=
  entries.map Prod.fst

/-- Keys ascend strictly, so each occurs once. -/
def Ascending (entries : Entries α) : Prop :=
  entries.keys.Pairwise (· < ·)

theorem get?_replace_self {entries : Entries α} {key : String} {value : α}
    (present : entries.contains key = true) :
    (entries.replace key value).get? key = some value := by
  induction entries with
  | nil => simp [contains, get?] at present
  | cons entry rest ih =>
    obtain ⟨candidate, old⟩ := entry
    by_cases same : candidate = key
    · simp [replace, get?, same]
    · simp only [contains, get?, if_neg same] at present
      simp only [replace, if_neg same, get?]
      exact ih present

theorem get?_replace_other {entries : Entries α} {key other : String} {value : α}
    (different : other ≠ key) : (entries.replace key value).get? other = entries.get? other := by
  induction entries with
  | nil => rfl
  | cons entry rest ih =>
    obtain ⟨candidate, old⟩ := entry
    by_cases same : candidate = key
    · simp [replace, get?, same, Ne.symm different]
    · simp [replace, get?, same, ih]

private theorem get?_place_self {entries : Entries α} {key : String} {value : α}
    (absent : entries.contains key = false) :
    (entries.place key value).get? key = some value := by
  induction entries with
  | nil => simp [place, get?]
  | cons entry rest ih =>
    obtain ⟨candidate, old⟩ := entry
    have apart : candidate ≠ key := by
      intro same
      simp [contains, get?, same] at absent
    simp only [contains, get?, if_neg apart] at absent
    unfold place
    split
    · simp [get?]
    · simp only [get?, if_neg apart]
      exact ih absent

private theorem get?_place_other {entries : Entries α} {key other : String} {value : α}
    (different : other ≠ key) : (entries.place key value).get? other = entries.get? other := by
  induction entries with
  | nil => simp [place, get?, Ne.symm different]
  | cons entry rest ih =>
    obtain ⟨candidate, old⟩ := entry
    unfold place
    split
    · simp [get?, Ne.symm different]
    · simp [get?, ih]

theorem get?_insert_self (entries : Entries α) (key : String) (value : α) :
    (entries.insert key value).get? key = some value := by
  unfold insert
  split
  case isTrue present => exact get?_replace_self present
  case isFalse absent => exact get?_place_self (by simpa using absent)

theorem get?_insert_other {entries : Entries α} {key other : String} {value : α}
    (different : other ≠ key) : (entries.insert key value).get? other = entries.get? other := by
  unfold insert
  split
  · exact get?_replace_other different
  · exact get?_place_other different

theorem get?_insert (entries : Entries α) (key other : String) (value : α) :
    (entries.insert key value).get? other =
      if other = key then some value else entries.get? other := by
  by_cases same : other = key
  · subst same
    simp [get?_insert_self]
  · simp [same, get?_insert_other same]

theorem get?_erase (entries : Entries α) (key other : String) :
    (entries.erase key).get? other = if other = key then none else entries.get? other := by
  induction entries with
  | nil => simp [erase, get?]
  | cons entry rest ih =>
    obtain ⟨candidate, old⟩ := entry
    simp only [erase] at ih
    by_cases dropped : candidate = key
    · subst dropped
      simp only [erase, List.filter_cons, ne_eq, not_true_eq_false, decide_false,
        Bool.false_eq_true, if_false, ih, get?]
      by_cases same : other = candidate
      · simp [same]
      · simp [same, Ne.symm same]
    · simp only [erase, List.filter_cons, ne_eq, dropped, not_false_eq_true, decide_true, if_true,
        get?, ih]
      by_cases found : candidate = other
      · have apart : other ≠ key := fun equal => dropped (found.trans equal)
        simp [found, apart]
      · simp [found]

theorem keys_replace (entries : Entries α) (key : String) (value : α) :
    (entries.replace key value).keys = entries.keys := by
  induction entries with
  | nil => rfl
  | cons entry rest ih =>
    obtain ⟨candidate, old⟩ := entry
    simp only [keys] at ih
    unfold replace
    split <;> simp [keys, ih]

private theorem mem_keys_place {entries : Entries α} {key other : String} {value : α} :
    other ∈ (entries.place key value).keys ↔ other = key ∨ other ∈ entries.keys := by
  induction entries with
  | nil => simp [place, keys]
  | cons entry rest ih =>
    obtain ⟨candidate, old⟩ := entry
    simp only [keys] at ih
    unfold place
    split
    · simp [keys]
    · simp only [keys, List.map_cons, List.mem_cons, ih]
      exact or_left_comm

theorem mem_keys_iff {entries : Entries α} {key : String} :
    key ∈ entries.keys ↔ entries.contains key = true := by
  induction entries with
  | nil => simp [keys, contains, get?]
  | cons entry rest ih =>
    obtain ⟨candidate, old⟩ := entry
    simp only [keys, contains] at ih
    by_cases same : candidate = key
    · simp [keys, contains, get?, same]
    · simp [keys, contains, get?, same, Ne.symm same, ih]

theorem Ascending.replace {entries : Entries α} (ascending : entries.Ascending) (key : String)
    (value : α) : (entries.replace key value).Ascending := by
  unfold Ascending
  rw [keys_replace]
  exact ascending

private theorem Ascending.place {entries : Entries α} (ascending : entries.Ascending) {key : String}
    {value : α} (absent : entries.contains key = false) :
    (entries.place key value).Ascending := by
  induction entries with
  | nil => simp [Entries.place, Ascending, keys]
  | cons entry rest ih =>
    obtain ⟨candidate, old⟩ := entry
    have apart : candidate ≠ key := by
      intro same
      simp [contains, get?, same] at absent
    have absentRest : contains rest key = false := by
      simpa [contains, get?, apart] using absent
    simp only [Ascending, keys, List.map_cons, List.pairwise_cons] at ascending
    unfold Entries.place
    split
    case isTrue before =>
      simp only [Ascending, keys, List.map_cons, List.pairwise_cons, List.mem_cons]
      refine ⟨?_, ascending⟩
      rintro other (rfl | member)
      · exact before
      · exact String.lt_trans before (ascending.1 other member)
    case isFalse notBefore =>
      have after : candidate < key := by
        rcases String.le_total candidate key with least | least
        · exact Classical.byContradiction fun notLess =>
            apart (String.le_antisymm least (String.not_lt.mp notLess))
        · exact absurd (String.le_antisymm least (String.not_lt.mp notBefore)).symm apart
      simp only [Ascending, keys, List.map_cons, List.pairwise_cons]
      refine ⟨?_, ih ascending.2 absentRest⟩
      intro other member
      rcases mem_keys_place.mp member with rfl | old
      · exact after
      · exact ascending.1 other old

theorem Ascending.insert {entries : Entries α} (ascending : entries.Ascending) (key : String)
    (value : α) : (entries.insert key value).Ascending := by
  unfold Entries.insert
  split
  case isTrue => exact ascending.replace key value
  case isFalse absent => exact ascending.place (by simpa using absent)

theorem Ascending.erase {entries : Entries α} (ascending : entries.Ascending) (key : String) :
    (entries.erase key).Ascending :=
  List.Pairwise.sublist (List.filter_sublist.map Prod.fst) ascending

theorem get?_cons_eq_none_iff {key sought : String} {value : α} {rest : Entries α} :
    get? ((key, value) :: rest) sought = none ↔ key ≠ sought ∧ rest.get? sought = none := by
  rw [get?]
  by_cases here : key = sought
  · rw [if_pos here]
    constructor
    · intro found
      cases found
    · intro absent
      exact absurd here absent.1
  · rw [if_neg here]
    exact ⟨fun absent => ⟨here, absent⟩, And.right⟩

theorem get?_eq_none_of_lt {entries : Entries α} {key : String}
    (least : ∀ other ∈ entries.keys, key < other) : entries.get? key = none := by
  cases found : entries.get? key with
  | none => rfl
  | some value =>
    have member : key ∈ entries.keys := mem_keys_iff.mpr (by simp [contains, found])
    exact absurd (least key member) (String.lt_irrefl key)

theorem mem_of_get? {entries : Entries α} {key : String} {value : α}
    (found : entries.get? key = some value) : (key, value) ∈ entries := by
  induction entries with
  | nil => cases found
  | cons entry rest ih =>
    obtain ⟨candidate, old⟩ := entry
    rw [get?] at found
    split at found
    case isTrue same =>
      rw [same, Option.some.inj found]
      exact List.mem_cons_self
    case isFalse => exact List.mem_cons_of_mem _ (ih found)

theorem Ascending.get?_of_mem {entries : Entries α} (ascending : entries.Ascending)
    {key : String} {value : α} (member : (key, value) ∈ entries) :
    entries.get? key = some value := by
  induction entries with
  | nil => cases member
  | cons entry rest ih =>
    obtain ⟨candidate, old⟩ := entry
    obtain ⟨least, ascending⟩ := List.pairwise_cons.mp ascending
    rw [get?]
    rcases List.mem_cons.mp member with same | later
    · obtain ⟨rfl, rfl⟩ := Prod.mk.inj same
      rw [if_pos rfl]
    · have apart : candidate ≠ key := by
        rintro rfl
        exact String.lt_irrefl candidate (least candidate (List.mem_map_of_mem later))
      rw [if_neg apart, ih ascending later]

/-! ### Setting a key again -/

theorem replace_replace (entries : Entries α) (key : String) (first second : α) :
    (entries.replace key first).replace key second = entries.replace key second := by
  induction entries with
  | nil => rfl
  | cons entry rest ih =>
    obtain ⟨candidate, old⟩ := entry
    by_cases same : candidate = key
    · simp only [replace, if_pos same]
    · simp only [replace, if_neg same, ih]

private theorem replace_place {entries : Entries α} {key : String}
    (absent : entries.contains key = false) (first second : α) :
    (entries.place key first).replace key second = entries.place key second := by
  induction entries with
  | nil => simp only [place, replace, if_true]
  | cons entry rest ih =>
    obtain ⟨candidate, old⟩ := entry
    have apart : candidate ≠ key := by
      intro same
      simp [contains, get?, same] at absent
    have absentRest : contains rest key = false := by
      simpa [contains, get?, apart] using absent
    unfold place
    split
    case isTrue => simp only [replace, if_true]
    case isFalse => simp only [replace, if_neg apart, ih absentRest]

theorem insert_insert (entries : Entries α) (key : String) (first second : α) :
    (entries.insert key first).insert key second = entries.insert key second := by
  have present : (entries.insert key first).contains key = true := by
    rw [contains, get?_insert_self]
    rfl
  rw [insert, if_pos present, insert, insert]
  split
  case isTrue => exact replace_replace entries key first second
  case isFalse absent => exact replace_place (Bool.not_eq_true _ ▸ absent) first second

theorem replace_of_get? {entries : Entries α} {key : String} {value : α}
    (found : entries.get? key = some value) : entries.replace key value = entries := by
  induction entries with
  | nil => cases found
  | cons entry rest ih =>
    obtain ⟨candidate, old⟩ := entry
    by_cases same : candidate = key
    · rw [get?, if_pos same] at found
      rw [replace, if_pos same, Option.some.inj found]
    · rw [get?, if_neg same] at found
      rw [replace, if_neg same, ih found]

theorem insert_of_get? {entries : Entries α} {key : String} {value : α}
    (found : entries.get? key = some value) : entries.insert key value = entries := by
  have present : entries.contains key = true := by
    rw [contains, found]
    rfl
  rw [insert, if_pos present, replace_of_get? found]

theorem mem_keys_insert {entries : Entries α} {key other : String} {value : α} :
    other ∈ (entries.insert key value).keys ↔ other ∈ entries.keys ∨ other = key := by
  unfold insert
  split
  case isTrue present =>
    rw [keys_replace]
    constructor
    · exact .inl
    · rintro (among | rfl)
      · exact among
      · exact mem_keys_iff.mpr present
  case isFalse => rw [mem_keys_place, or_comm]

/-! ### Other values under the same keys -/

theorem keys_map {β : Type} (transform : String → α → β) (entries : Entries α) :
    keys (entries.map fun entry => (entry.1, transform entry.1 entry.2)) = entries.keys := by
  simp only [keys, List.map_map]
  rfl

theorem get?_map {β : Type} (transform : String → α → β) (entries : Entries α) (key : String) :
    get? (entries.map fun entry => (entry.1, transform entry.1 entry.2)) key =
      (entries.get? key).map (transform key) := by
  induction entries with
  | nil => rfl
  | cons entry rest ih =>
    rw [List.map_cons, get?, get?]
    by_cases same : entry.1 = key
    · rw [if_pos same, if_pos same, same, Option.map_some]
    · rw [if_neg same, if_neg same, ih]

/-- Ascending entries are determined by what they answer. -/
theorem Ascending.ext {left right : Entries α} (leftAscending : left.Ascending)
    (rightAscending : right.Ascending) (same : ∀ key, left.get? key = right.get? key) :
    left = right := by
  induction left generalizing right with
  | nil =>
    cases right with
    | nil => rfl
    | cons entry rest => simpa [get?] using same entry.1
  | cons entry rest ih =>
    obtain ⟨key, value⟩ := entry
    cases right with
    | nil => simpa [get?] using same key
    | cons other others =>
      obtain ⟨otherKey, otherValue⟩ := other
      simp only [Ascending, keys, List.map_cons, List.pairwise_cons] at leftAscending rightAscending
      have keysEqual : otherKey = key := by
        refine Classical.byContradiction fun apart => ?_
        have presentRight : get? others key = some value := by
          simpa [get?, apart] using (same key).symm
        have presentLeft : get? rest otherKey = some otherValue := by
          simpa [get?, Ne.symm apart] using same otherKey
        have after := rightAscending.1 key (mem_keys_iff.mpr (by simp [contains, presentRight]))
        have before := leftAscending.1 otherKey (mem_keys_iff.mpr (by simp [contains, presentLeft]))
        exact String.lt_asymm after before
      subst keysEqual
      have valuesEqual : value = otherValue := by simpa [get?] using same otherKey
      subst valuesEqual
      have restEqual : rest = others := by
        refine ih leftAscending.2 rightAscending.2 fun sought => ?_
        by_cases first : otherKey = sought
        · subst first
          rw [get?_eq_none_of_lt leftAscending.1, get?_eq_none_of_lt rightAscending.1]
        · simpa [get?, first] using same sought
      rw [restEqual]

end Entries

end Stencil
