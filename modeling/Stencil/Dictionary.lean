import Stencil.Entries

/-!
# Dictionaries

Finite maps from texts, listed in ascending order of their keys. Two dictionaries are equal when
they answer the same for every key.
-/

set_option autoImplicit false

namespace Stencil

structure Dictionary (α : Type) where
  entries : Entries α
  ascending : entries.Ascending

namespace Dictionary

variable {α : Type}

def empty : Dictionary α := ⟨[], List.Pairwise.nil⟩

instance : Inhabited (Dictionary α) := ⟨empty⟩

def get? (dictionary : Dictionary α) (key : String) : Option α :=
  dictionary.entries.get? key

def contains (dictionary : Dictionary α) (key : String) : Bool :=
  dictionary.entries.contains key

def insert (dictionary : Dictionary α) (key : String) (value : α) : Dictionary α :=
  ⟨dictionary.entries.insert key value, dictionary.ascending.insert key value⟩

def erase (dictionary : Dictionary α) (key : String) : Dictionary α :=
  ⟨dictionary.entries.erase key, dictionary.ascending.erase key⟩

def keys (dictionary : Dictionary α) : List String :=
  dictionary.entries.keys

def size (dictionary : Dictionary α) : Nat :=
  dictionary.entries.length

/-- Makes new values of the keys and their values. -/
def map {β : Type} (transform : String → α → β) (dictionary : Dictionary α) : Dictionary β where
  entries := dictionary.entries.map fun entry => (entry.1, transform entry.1 entry.2)
  ascending := by
    rw [Entries.Ascending, Entries.keys_map]
    exact dictionary.ascending

/-- Sets the given entries in turn, so the last value of a key stays. -/
def insertMany (dictionary : Dictionary α) (entries : List (String × α)) : Dictionary α :=
  entries.foldl (fun sofar entry => sofar.insert entry.1 entry.2) dictionary

def ofList (entries : List (String × α)) : Dictionary α :=
  empty.insertMany entries

theorem get?_insert (dictionary : Dictionary α) (key other : String) (value : α) :
    (dictionary.insert key value).get? other =
      if other = key then some value else dictionary.get? other :=
  Entries.get?_insert dictionary.entries key other value

theorem get?_erase (dictionary : Dictionary α) (key other : String) :
    (dictionary.erase key).get? other = if other = key then none else dictionary.get? other :=
  Entries.get?_erase dictionary.entries key other

theorem keys_map {β : Type} (transform : String → α → β) (dictionary : Dictionary α) :
    (dictionary.map transform).keys = dictionary.keys :=
  Entries.keys_map transform dictionary.entries

theorem get?_map {β : Type} (transform : String → α → β) (dictionary : Dictionary α)
    (key : String) :
    (dictionary.map transform).get? key = (dictionary.get? key).map (transform key) :=
  Entries.get?_map transform dictionary.entries key

theorem mem_keys_iff {dictionary : Dictionary α} {key : String} :
    key ∈ dictionary.keys ↔ dictionary.contains key = true :=
  Entries.mem_keys_iff

theorem mem_keys_iff_exists {dictionary : Dictionary α} {key : String} :
    key ∈ dictionary.keys ↔ ∃ value, dictionary.get? key = some value :=
  mem_keys_iff.trans Option.isSome_iff_exists

theorem ext_get? {left right : Dictionary α} (same : ∀ key, left.get? key = right.get? key) :
    left = right := by
  obtain ⟨leftEntries, leftAscending⟩ := left
  obtain ⟨rightEntries, rightAscending⟩ := right
  have equal : leftEntries = rightEntries := leftAscending.ext rightAscending same
  subst equal
  rfl

/-! ### Several entries -/

theorem get?_insertMany (dictionary : Dictionary α) (entries : List (String × α)) (key : String) :
    (dictionary.insertMany entries).get? key =
      ((ofList entries).get? key).or (dictionary.get? key) := by
  induction entries generalizing dictionary with
  | nil => rfl
  | cons entry rest ih =>
    have whole : (dictionary.insertMany (entry :: rest)).get? key =
        ((ofList rest).get? key).or ((dictionary.insert entry.1 entry.2).get? key) := ih _
    have alone : (ofList (entry :: rest)).get? key =
        ((ofList rest).get? key).or ((empty.insert entry.1 entry.2).get? key) := ih _
    rw [whole, alone, get?_insert, get?_insert, Option.or_assoc]
    split <;> rfl

theorem get?_ofList_append (left right : List (String × α)) (key : String) :
    (ofList (left ++ right)).get? key = ((ofList right).get? key).or ((ofList left).get? key) := by
  have together : ofList (left ++ right) = (ofList left).insertMany right := List.foldl_append
  rw [together, get?_insertMany]

theorem get?_ofList_cons (entry : String × α) (rest : List (String × α)) (key : String) :
    (ofList (entry :: rest)).get? key =
      ((ofList rest).get? key).or (if key = entry.1 then some entry.2 else none) := by
  have single : (ofList [entry]).get? key = if key = entry.1 then some entry.2 else none :=
    get?_insert empty entry.1 key entry.2
  rw [← single]
  exact get?_ofList_append [entry] rest key

theorem get?_ofList_of_absent {entries : List (String × α)} {key : String}
    (absent : ∀ entry ∈ entries, entry.1 ≠ key) : (ofList entries).get? key = none := by
  induction entries with
  | nil => rfl
  | cons entry rest ih =>
    have other : key ≠ entry.1 := (absent entry List.mem_cons_self).symm
    rw [get?_ofList_cons, ih fun later member => absent later (List.mem_cons_of_mem entry member),
      if_neg other]
    rfl

theorem isSome_get?_ofList {entries : List (String × α)} {entry : String × α}
    (member : entry ∈ entries) : ((ofList entries).get? entry.1).isSome = true := by
  induction entries with
  | nil => cases member
  | cons first rest ih =>
    rw [get?_ofList_cons, Option.isSome_or]
    rcases List.mem_cons.mp member with rfl | later
    · rw [if_pos rfl, Option.isSome_some, Bool.or_true]
    · rw [ih later, Bool.true_or]

theorem get?_ofList_map {rename : String → String}
    (injective : ∀ left right, rename left = rename right → left = right)
    (entries : List (String × α)) (key : String) :
    (ofList (entries.map fun entry => (rename entry.1, entry.2))).get? (rename key) =
      (ofList entries).get? key := by
  induction entries with
  | nil => rfl
  | cons entry rest ih =>
    rw [List.map_cons, get?_ofList_cons, get?_ofList_cons, ih]
    by_cases same : key = entry.1
    · rw [if_pos same, if_pos (congrArg rename same)]
    · rw [if_neg same, if_neg fun equal => same (injective key entry.1 equal)]

/-- Of the values listed for a key, the last one stays. -/
theorem get?_ofList_eq_some_iff {entries : List (String × α)} {key : String} {value : α} :
    (ofList entries).get? key = some value ↔
      ∃ before after, entries = before ++ (key, value) :: after ∧
        ∀ entry ∈ after, entry.1 ≠ key := by
  induction entries with
  | nil =>
    constructor
    · nofun
    · intro listed
      obtain ⟨before, after, split, -⟩ := listed
      cases before <;> cases split
  | cons entry rest ih =>
    rw [get?_ofList_cons, Option.or_eq_some_iff, ih]
    constructor
    · intro found
      cases found with
      | inl later =>
        obtain ⟨before, after, split, last⟩ := later
        exact ⟨entry :: before, after, by rw [split]; rfl, last⟩
      | inr here =>
        obtain ⟨absent, here⟩ := here
        split at here
        case isTrue same =>
          obtain rfl := Option.some.inj here
          refine ⟨[], rest, by rw [same]; rfl, fun later member equal => ?_⟩
          have present := isSome_get?_ofList member
          rw [equal, absent] at present
          cases present
        case isFalse => cases here
    · intro listed
      obtain ⟨before, after, split, last⟩ := listed
      cases before with
      | nil =>
        obtain ⟨rfl, rfl⟩ := List.cons.inj split
        exact .inr ⟨get?_ofList_of_absent last, if_pos rfl⟩
      | cons first before =>
        exact .inl ⟨before, after, (List.cons.inj split).2, last⟩

theorem mem_keys_ofList_iff {entries : List (String × α)} {key : String} :
    key ∈ (ofList entries).keys ↔ key ∈ entries.map Prod.fst := by
  constructor
  · intro listed
    obtain ⟨value, found⟩ := mem_keys_iff_exists.mp listed
    obtain ⟨before, after, split, -⟩ := get?_ofList_eq_some_iff.mp found
    have member : (key, value) ∈ entries := by
      rw [split]
      exact List.mem_append_right before List.mem_cons_self
    exact List.mem_map_of_mem member
  · intro listed
    obtain ⟨entry, member, rfl⟩ := List.mem_map.mp listed
    exact mem_keys_iff.mpr (isSome_get?_ofList member)

end Dictionary

/-- A finite set of texts in ascending order. -/
abbrev KeySet := Dictionary Unit

def KeySet.add (set : KeySet) (key : String) : KeySet :=
  Dictionary.insert set key ()

end Stencil
