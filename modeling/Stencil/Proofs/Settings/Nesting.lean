import Stencil.Settings.Basic
import Stencil.Value.Path

/-!
# Settings as nested objects

What the nested view of settings holds under a dotted name. The view is told member by member: under
a segment there is the text of the setting with that name, else the view of the settings below it.
So a key that is a setting hides the longer keys, and nothing else is lost.
-/

set_option autoImplicit false

namespace Stencil.Settings

open Text

/-! ## The settings below a name -/

theorem remainder?_eq_some_iff {head text rest : List Char} :
    remainder? head text = some rest ↔ text = head ++ rest := by
  induction head generalizing text with
  | nil =>
    rw [remainder?, Option.some.injEq]
    exact Iff.rfl
  | cons expected others ih =>
    cases text with
    | nil => exact ⟨nofun, nofun⟩
    | cons actual following =>
      by_cases same : expected = actual
      · rw [remainder?, if_pos same, ih, same, List.cons_append, List.cons.injEq]
        exact ⟨fun equal => ⟨rfl, equal⟩, fun equal => equal.2⟩
      · rw [remainder?, if_neg same, List.cons_append, List.cons.injEq]
        exact ⟨nofun, fun wrong => absurd wrong.1.symm same⟩

/-- What follows a name and a dot. -/
def following? (stem key : String) : Option String :=
  (remainder? (stem.toList ++ ['.']) key.toList).map String.ofList

theorem following?_eq_some_iff {stem key rest : String} :
    following? stem key = some rest ↔ key = stem ++ "." ++ rest := by
  have text : (stem ++ "." ++ rest).toList = stem.toList ++ ['.'] ++ rest.toList := by
    rw [String.toList_append, String.toList_append]
    rfl
  rw [following?, Option.map_eq_some_iff, ← String.toList_inj, text]
  constructor
  · rintro ⟨characters, follows, rfl⟩
    rw [String.toList_ofList]
    exact remainder?_eq_some_iff.mp follows
  · intro split
    exact ⟨rest.toList, remainder?_eq_some_iff.mpr split, String.ofList_toList⟩

def entriesWithin (stem : String) (entries : Entries String) : Entries String :=
  entries.filterMap fun entry => (following? stem entry.1).map fun rest => (rest, entry.2)

private theorem append_le_append {left right : String} (stem : String) (least : left ≤ right) :
    stem ++ left ≤ stem ++ right := by
  have lists := @List.append_left_le Char _ _ _ stem.toList left.toList right.toList least
  rw [← String.toList_append, ← String.toList_append] at lists
  exact lists

private theorem lt_of_append_lt_append {stem left right : String}
    (less : stem ++ left < stem ++ right) :
    left < right := by
  refine String.not_le.mp fun least => ?_
  exact String.not_lt.mpr (append_le_append stem least) less

private theorem lt_append_dot (stem rest : String) : stem < stem ++ "." ++ rest := by
  have lists : stem.toList ++ [] < stem.toList ++ ('.' :: rest.toList) :=
    List.append_left_lt (List.nil_lt_cons '.' rest.toList)
  have text : (stem ++ "." ++ rest).toList = stem.toList ++ '.' :: rest.toList := by
    rw [String.toList_append, String.toList_append, List.append_assoc]
    rfl
  rw [List.append_nil, ← text] at lists
  exact lists

private theorem ascending_within {entries : Entries String} (ascending : entries.Ascending)
    (stem : String) : (entriesWithin stem entries).Ascending := by
  unfold Entries.Ascending Entries.keys entriesWithin at *
  rw [List.pairwise_map] at *
  rw [List.pairwise_filterMap]
  refine ascending.imp ?_
  intro left right less below found above foundAbove
  obtain ⟨rest, follows, rfl⟩ := Option.map_eq_some_iff.mp found
  obtain ⟨restAbove, followsAbove, rfl⟩ := Option.map_eq_some_iff.mp foundAbove
  rw [following?_eq_some_iff.mp follows, following?_eq_some_iff.mp followsAbove] at less
  exact lt_of_append_lt_append less

/-- The settings below a name, under what follows it. -/
def within (settings : Settings) (stem : String) : Settings :=
  ⟨⟨entriesWithin stem settings.values.entries,
    ascending_within settings.values.ascending stem⟩⟩

private theorem get?_entriesWithin (stem key : String) (entries : Entries String) :
    (entriesWithin stem entries).get? key = entries.get? (stem ++ "." ++ key) := by
  induction entries with
  | nil => rfl
  | cons entry rest ih =>
    obtain ⟨candidate, value⟩ := entry
    cases follows : following? stem candidate with
    | none =>
      have apart : candidate ≠ stem ++ "." ++ key := by
        intro same
        rw [following?_eq_some_iff.mpr same] at follows
        cases follows
      simp only [entriesWithin, List.filterMap_cons, follows, Option.map_none] at ih ⊢
      rw [Entries.get?, if_neg apart, ih]
    | some tail =>
      have split := following?_eq_some_iff.mp follows
      simp only [entriesWithin, List.filterMap_cons, follows, Option.map_some] at ih ⊢
      rw [Entries.get?, Entries.get?, ih, split]
      by_cases same : tail = key
      · rw [if_pos same, if_pos (by rw [same])]
      · rw [if_neg same, if_neg (fun equal => same ((String.append_right_inj _).mp equal))]

theorem get?_within (settings : Settings) (stem key : String) :
    (settings.within stem).get? key = settings.get? (stem ++ "." ++ key) :=
  get?_entriesWithin stem key settings.values.entries

theorem ext_get? {left right : Settings} (same : ∀ key, left.get? key = right.get? key) :
    left = right := by
  obtain ⟨left⟩ := left
  obtain ⟨right⟩ := right
  have values : left = right := Dictionary.ext_get? same
  rw [values]

theorem within_within (settings : Settings) (outer inner : String) :
    (settings.within outer).within inner = settings.within (outer ++ "." ++ inner) := by
  refine ext_get? fun key => ?_
  simp only [get?_within, String.append_assoc]

/-! ## Members of the nested view -/

/-- What a member becomes when a text is put at a path below it. -/
def graft (text : String) : Option Value → List String → Value
  | none, [] => .string text
  | none, segment :: rest => .object (nest [] text (segment :: rest))
  | some (.object inner), segment :: rest => .object (nest inner text (segment :: rest))
  | some other, _ => other

theorem get?_nest (members : Entries Value) (text head sought : String) (tail : List String) :
    (nest members text (head :: tail)).get? sought =
      if sought = head then some (graft text (members.get? head) tail)
      else members.get? sought := by
  have kept : ∀ value, members.get? head = some value →
      members.get? sought = if sought = head then some value else members.get? sought := by
    intro value found
    split
    case isTrue same => rw [same, found]
    case isFalse => rfl
  cases tail with
  | nil =>
    rw [nest]
    cases found : members.get? head with
    | none =>
      rw [Entries.contains, found]
      exact Entries.get?_insert members head sought (.string text)
    | some value =>
      rw [Entries.contains, found]
      have whole := kept value found
      cases value <;> exact whole
  | cons segment rest =>
    simp only [nest]
    cases found : members.get? head with
    | none => exact Entries.get?_insert members head sought _
    | some value =>
      cases value with
      | object inner => exact Entries.get?_insert members head sought _
      | null | bool | number | string | array => exact kept _ found

theorem ascending_nest {members : Entries Value} (ascending : members.Ascending) (text : String)
    (path : List String) : (nest members text path).Ascending := by
  match path with
  | [] => exact ascending
  | [last] =>
    rw [nest]
    split
    · exact ascending
    · exact ascending.insert last (.string text)
  | segment :: next :: rest =>
    simp only [nest]
    split
    · exact ascending.insert segment _
    · exact ascending.insert segment _
    · exact ascending

def nestAll (members : Entries Value) (entries : Entries String) : Entries Value :=
  entries.foldl (fun members entry => nest members entry.2 (segments entry.1)) members

theorem toValue_eq (settings : Settings) :
    settings.toValue = .object (nestAll [] settings.values.entries) := rfl

private theorem ascending_nestAll {members : Entries Value} (ascending : members.Ascending)
    (entries : Entries String) : (nestAll members entries).Ascending := by
  induction entries generalizing members with
  | nil => exact ascending
  | cons entry rest ih => exact ih (ascending_nest ascending entry.2 (segments entry.1))

/-- Entries that lie neither at a segment nor below it leave its member alone. -/
private theorem get?_nest_of_apart {segment key : String} (text : String)
    (members : Entries Value) (apart : key ≠ segment) (outside : following? segment key = none) :
    (nest members text (segments key)).get? segment = members.get? segment := by
  rcases isPlain_or_exists_head key with plainKey | ⟨head, rest, plainHead, split⟩
  · rw [segments_of_isPlain plainKey, get?_nest, if_neg (Ne.symm apart)]
  · have other : segment ≠ head := by
      intro same
      rw [same, following?_eq_some_iff.mpr split] at outside
      cases outside
    rw [split, segments_append plainHead, get?_nest, if_neg other]

private theorem get?_nest_of_following {segment key rest : String} (plain : IsPlain segment)
    (follows : following? segment key = some rest) (text : String) (members : Entries Value) :
    (nest members text (segments key)).get? segment =
      some (graft text (members.get? segment) (segments rest)) := by
  rw [following?_eq_some_iff.mp follows, segments_append plain, get?_nest, if_pos rfl]

private theorem get?_nest_self {segment : String} (plain : IsPlain segment) (text : String)
    (members : Entries Value) :
    (nest members text (segments segment)).get? segment =
      some (graft text (members.get? segment) []) := by
  rw [segments_of_isPlain plain, get?_nest, if_pos rfl]

/-- A text that stands at a segment stays there. -/
private theorem get?_nestAll_of_string {segment text : String} (plain : IsPlain segment)
    {members : Entries Value} (found : members.get? segment = some (.string text))
    (entries : Entries String) :
    (nestAll members entries).get? segment = some (.string text) := by
  induction entries generalizing members with
  | nil => exact found
  | cons entry rest ih =>
    obtain ⟨key, value⟩ := entry
    refine ih ?_
    cases follows : following? segment key with
    | some tail =>
      rw [get?_nest_of_following plain follows, found]
      cases segments tail <;> rfl
    | none =>
      by_cases same : key = segment
      · rw [same, get?_nest_self plain, found]
        rfl
      · rw [get?_nest_of_apart value members same follows, found]

/-- The shorter key is put first, so the text at a segment is the setting of that name. -/
private theorem get?_nestAll_of_setting {segment text : String} (plain : IsPlain segment)
    {members : Entries Value} (empty : members.get? segment = none) {entries : Entries String}
    (ascending : entries.Ascending) (setting : entries.get? segment = some text) :
    (nestAll members entries).get? segment = some (.string text) := by
  induction entries generalizing members with
  | nil => cases setting
  | cons entry rest ih =>
    obtain ⟨key, value⟩ := entry
    simp only [Entries.Ascending, Entries.keys, List.map_cons, List.pairwise_cons] at ascending
    by_cases same : key = segment
    · rw [Entries.get?, if_pos same, Option.some.injEq] at setting
      refine get?_nestAll_of_string plain ?_ rest
      rw [same, get?_nest_self plain, empty, setting]
      rfl
    · rw [Entries.get?, if_neg same] at setting
      have member : segment ∈ rest.map Prod.fst :=
        Entries.mem_keys_iff.mpr (by rw [Entries.contains, setting]; rfl)
      -- A key below the segment comes after it, and the segment is still ahead.
      have outside : following? segment key = none := by
        cases follows : following? segment key with
        | none => rfl
        | some tail =>
          have above := lt_append_dot segment tail
          rw [← following?_eq_some_iff.mp follows] at above
          exact absurd (ascending.1 segment member) (String.lt_asymm above)
      refine ih ?_ ascending.2 setting
      rw [get?_nest_of_apart value members same outside, empty]

private theorem graft_object (text name : String) (inner : Entries Value) :
    graft text (some (.object inner)) (segments name) =
      .object (nest inner text (segments name)) := by
  cases split : segments name with
  | nil => exact absurd split (segments_ne_nil name)
  | cons segment rest => rfl

private theorem graft_none (text name : String) :
    graft text none (segments name) = .object (nest [] text (segments name)) := by
  cases split : segments name with
  | nil => exact absurd split (segments_ne_nil name)
  | cons segment rest => rfl

/-- Without a setting at a segment, the settings below it make up its member. -/
private theorem get?_nestAll_of_object {segment : String} (plain : IsPlain segment)
    {members inner : Entries Value} (found : members.get? segment = some (.object inner))
    {entries : Entries String} (absent : entries.get? segment = none) :
    (nestAll members entries).get? segment =
      some (.object (nestAll inner (entriesWithin segment entries))) := by
  induction entries generalizing members inner with
  | nil => exact found
  | cons entry rest ih =>
    obtain ⟨key, value⟩ := entry
    obtain ⟨same, absent⟩ := Entries.get?_cons_eq_none_iff.mp absent
    cases follows : following? segment key with
    | none =>
      have kept := get?_nest_of_apart value members same follows
      rw [entriesWithin, List.filterMap_cons, follows]
      exact ih (kept.trans found) absent
    | some tail =>
      have grown := get?_nest_of_following plain follows value members
      rw [found, graft_object] at grown
      rw [entriesWithin, List.filterMap_cons, follows]
      exact ih grown absent

private theorem get?_nestAll_of_absent {segment : String} (plain : IsPlain segment)
    {members : Entries Value} (empty : members.get? segment = none)
    {entries : Entries String} (absent : entries.get? segment = none) :
    (nestAll members entries).get? segment =
      if (entriesWithin segment entries).isEmpty then none
      else some (.object (nestAll [] (entriesWithin segment entries))) := by
  induction entries generalizing members with
  | nil => exact empty
  | cons entry rest ih =>
    obtain ⟨key, value⟩ := entry
    obtain ⟨same, absent⟩ := Entries.get?_cons_eq_none_iff.mp absent
    cases follows : following? segment key with
    | none =>
      have kept := get?_nest_of_apart value members same follows
      rw [entriesWithin, List.filterMap_cons, follows]
      exact ih (kept.trans empty) absent
    | some tail =>
      have grown := get?_nest_of_following plain follows value members
      rw [empty, graft_none] at grown
      rw [entriesWithin, List.filterMap_cons, follows]
      exact get?_nestAll_of_object plain grown absent

/-- The member of the nested view under a segment. -/
theorem child?_toValue (settings : Settings) {segment : String} (plain : IsPlain segment) :
    settings.toValue.child? segment =
      match settings.get? segment with
      | some text => some (.string text)
      | none =>
        if (settings.within segment).toList.isEmpty then none
        else some (settings.within segment).toValue := by
  rw [toValue_eq]
  cases setting : settings.get? segment with
  | some text =>
    exact get?_nestAll_of_setting plain rfl settings.values.ascending setting
  | none => exact get?_nestAll_of_absent plain rfl setting

private theorem get?_nestAll_of_not_isPlain {sought : String} (split : ¬ IsPlain sought)
    {members : Entries Value} (empty : members.get? sought = none) (entries : Entries String) :
    (nestAll members entries).get? sought = none := by
  induction entries generalizing members with
  | nil => exact empty
  | cons entry rest ih =>
    refine ih ?_
    change (nest members entry.2 (segments entry.1)).get? sought = none
    cases path : segments entry.1 with
    | nil => exact absurd path (segments_ne_nil entry.1)
    | cons head tail =>
      have apart : sought ≠ head := by
        intro same
        have member : head ∈ segments entry.1 := path ▸ List.mem_cons_self
        exact split (same ▸ isPlain_of_mem_segments member)
      rw [get?_nest, if_neg apart, empty]

/-- The nested view is determined by its members under plain segments. -/
theorem toValue_eq_object {settings : Settings} {members : Entries Value}
    (ascending : members.Ascending)
    (plainKeys : ∀ segment, ¬ IsPlain segment → members.get? segment = none)
    (same : ∀ segment, IsPlain segment →
      settings.toValue.child? segment = members.get? segment) :
    settings.toValue = .object members := by
  have equal : nestAll [] settings.values.entries = members := by
    have start : Entries.Ascending ([] : Entries Value) := List.Pairwise.nil
    refine (ascending_nestAll start _).ext ascending fun sought => ?_
    by_cases plain : IsPlain sought
    · exact same sought plain
    · rw [get?_nestAll_of_not_isPlain plain rfl, plainKeys sought plain]
  rw [toValue_eq, equal]

/-! ## Walking the nested view -/

/-- A shorter key in front of a dot of the name is a setting. -/
def Shadowed (settings : Settings) (name : String) : Prop :=
  ∃ stem rest, name = stem ++ "." ++ rest ∧ (settings.get? stem).isSome = true

/-- Some setting lies below the name. -/
def HasBelow (settings : Settings) (name : String) : Prop :=
  ∃ rest, (settings.get? (name ++ "." ++ rest)).isSome = true

theorem toList_isEmpty_eq_false_iff (settings : Settings) :
    settings.toList.isEmpty = false ↔ ∃ key, (settings.get? key).isSome = true := by
  constructor
  · intro nonempty
    cases listed : settings.toList with
    | nil => rw [listed] at nonempty; cases nonempty
    | cons entry others =>
      have among : entry.1 ∈ settings.toList.map Prod.fst :=
        List.mem_map_of_mem (listed ▸ List.mem_cons_self)
      exact ⟨entry.1, Entries.mem_keys_iff.mp among⟩
  · rintro ⟨key, setting⟩
    cases listed : settings.toList with
    | nil =>
      change (Entries.get? settings.toList key).isSome = true at setting
      rw [listed] at setting
      cases setting
    | cons entry others => rfl

theorem hasBelow_iff (settings : Settings) (name : String) :
    settings.HasBelow name ↔ (settings.within name).toList.isEmpty = false := by
  rw [toList_isEmpty_eq_false_iff, HasBelow]
  simp only [get?_within]

private theorem not_hasBelow_of_isEmpty {settings : Settings} {name : String}
    (empty : (settings.within name).toList.isEmpty = true) : ¬ settings.HasBelow name := by
  rw [hasBelow_iff, empty]
  exact Bool.false_ne_true.symm

theorem not_shadowed_of_isPlain (settings : Settings) {name : String} (plain : IsPlain name) :
    ¬ settings.Shadowed name := by
  rintro ⟨stem, rest, split, -⟩
  exact not_isPlain_append stem rest (split ▸ plain)

theorem shadowed_append_iff (settings : Settings) {head : String} (plain : IsPlain head)
    (rest : String) :
    settings.Shadowed (head ++ "." ++ rest) ↔
      (settings.get? head).isSome = true ∨ (settings.within head).Shadowed rest := by
  constructor
  · rintro ⟨stem, following, split, setting⟩
    rcases isPlain_or_exists_head stem with plainStem | ⟨first, others, plainFirst, rfl⟩
    · rw [(append_dot_inj plain plainStem split).1]
      exact .inl setting
    · have longer : head ++ "." ++ rest = first ++ "." ++ (others ++ "." ++ following) := by
        simp only [split, String.append_assoc]
      obtain ⟨rfl, rfl⟩ := append_dot_inj plain plainFirst longer
      refine .inr ⟨others, following, rfl, ?_⟩
      rw [get?_within]
      exact setting
  · rintro (setting | ⟨stem, following, rfl, setting⟩)
    · exact ⟨head, rest, rfl, setting⟩
    · refine ⟨head ++ "." ++ stem, following, ?_, ?_⟩
      · simp only [String.append_assoc]
      · rw [get?_within] at setting
        exact setting

private theorem hasBelow_within_iff (settings : Settings) (head rest : String) :
    (settings.within head).HasBelow rest ↔ settings.HasBelow (head ++ "." ++ rest) := by
  unfold HasBelow
  simp only [get?_within, String.append_assoc]

/-- What walking the nested view along a dotted name may give. The four cases exclude each other. -/
inductive Shows (settings : Settings) (name : String) : Except String Value → Prop where
  | hidden (shadowed : settings.Shadowed name) (blamed : String) :
      Shows settings name (.error blamed)
  | setting (visible : ¬ settings.Shadowed name) {text : String}
      (found : settings.get? name = some text) : Shows settings name (.ok (.string text))
  | subtree (visible : ¬ settings.Shadowed name) (absent : settings.get? name = none)
      (below : settings.HasBelow name) : Shows settings name (.ok (settings.within name).toValue)
  | missing (visible : ¬ settings.Shadowed name) (absent : settings.get? name = none)
      (nothing : ¬ settings.HasBelow name) (blamed : String) : Shows settings name (.error blamed)

namespace Shows

variable {settings : Settings} {name : String} {outcome : Except String Value}

theorem exists_error_of_shadowed (shows : settings.Shows name outcome)
    (shadowed : settings.Shadowed name) : ∃ blamed, outcome = .error blamed := by
  cases shows with
  | hidden _ blamed => exact ⟨blamed, rfl⟩
  | setting visible | subtree visible | missing visible => exact absurd shadowed visible

theorem eq_of_setting (shows : settings.Shows name outcome) (visible : ¬ settings.Shadowed name)
    {text : String} (found : settings.get? name = some text) : outcome = .ok (.string text) := by
  cases shows with
  | hidden shadowed => exact absurd shadowed visible
  | setting _ other => rw [Option.some.inj (other.symm.trans found)]
  | subtree _ absent | missing _ absent =>
    rw [absent] at found
    cases found

theorem eq_of_below (shows : settings.Shows name outcome) (visible : ¬ settings.Shadowed name)
    (absent : settings.get? name = none) (below : settings.HasBelow name) :
    outcome = .ok (settings.within name).toValue := by
  cases shows with
  | hidden shadowed => exact absurd shadowed visible
  | setting _ found =>
    rw [absent] at found
    cases found
  | subtree => rfl
  | missing _ _ nothing => exact absurd below nothing

theorem exists_error_of_missing (shows : settings.Shows name outcome)
    (absent : settings.get? name = none) (nothing : ¬ settings.HasBelow name) :
    ∃ blamed, outcome = .error blamed := by
  cases shows with
  | hidden _ blamed | missing _ _ _ blamed => exact ⟨blamed, rfl⟩
  | setting _ found =>
    rw [absent] at found
    cases found
  | subtree _ _ below => exact absurd below nothing

end Shows

private theorem Shows.of_within {settings : Settings} {head rest : String}
    {outcome : Except String Value}
    (plain : IsPlain head) (absent : settings.get? head = none)
    (shows : (settings.within head).Shows rest outcome) :
    settings.Shows (head ++ "." ++ rest) outcome := by
  have shadowedIff : settings.Shadowed (head ++ "." ++ rest) ↔
      (settings.within head).Shadowed rest := by
    rw [shadowed_append_iff settings plain, absent]
    exact ⟨fun either => either.resolve_left Bool.false_ne_true, .inr⟩
  have belowIff := hasBelow_within_iff settings head rest
  cases shows with
  | hidden shadowed blamed => exact .hidden (shadowedIff.mpr shadowed) blamed
  | setting visible found =>
    rw [get?_within] at found
    exact .setting (fun shadowed => visible (shadowedIff.mp shadowed)) found
  | subtree visible absentThere below =>
    rw [get?_within] at absentThere
    rw [within_within]
    exact .subtree (fun shadowed => visible (shadowedIff.mp shadowed)) absentThere
      (belowIff.mp below)
  | missing visible absentThere nothing blamed =>
    rw [get?_within] at absentThere
    exact .missing (fun shadowed => visible (shadowedIff.mp shadowed)) absentThere
      (fun below => nothing (belowIff.mpr below)) blamed

private theorem shows_of_nothing_below {settings : Settings} {head : String}
    (nothing : ¬ settings.HasBelow head) (rest blamed : String) :
    (settings.within head).Shows rest (.error blamed) := by
  have lacks : ∀ key, (settings.within head).get? key = none := by
    intro key
    cases found : (settings.within head).get? key with
    | none => rfl
    | some text =>
      rw [get?_within] at found
      exact absurd ⟨key, by rw [found]; rfl⟩ nothing
  refine .missing ?_ (lacks rest) ?_ blamed
  · rintro ⟨stem, following, -, setting⟩
    rw [lacks] at setting
    cases setting
  · rintro ⟨following, setting⟩
    rw [lacks] at setting
    cases setting

/-- Walking the nested view along a dotted name: a shorter setting hides it, else it is a setting,
else the settings below it make up an object, else it leads nowhere. -/
theorem shows_walk (settings : Settings) (name : String) :
    settings.Shows name (settings.toValue.walk (segments name)) := by
  generalize path : segments name = segs
  induction segs generalizing settings name with
  | nil => exact absurd path (segments_ne_nil name)
  | cons segment others ih =>
    rcases isPlain_or_exists_head name with plain | ⟨head, rest, plain, rfl⟩
    · rw [segments_of_isPlain plain, List.cons.injEq] at path
      obtain ⟨rfl, rfl⟩ := path
      have visible := not_shadowed_of_isPlain settings plain
      rw [Value.walk, child?_toValue settings plain]
      cases found : settings.get? name with
      | some text => exact .setting visible found
      | none =>
        cases nothing : (settings.within name).toList.isEmpty with
        | true => exact .missing visible found (not_hasBelow_of_isEmpty nothing) name
        | false => exact .subtree visible found ((hasBelow_iff settings name).mpr nothing)
    · rw [segments_append plain, List.cons.injEq] at path
      obtain ⟨rfl, rfl⟩ := path
      rw [Value.walk, child?_toValue settings plain]
      cases found : settings.get? head with
      | some text =>
        have shadowed : settings.Shadowed (head ++ "." ++ rest) :=
          ⟨head, rest, rfl, by rw [found]; rfl⟩
        -- The walk stops at the text, with at least one segment left over.
        cases split : segments rest with
        | nil => exact absurd split (segments_ne_nil rest)
        | cons next more => exact .hidden shadowed next
      | none =>
        refine .of_within plain found ?_
        cases nothing : (settings.within head).toList.isEmpty with
        | true => exact shows_of_nothing_below (not_hasBelow_of_isEmpty nothing) rest head
        | false => exact ih (settings.within head) rest rfl

end Stencil.Settings
