import Stencil.Proofs.Settings.LastWins
import Stencil.Proofs.Text.ByteOrder
import Stencil.Settings.Document

/-!
# Variables that no setting is read from

Settings are read from the variables whose names begin with the stem and an underscore. All others
matter in one way only: the environment is read as text as a whole, so a name or a value that is not
text ends the reading, whatever the variable. Two environments with the same variables of the stem
give the same settings unless they differ in that.
-/

set_option autoImplicit false

namespace Stencil

namespace Environment

/-- Whether the name of a variable begins with a text. -/
def begins (start : String) (entry : ByteArray × ByteArray) : Bool :=
  (Text.bytes start).isPrefixOf entry.1.data.toList

/-- The variables whose names begin with a text, in their order. -/
def beginningWith (environment : Environment) (start : String) : List (ByteArray × ByteArray) :=
  environment.entries.filter (begins start)

/-- All names and values are UTF-8. -/
def IsText (environment : Environment) : Prop :=
  ∀ entry ∈ environment.entries, entry.1.IsValidUTF8 ∧ entry.2.IsValidUTF8

/-! ## Reading variables as text -/

def entryText? : ByteArray × ByteArray → Option (String × String)
  | (name, value) => do
    let name ← String.fromUTF8? name
    let value ← String.fromUTF8? value
    pure (name, value)

theorem fromUTF8?_eq_some_iff {bytes : ByteArray} {text : String} :
    String.fromUTF8? bytes = some text ↔ bytes = text.toUTF8 := by
  rw [String.fromUTF8?]
  constructor
  · intro read
    split at read
    case isTrue valid =>
      rw [← Option.some.inj read]
      rfl
    case isFalse => cases read
  · intro same
    subst same
    exact dif_pos text.isValidUTF8

theorem isSome_entryText?_iff {entry : ByteArray × ByteArray} :
    (entryText? entry).isSome = true ↔ entry.1.IsValidUTF8 ∧ entry.2.IsValidUTF8 := by
  obtain ⟨name, value⟩ := entry
  simp only [entryText?, String.fromUTF8?]
  by_cases validName : name.IsValidUTF8
  · by_cases validValue : value.IsValidUTF8
    · simp [validName, validValue]
    · simp [validName, validValue]
  · simp [validName]

private theorem name_of_entryText? {entry : ByteArray × ByteArray} {text : String × String}
    (read : entryText? entry = some text) : entry.1 = text.1.toUTF8 := by
  obtain ⟨name, value⟩ := entry
  obtain ⟨nameText, readName, rest⟩ := Option.bind_eq_some_iff.mp read
  obtain ⟨valueText, -, made⟩ := Option.bind_eq_some_iff.mp rest
  cases made
  exact fromUTF8?_eq_some_iff.mp readName

private theorem mapM_entryText?_of_text {entries : List (ByteArray × ByteArray)}
    (text : ∀ entry ∈ entries, entry.1.IsValidUTF8 ∧ entry.2.IsValidUTF8) :
    entries.mapM entryText? = some (entries.filterMap entryText?) := by
  induction entries with
  | nil => rfl
  | cons entry rest ih =>
    obtain ⟨first, read⟩ :=
      Option.isSome_iff_exists.mp (isSome_entryText?_iff.mpr (text entry List.mem_cons_self))
    have others := ih fun later member => text later (List.mem_cons_of_mem entry member)
    rw [List.mapM_cons, List.filterMap_cons, read, others]
    rfl

private theorem mapM_entryText?_of_not_text {entries : List (ByteArray × ByteArray)}
    {entry : ByteArray × ByteArray} (member : entry ∈ entries)
    (broken : ¬ (entry.1.IsValidUTF8 ∧ entry.2.IsValidUTF8)) :
    entries.mapM entryText? = none := by
  induction entries with
  | nil => cases member
  | cons first rest ih =>
    rw [List.mapM_cons]
    cases read : entryText? first with
    | none => rfl
    | some text =>
      cases List.mem_cons.mp member with
      | inl here =>
        subst here
        exact absurd (isSome_entryText?_iff.mp (Option.isSome_iff_exists.mpr ⟨text, read⟩)) broken
      | inr later =>
        rw [ih later]
        rfl

theorem IsText.texts?_eq {environment : Environment} (text : environment.IsText) :
    environment.texts? = some (environment.entries.filterMap entryText?) :=
  mapM_entryText?_of_text text

theorem texts?_eq_none_iff {environment : Environment} :
    environment.texts? = none ↔ ¬ environment.IsText := by
  constructor
  · intro unread text
    rw [text.texts?_eq] at unread
    cases unread
  · intro broken
    rw [IsText, not_forall] at broken
    obtain ⟨entry, broken⟩ := broken
    obtain ⟨member, broken⟩ := Classical.not_imp.mp broken
    exact mapM_entryText?_of_not_text member broken

/-! ## Variables of a stem -/

private theorem begins_of_toUTF8 {start name : String} (starts : start.toList <+: name.toList)
    (value : ByteArray) : begins start (name.toUTF8, value) = true := by
  obtain ⟨rest, split⟩ := starts
  have bytes : Text.bytes name = Text.bytes start ++ rest.flatMap String.utf8EncodeChar := by
    rw [Text.bytes_eq_flatMap, Text.bytes_eq_flatMap, ← split, List.flatMap_append]
  rw [begins, List.isPrefixOf_iff_prefix]
  exact ⟨_, bytes.symm⟩

/-- Looking a variable up asks only for the variables that begin as its name does. -/
private theorem get?_eq_of_beginningWith {left right : Environment} {start name : String}
    (starts : start.toList <+: name.toList)
    (agree : left.beginningWith start = right.beginningWith start) :
    left.get? name = right.get? name := by
  have among (environment : Environment) : environment.get? name =
      ((environment.beginningWith start).find? fun entry =>
        entry.1.data = name.toUTF8.data).map Prod.snd := by
    rw [get?, beginningWith, List.find?_filter]
    congr 2
    funext entry
    by_cases same : entry.1.data = name.toUTF8.data
    · have found : begins start entry = true := by
        have named := begins_of_toUTF8 starts entry.2
        rwa [begins, ← same] at named
      simp only [same, found, decide_true, and_self]
    · simp only [same, decide_false, Bool.false_eq_true, and_false]
  rw [among, among, agree]

end Environment

namespace Settings

open Environment

/-! ## Settings -/

/-- A variable that overrides a key begins with the stem and an underscore. -/
private theorem Overrides.begins {stem key : String} {entry : ByteArray × ByteArray}
    {text : String × String} (overrides : Overrides stem text.1 key)
    (read : entryText? entry = some text) : begins (stem ++ "_") entry = true := by
  obtain ⟨split, -, -, -⟩ := overrides
  obtain ⟨name, value⟩ := entry
  obtain rfl : name = text.1.toUTF8 := name_of_entryText? read
  refine begins_of_toUTF8 ?_ value
  rw [split, String.toList_append]
  exact List.prefix_append _ _

/-- Variables that do not begin with the stem and an underscore can be left out. -/
theorem withOverrides_filter (settings : Settings) (stem : String)
    (entries : List (ByteArray × ByteArray)) :
    settings.withOverrides stem (entries.filterMap entryText?) =
      settings.withOverrides stem
        ((entries.filter (Environment.begins (stem ++ "_"))).filterMap entryText?) := by
  -- The settings are generalized, as the rest of the variables starts from what the first one sets.
  induction entries generalizing settings with
  | nil => rfl
  | cons entry rest ih =>
    cases starts : Environment.begins (stem ++ "_") entry with
    | true =>
      rw [List.filter_cons_of_pos starts, List.filterMap_cons, List.filterMap_cons]
      cases entryText? entry with
      | none => exact ih settings
      | some text => exact ih _
    | false =>
      have foreign : ¬ Environment.begins (stem ++ "_") entry = true := by
        rw [starts]
        nofun
      rw [List.filter_cons_of_neg foreign, List.filterMap_cons]
      cases read : entryText? entry with
      | none => exact ih settings
      | some text =>
        have unchanged : settings.withOverrides stem [text] = settings := by
          refine ext_get? fun key => ?_
          rw [get?_withOverrides_single]
          exact if_neg fun overrides => foreign (overrides.begins read)
        have step := withOverrides_append settings stem [text] (rest.filterMap entryText?)
        rw [unchanged] at step
        exact step.trans (ih settings)

theorem withEnvironment?_eq_none_iff {settings : Settings} {stem : String}
    {environment : Environment} :
    settings.withEnvironment? stem environment = none ↔ ¬ environment.IsText := by
  rw [withEnvironment?, Option.map_eq_none_iff, texts?_eq_none_iff]

variable {left right : Environment}

theorem withEnvironment?_eq_iff {stem : String}
    (agree : left.beginningWith (stem ++ "_") = right.beginningWith (stem ++ "_"))
    (settings : Settings) :
    settings.withEnvironment? stem left = settings.withEnvironment? stem right ↔
      (left.IsText ↔ right.IsText) := by
  constructor
  · intro same
    rw [← not_iff_not, ← withEnvironment?_eq_none_iff, ← withEnvironment?_eq_none_iff, same]
  · intro alike
    by_cases text : left.IsText
    · have otherText : right.IsText := alike.mp text
      rw [beginningWith, beginningWith] at agree
      rw [withEnvironment?, withEnvironment?, text.texts?_eq, otherText.texts?_eq, Option.map_some,
        Option.map_some, withOverrides_filter, agree, ← withOverrides_filter]
    · rw [withEnvironment?_eq_none_iff.mpr text,
        withEnvironment?_eq_none_iff.mpr fun other => text (alike.mpr other)]

/-- The file of settings is chosen by a variable of the program's own stem. -/
private theorem loadDefault_eq
    (agree : left.beginningWith "SOLDER_" = right.beginningWith "SOLDER_")
    (files : Files) : loadDefault left files = loadDefault right files := by
  have starts : "SOLDER_".toList <+: pathVariable.toList := ⟨"SETTINGS".toList, by decide⟩
  rw [loadDefault, loadDefault, text?, text?, get?_eq_of_beginningWith starts agree]

theorem loadWithEnvironment_eq_iff
    (agree : left.beginningWith "SOLDER_" = right.beginningWith "SOLDER_") (path? : Option String)
    (files : Files) :
    loadWithEnvironment path? left files = loadWithEnvironment path? right files ↔
      (∃ error, loadWithEnvironment path? left files = .error error) ∨
        (left.IsText ↔ right.IsText) := by
  have own : left.beginningWith (overrideStem ++ "_") = right.beginningWith (overrideStem ++ "_") :=
    agree
  have loads (loaded : Except SettingsError Settings) :
      (loaded.map fun settings => settings.withEnvironment? overrideStem left) =
          (loaded.map fun settings => settings.withEnvironment? overrideStem right) ↔
        (∃ error, (loaded.map fun settings => settings.withEnvironment? overrideStem left) =
          .error error) ∨ (left.IsText ↔ right.IsText) := by
    cases loaded with
    | error error => exact ⟨fun _ => .inl ⟨error, rfl⟩, fun _ => rfl⟩
    | ok settings =>
      have result := withEnvironment?_eq_iff own settings
      constructor
      · intro same
        exact .inr (result.mp (Except.ok.inj same))
      · intro alike
        obtain ⟨error, fails⟩ | alike := alike
        · cases fails
        · exact congrArg Except.ok (result.mpr alike)
  simp only [loadWithEnvironment, loadDefault_eq agree files]
  exact loads _

/-- Environments with the same variables of the stem, in the same order, give the same settings or
the same error, except where only one of them is text as a whole: an environment that is not text
gives no settings, also when all variables of the stem are text. Until the file is loaded not even
that matters. -/
theorem foreign_variables (left right : Environment) :
    (∀ (settings : Settings) (stem : String),
      left.beginningWith (stem ++ "_") = right.beginningWith (stem ++ "_") →
        (settings.withEnvironment? stem left = settings.withEnvironment? stem right ↔
          (left.IsText ↔ right.IsText))) ∧
    (∀ (path? : Option String) (files : Files),
      left.beginningWith "SOLDER_" = right.beginningWith "SOLDER_" →
        (loadWithEnvironment path? left files = loadWithEnvironment path? right files ↔
          (∃ error, loadWithEnvironment path? left files = .error error) ∨
            (left.IsText ↔ right.IsText))) ∧
    ∀ (settings : Settings) (stem : String),
      settings.withEnvironment? stem left = none ↔ ¬ left.IsText := by
  refine ⟨?_, ?_, ?_⟩
  · intro settings stem agree
    exact withEnvironment?_eq_iff agree settings
  · intro path? files agree
    exact loadWithEnvironment_eq_iff agree path? files
  · intro settings stem
    exact withEnvironment?_eq_none_iff

/-- The environment with one variable, which is not text. -/
def brokenEnvironment : Environment :=
  ⟨[("LEGACY".toUTF8, ⟨#[0xFF]⟩)]⟩

private theorem not_isText_brokenEnvironment : ¬ brokenEnvironment.IsText := by
  intro text
  have valid := (text _ List.mem_cons_self).2
  exact absurd valid (by decide)

/-- A variable of another program may come, go or change places, and a file that is absent is
reported whatever the other variables are. -/
theorem foreign_variables_in_between :
    (∀ files : Files,
      loadWithEnvironment none
          ⟨[("LANG".toUTF8, "é".toUTF8), ("SOLDER_A".toUTF8, "1".toUTF8),
            ("SOLDER_B".toUTF8, "2".toUTF8)]⟩ files =
        loadWithEnvironment none
          ⟨[("SOLDER_A".toUTF8, "1".toUTF8), ("XSOLDER_C".toUTF8, "3".toUTF8),
            ("SOLDER_B".toUTF8, "2".toUTF8)]⟩ files) ∧
    loadWithEnvironment (some "absent.yaml") .empty (.ofList []) =
      loadWithEnvironment (some "absent.yaml") brokenEnvironment (.ofList []) := by
  have text (names : List (String × String)) :
      IsText ⟨names.map fun entry => (entry.1.toUTF8, entry.2.toUTF8)⟩ := by
    intro entry member
    obtain ⟨named, -, rfl⟩ := List.mem_map.mp member
    exact ⟨named.1.isValidUTF8, named.2.isValidUTF8⟩
  constructor
  · intro files
    refine ((foreign_variables _ _).2.1 none files ?_).mpr (.inr ?_)
    · rfl
    · exact iff_of_true (text [("LANG", "é"), ("SOLDER_A", "1"), ("SOLDER_B", "2")])
        (text [("SOLDER_A", "1"), ("XSOLDER_C", "3"), ("SOLDER_B", "2")])
  · refine ((foreign_variables _ _).2.1 (some "absent.yaml") (.ofList []) ?_).mpr (.inl ?_)
    · rfl
    · exact ⟨.io "absent.yaml" .notFound, rfl⟩

/-- A variable that no setting is read from keeps the settings from being read. -/
theorem not_forall_loadWithEnvironment_eq :
    ¬ ∀ (left right : Environment) (files : Files),
      left.beginningWith "SOLDER_" = right.beginningWith "SOLDER_" →
        loadWithEnvironment none left files = loadWithEnvironment none right files := by
  intro unaffected
  have agree : Environment.empty.beginningWith "SOLDER_" =
      brokenEnvironment.beginningWith "SOLDER_" :=
    rfl
  have same := unaffected .empty brokenEnvironment (.ofList []) agree
  have loads : loadWithEnvironment none .empty (.ofList []) = .ok (some empty) := rfl
  obtain ⟨error, fails⟩ | alike := (loadWithEnvironment_eq_iff agree none (.ofList [])).mp same
  · cases loads.symm.trans fails
  · exact not_isText_brokenEnvironment (alike.mp nofun)

end Settings

end Stencil
