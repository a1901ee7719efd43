import Stencil.Settings.Basic
import Stencil.Yaml.Tree

/-!
# Settings documents

A document is flattened to settings: the key of a leaf is the dotted list of the keys on the way to
it, and its text is the text of the scalar. Leaves are read in document order, so of two with one
key the last stays. Files are read when a variable names one or when the default one is there.
-/

set_option autoImplicit false

namespace Stencil

open Yaml

/-- How doubles are laid out in settings: no sign before an exponent that is not negative. -/
def settingLayout : Number.DecimalLayout where
  exponentSign := ""
  infinity := ".inf"
  notANumber := ".nan"

namespace Settings

def numberText : Numeral → String
  | .integer value => toString value
  | .double value => settingLayout.render value

def boolText (value : Bool) : String := if value then "true" else "false"

def keyText? : Tree → Option String
  | .string text => some text
  | .number value => some (numberText value)
  | .bool value => some (boolText value)
  | _ => none

def leafText? : Tree → Option String
  | .null => some ""
  | tree => keyText? tree

def below (parent key : String) : String :=
  if parent.isEmpty then key else parent ++ "." ++ key

def flatten (settings : Settings) (parent : String) :
    List (Tree × Tree) → Except SettingsError Settings
  | [] => .ok settings
  | (key, value) :: rest =>
    match keyText? key with
    | none => .error (.unsupported parent "mapping keys must be scalars")
    | some text =>
      match value with
      | .mapping pairs =>
        match flatten settings (below parent text) pairs with
        | .error error => .error error
        | .ok settings => flatten settings parent rest
      | leaf =>
        match leafText? leaf with
        | some leafText => flatten (settings.set (below parent text) leafText) parent rest
        | none =>
          .error (.unsupported (below parent text) "only scalars and mappings are allowed")

def ofTree : Tree → Except SettingsError Settings
  | .null => .ok empty
  | .mapping pairs => flatten empty "" pairs
  | _ => .error (.unsupported "" "top level must be a mapping")

def ofYaml (text : String) : Except SettingsError Settings :=
  match Tree.ofText? text with
  | none => .error .yaml
  | some tree => ofTree tree

def load (files : Files) (path : String) : Except SettingsError Settings :=
  match files.readText path with
  | .error fault => .error (.io path fault)
  | .ok text => ofYaml text

/-- The settings of the file that a variable names, else of the default file if it is there, else
none at all. -/
def loadDefault (environment : Environment) (files : Files) : Except SettingsError Settings :=
  match environment.text? pathVariable with
  | some path => load files path
  | none => if files.hasPath defaultPath then load files defaultPath else .ok empty

/-- The settings of a given file, or of the default one, with the program's own overrides. The inner
result is none when the environment cannot be read as text. -/
def loadWithEnvironment (path? : Option String) (environment : Environment) (files : Files) :
    Except SettingsError (Option Settings) :=
  let loaded :=
    match path? with
    | some path => load files path
    | none => loadDefault environment files
  loaded.map fun settings => settings.withEnvironment? overrideStem environment

end Settings

end Stencil
