import Stencil.Dictionary
import Stencil.Environment
import Stencil.Files
import Stencil.Member.Parameter
import Stencil.Text.Case
import Stencil.Text.Dotted
import Stencil.Text.Pair
import Stencil.Value.Basic

/-!
# Settings

Texts under dotted keys. Variables of the environment override them, and the whole can be seen as
nested objects in which a key that is a setting hides the longer keys that start with it.
-/

set_option autoImplicit false

namespace Stencil

inductive SettingsError where
  | io (path : String) (fault : FileFault)
  | yaml
  | unsupported (key reason : String)
  | missing (key : String)
  | parse (key value reason : String)
deriving DecidableEq, Repr

def SettingsError.message : SettingsError → String
  | io path fault => "Failed to read settings from " ++ path ++ ": " ++ fault.message
  | yaml => "Invalid settings YAML:"
  | unsupported key reason => "Unsupported value at '" ++ key ++ "': " ++ reason
  | missing key => "Missing setting: " ++ key
  | parse key value reason =>
    "Setting '" ++ key ++ "' = '" ++ value ++ "' could not be parsed: " ++ reason

structure Settings where
  values : Dictionary String

namespace Settings

def empty : Settings := ⟨.empty⟩

instance : Inhabited Settings := ⟨empty⟩

def get? (settings : Settings) (key : String) : Option String :=
  settings.values.get? key

def require (settings : Settings) (key : String) : Except SettingsError String :=
  match settings.get? key with
  | some value => .ok value
  | none => .error (.missing key)

def set (settings : Settings) (key value : String) : Settings :=
  ⟨settings.values.insert key value⟩

def toList (settings : Settings) : List (String × String) :=
  settings.values.entries

def parsed {α : Type} (settings : Settings) (read : String → Except String α) (key : String) :
    Except SettingsError (Option α) :=
  match settings.get? key with
  | none => .ok none
  | some text =>
    match read text with
    | .ok value => .ok (some value)
    | .error reason => .error (.parse key text reason)

/-! ### Overrides -/

def pathVariable : String := "SOLDER_SETTINGS"

def tokensVariable : String := "SOLDER_TOKENS"

def reservedVariables : List String := [pathVariable, tokensVariable]

def overrideStem : String := "SOLDER"

def defaultPath : String := "config/settings.yaml"

def remainder? : List Char → List Char → Option (List Char)
  | [], rest => some rest
  | _ :: _, [] => none
  | expected :: head, actual :: rest => if expected = actual then remainder? head rest else none

/-- The key that a variable overrides: what follows the stem and an underscore, in small letters,
with a dot for each pair of underscores. -/
def overriddenKey? (stem name : String) : Option String :=
  match remainder? (stem.toList ++ ['_']) name.toList with
  | none => none
  | some [] => none
  | some rest =>
    if reservedVariables.contains name then none
    else some (String.ofList (Text.replacePair '_' '_' '.' (rest.map Char.toLower)))

def withOverrides (settings : Settings) (stem : String) (overrides : List (String × String)) :
    Settings :=
  overrides.foldl
    (fun sofar entry =>
      match overriddenKey? stem entry.1 with
      | some key => sofar.set key entry.2
      | none => sofar)
    settings

/-- Applies the variables of an environment. There is no result when the name or the value of any
variable, whatever its name, is not text. -/
def withEnvironment? (settings : Settings) (stem : String) (environment : Environment) :
    Option Settings :=
  environment.texts?.map (settings.withOverrides stem)

/-! ### Nesting -/

/-- Puts a text at a path below nested objects. What is there already stays, and so does a text on
the way. -/
def nest (members : Entries Value) (value : String) : List String → Entries Value
  | [] => members
  | [last] => if members.contains last then members else members.insert last (.string value)
  | segment :: rest =>
    match members.get? segment with
    | none => members.insert segment (.object (nest [] value rest))
    | some (.object inner) => members.insert segment (.object (nest inner value rest))
    | some _ => members

/-- The settings as nested objects. Keys are put in ascending order, so a key comes before the
longer keys that start with it. -/
def toValue (settings : Settings) : Value :=
  .object (settings.toList.foldl
    (fun members entry => nest members entry.2 (Text.segments entry.1)) [])

end Settings

end Stencil
