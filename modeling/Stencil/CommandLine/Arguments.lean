import Stencil.Environment
import Stencil.Settings.Basic

/-!
# Command line arguments

The one command is `expand`. Its options take a value in the next argument or attached to them, and
no option may be given twice. Arguments are read from left to right, and the first that asks for
help or for the version ends the reading.
-/

set_option autoImplicit false

namespace Stencil.CommandLine

inductive PathOption where
  | config
  | settings
  | input
deriving DecidableEq, Repr

inductive Flag where
  | strict
  | showTokens
deriving DecidableEq, Repr

inductive OptionName where
  | path (option : PathOption)
  | flag (flag : Flag)
  | help
deriving DecidableEq, Repr

def ofLongName? : String → Option OptionName
  | "config" => some (.path .config)
  | "settings" => some (.path .settings)
  | "input" => some (.path .input)
  | "strict" => some (.flag .strict)
  | "show-tokens" => some (.flag .showTokens)
  | "help" => some .help
  | _ => none

def ofLetter? : Char → Option OptionName
  | 'c' => some (.path .config)
  | 's' => some (.path .settings)
  | 'i' => some (.path .input)
  | 'h' => some .help
  | _ => none

structure Given where
  paths : List (PathOption × String)
  flags : List Flag

structure ExpandOptions where
  config : String
  settings : Option String
  input : Option String
  strict : Bool
  showTokens : Bool
deriving DecidableEq, Repr

inductive Request where
  | expand (options : ExpandOptions)
  | help
  | version
  | misuse
deriving DecidableEq, Repr

/-- Adds a path option. Neither an empty path nor a second one is taken. -/
def Given.addPath? (given : Given) (option : PathOption) (path : String) : Option Given :=
  if path.isEmpty || (given.paths.lookup option).isSome then none
  else some { given with paths := (option, path) :: given.paths }

def Given.addFlag? (given : Given) (flag : Flag) : Option Given :=
  if given.flags.contains flag then none
  else some { given with flags := flag :: given.flags }

def splitLong (text : List Char) : String × Option String :=
  let name := text.takeWhile (· ≠ '=')
  match text.dropWhile (· ≠ '=') with
  | [] => (String.ofList name, none)
  | _ :: value => (String.ofList name, some (String.ofList value))

inductive Argument where
  | endOfOptions
  | option (name : OptionName) (attached : Option String)
  | unknown
  | operand (text : String)

/-- Classifies an argument. The value of a letter may be attached with or without an equals sign;
whatever is attached to the letter for help does not matter. -/
def Argument.ofText (text : String) : Argument :=
  match text.toList with
  | ['-', '-'] => endOfOptions
  | '-' :: '-' :: long =>
    let (name, attached) := splitLong long
    match ofLongName? name with
    | some known => .option known attached
    | none => unknown
  | '-' :: letter :: attached =>
    match ofLetter? letter, attached with
    | some .help, _ => .option .help none
    | some known, [] => .option known none
    | some known, '=' :: value => .option known (some (String.ofList value))
    | some known, value => .option known (some (String.ofList value))
    | none, _ => unknown
  | _ => operand text

inductive Reading where
  | given (given : Given)
  | help
  | misuse

/-- Reads the options of an expansion. `waiting` is the option that has no value yet. -/
def readOptions (given : Given) (waiting : Option PathOption) : List String → Reading
  | [] => if waiting.isSome then .misuse else .given given
  | text :: rest =>
    match waiting, Argument.ofText text with
    | some option, .operand value =>
      match given.addPath? option value with
      | some given => readOptions given none rest
      | none => .misuse
    | some _, _ => .misuse
    | none, .endOfOptions => if rest.isEmpty then .given given else .misuse
    | none, .option (.path option) none => readOptions given (some option) rest
    | none, .option (.path option) (some value) =>
      match given.addPath? option value with
      | some given => readOptions given none rest
      | none => .misuse
    | none, .option (.flag flag) none =>
      match given.addFlag? flag with
      | some given => readOptions given none rest
      | none => .misuse
    | none, .option .help none => .help
    | none, _ => .misuse

/-- The path that a variable names. One that is not text stands as the replacement character: it is
never used, because an environment with such a variable ends every expansion. -/
def configVariable? (environment : Environment) : Option String :=
  (environment.get? Settings.tokensVariable).map fun path =>
    (String.fromUTF8? path).getD "\uFFFD"

def expandRequest (environment : Environment) (arguments : List String) : Request :=
  match readOptions ⟨[], []⟩ none arguments with
  | .misuse => .misuse
  | .help => .help
  | .given given =>
    match (given.paths.lookup .config).or (configVariable? environment) with
    | none => .misuse
    | some config =>
      if config.isEmpty then .misuse
      else
        .expand
          { config
            settings := given.paths.lookup .settings
            input := given.paths.lookup .input
            strict := given.flags.contains .strict
            showTokens := given.flags.contains .showTokens }

def Request.ofArguments (environment : Environment) : List String → Request
  | [] => .misuse
  | "expand" :: rest => expandRequest environment rest
  | "help" :: rest =>
    if rest.isEmpty || rest = ["expand"] || rest = ["help"] then .help else .misuse
  | "--help" :: _ => .help
  | "--version" :: _ => .version
  | first :: _ =>
    match first.toList with
    | '-' :: 'h' :: _ => .help
    | '-' :: 'V' :: _ => .version
    | _ => .misuse

end Stencil.CommandLine
