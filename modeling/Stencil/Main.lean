import Stencil.CommandLine.Run
import Std.Time.DateTime.Timestamp

/-!
# The program

Gathers what a run depends on, runs it, and prints the outcome.
-/

set_option autoImplicit false

namespace Stencil.CommandLine

def faultOf : IO.Error → FileFault
  | .noFileOrDirectory .. => .notFound
  | .inappropriateType _ code _ => if code = 21 then .isDirectory else .notDirectory
  | error => .other (toString error)

def readFile (path : String) : IO (Except FileFault ByteArray) := do
  match ← (IO.FS.readBinFile path).toBaseIO with
  | .ok contents => return .ok contents
  | .error error => return .error (faultOf error)

def processEnvironment : IO Environment := do
  match ← readFile "/proc/self/environ" with
  | .ok block => return .ofBlock block
  | .error _ => return .empty

def currentDirectory : IO CurrentDirectory := do
  match ← IO.currentDir.toBaseIO with
  | .ok path => return .found path.toString
  | .error error => return .lost (faultOf error)

/-- Where an environment file is looked for: nowhere without a current directory. -/
def environmentFiles : CurrentDirectory → List String
  | .found path => EnvironmentFile.candidates path
  | .lost _ => []

def readFirst? : List String → IO (Option ByteArray)
  | [] => return none
  | path :: rest => do
    match ← readFile path with
    | .ok contents => return some contents
    | .error _ => readFirst? rest

def currentInstant : IO Instant := do
  let nanoseconds := (← Std.Time.Timestamp.now).toNanosecondsSinceUnixEpoch.toInt.toNat
  return ⟨nanoseconds / 1000000000, nanoseconds % 1000000000⟩

/-- Gathers the world of a run. Standard input is read only by an expansion that takes its template
from there. -/
def gather (arguments : List String) : IO World := do
  let directory ← currentDirectory
  let outside : World :=
    { environment := ← processEnvironment
      environmentFile := ← readFirst? (environmentFiles directory)
      files := .ofList []
      input := .empty
      directory
      instant := ← currentInstant }
  match Request.ofArguments outside.fullEnvironment arguments with
  | .expand options =>
    let contents ← (options.paths outside.fullEnvironment).mapM fun path => do
      return (path, ← readFile path)
    let input ← if options.input.isSome then pure .empty else readStandardInput
    return { outside with files := .ofList contents, input }
  | _ => return outside
where
  readStandardInput : IO ByteArray := do
    (← IO.getStdin).readBinToEnd

end Stencil.CommandLine

def main (arguments : List String) : IO UInt32 := do
  let world ← Stencil.CommandLine.gather arguments
  let outcome := Stencil.CommandLine.run world arguments
  let output ← IO.getStdout
  output.putStr outcome.output
  output.flush
  (← IO.getStderr).putStr outcome.errors
  return outcome.code.toUInt32
