import Stencil.Member.Registry

/-!
# Builtin members

The clock, the current directory and the environment as members. They are read when a token is
expanded, never earlier.
-/

set_option autoImplicit false

namespace Stencil

namespace Member

variable {σ : Type} [Situated σ]

def ofSurroundings (read : Surroundings → Except Cause Value) : Member σ :=
  property fun state => (read (Situated.surroundings state), state)

def today : Member σ :=
  ofSurroundings fun surroundings => .ok (.string surroundings.instant.date)

def utcNow : Member σ :=
  ofSurroundings fun surroundings => .ok (.string surroundings.instant.timestamp)

def currentDirectory : Member σ :=
  ofSurroundings fun surroundings =>
    match surroundings.directory with
    | .found path => .ok (.string path)
    | .lost fault => .error (.fileFault fault)

/-- The name of the machine: the first of two variables that can be read, else the empty text. -/
def machineName : Member σ :=
  ofSurroundings fun surroundings =>
    let environment := surroundings.environment
    .ok (.string (((environment.text? "HOSTNAME").or (environment.text? "COMPUTERNAME")).getD ""))

def environmentVariable : Member σ :=
  method [.string] fun arguments state =>
    let name :=
      match arguments with
      | .string name :: _ => name
      | _ => ""
    let text? := (Situated.surroundings state).environment.text? name
    (.ok ((text?.map Value.string).getD .null), state)

end Member

namespace Registry

def builtin {σ : Type} [Situated σ] : Registry σ :=
  empty
    |>.register "DateTime" "Today" Member.today
    |>.register "DateTime" "UtcNow" Member.utcNow
    |>.register "Environment" "CurrentDirectory" Member.currentDirectory
    |>.register "Environment" "MachineName" Member.machineName
    |>.register "Environment" "GetEnvironmentVariable" Member.environmentVariable

end Registry

end Stencil
