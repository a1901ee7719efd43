/-!
# Files

What reading a file gives.
-/

set_option autoImplicit false

namespace Stencil

inductive FileFault where
  | notFound
  | isDirectory
  | notDirectory
  | notUnicode
  | other (text : String)
deriving DecidableEq, Repr

def FileFault.message : FileFault → String
  | notFound => "No such file or directory (os error 2)"
  | isDirectory => "Is a directory (os error 21)"
  | notDirectory => "Not a directory (os error 20)"
  | notUnicode => "stream did not contain valid UTF-8"
  | other text => text

structure Files where
  read : String → Except FileFault ByteArray

namespace Files

/-- The answers of a list of paths that were read; nothing is at any other path. -/
def ofList (contents : List (String × Except FileFault ByteArray)) : Files :=
  ⟨fun path => (contents.lookup path).getD (.error .notFound)⟩

/-- Whether a path leads to something, be it a directory or a file that cannot be read. -/
def hasPath (files : Files) (path : String) : Bool :=
  match files.read path with
  | .error .notFound => false
  | .error .notDirectory => false
  | _ => true

def readText (files : Files) (path : String) : Except FileFault String :=
  match files.read path with
  | .error fault => .error fault
  | .ok bytes =>
    match String.fromUTF8? bytes with
    | some text => .ok text
    | none => .error .notUnicode

end Files

end Stencil
