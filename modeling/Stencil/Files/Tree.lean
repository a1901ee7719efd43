import Stencil.Files
import Stencil.Text.Dotted

/-!
# Trees of files

The files below the current directory, given by their paths, answer for every path that stays below
it. Directories are the ones that the files are in.
-/

set_option autoImplicit false

namespace Stencil

structure FileTree where
  files : List (List String × ByteArray)

namespace FileTree

inductive Place where
  | file (contents : ByteArray)
  | directory
  | nothing

def names (path : String) : List String :=
  ((Text.splitAt '/' path.toList).map String.ofList).filter fun name =>
    !name.isEmpty && name ≠ "."

def ofList (files : List (String × ByteArray)) : FileTree :=
  ⟨files.map fun file => (names file.1, file.2)⟩

def placeOf (tree : FileTree) (names : List String) : Place :=
  match tree.files.find? fun file => file.1 = names with
  | some file => .file file.2
  | none =>
    if names.isEmpty || tree.files.any (fun file => names.isPrefixOf file.1) then .directory
    else .nothing

/-- Goes from the directory at `place` through names; two dots lead to the directory around it. -/
def follow (tree : FileTree) (place : List String) : List String → Except FileFault (List String)
  | [] => .ok place
  | name :: rest =>
    match tree.placeOf place with
    | .nothing => .error .notFound
    | .file _ => .error .notDirectory
    | .directory =>
      if name = ".." then
        if place.isEmpty then .error .notFound else tree.follow place.dropLast rest
      else if 255 < name.utf8ByteSize then .error (.other "File name too long (os error 36)")
      else tree.follow (place ++ [name]) rest

/-- What reading a path gives. A path that ends in a slash or a dot leads to a directory or
nowhere. -/
def read (tree : FileTree) (path : String) : Except FileFault ByteArray :=
  if path.toList.contains '\x00' then
    .error (.other "file name contained an unexpected NUL byte")
  else if path.isEmpty || path.startsWith "/" then .error .notFound
  else
    match tree.follow [] (names path) with
    | .error fault => .error fault
    | .ok place =>
      match tree.placeOf place with
      | .nothing => .error .notFound
      | .directory => .error .isDirectory
      | .file contents =>
        if path.endsWith "/" || path.endsWith "/." then .error .notDirectory else .ok contents

def toFiles (tree : FileTree) : Files := ⟨tree.read⟩

end FileTree

end Stencil
