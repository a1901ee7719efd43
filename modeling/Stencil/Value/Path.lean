import Stencil.Value.Basic
import Stencil.Number.Integer
import Stencil.Text.Dotted

/-!
# Paths into values

A path is a list of segments. A segment names a member of an object by its key or an item of an
array by its position. Reading walks the whole path; writing walks to the parent of the last
segment and sets that one member there. Both blame the first segment that leads nowhere.
-/

set_option autoImplicit false

namespace Stencil

structure PathError where
  segment : String
  path : List String
deriving DecidableEq, Repr

def PathError.message (error : PathError) : String :=
  "'" ++ error.segment ++ "' not found in '" ++ Text.dotted error.path ++ "'"

namespace Value

def position? (size : Nat) (name : String) : Option Nat :=
  match Number.readInteger .position name with
  | .ok index => if index.toNat < size then some index.toNat else none
  | .error _ => none

def child? (value : Value) (name : String) : Option Value :=
  match value with
  | object members => Entries.get? members name
  | array items => (position? items.length name).bind (items[·]?)
  | _ => none

/-- The value with the member under a name set. An object takes any name but the empty one, an
array only the positions it has, and nothing else has members. -/
def withChild? (value : Value) (name : String) (child : Value) : Option Value :=
  match value with
  | object members =>
    if name.isEmpty then none else some (object (Entries.insert members name child))
  | array items => (position? items.length name).map fun index => array (items.set index child)
  | _ => none

/-- The value with an existing member exchanged, and the value itself where there is none. -/
def exchangeChild (value : Value) (name : String) (child : Value) : Value :=
  match value with
  | object members => object (Entries.replace members name child)
  | array items =>
    match position? items.length name with
    | some index => array (items.set index child)
    | none => value
  | _ => value

def walk (value : Value) : List String → Except String Value
  | [] => .ok value
  | segment :: rest =>
    match value.child? segment with
    | some child => child.walk rest
    | none => .error segment

theorem walk_cons_of_child? {value child : Value} {segment : String}
    (found : value.child? segment = some child) (rest : List String) :
    value.walk (segment :: rest) = child.walk rest := by
  rw [walk, found]

theorem walk_cons_of_no_child {value : Value} {segment : String}
    (absent : value.child? segment = none) (rest : List String) :
    value.walk (segment :: rest) = .error segment := by
  rw [walk, absent]

/-- Sets the member at the end of a path, or gives the first segment that leads nowhere. The empty
path has no such member. -/
def assign (value : Value) (new : Value) : List String → Except String Value
  | [] => .error ""
  | [last] =>
    match value.withChild? last new with
    | some changed => .ok changed
    | none => .error last
  | segment :: rest =>
    match value.child? segment with
    | some child => (child.assign new rest).map (value.exchangeChild segment)
    | none => .error segment

def resolvePath (root : Value) (path : List String) : Except PathError Value :=
  (root.walk path).mapError (PathError.mk · path)

def assignPath (root : Value) (path : List String) (new : Value) : Except PathError Value :=
  (root.assign new path).mapError (PathError.mk · path)

end Value

end Stencil
