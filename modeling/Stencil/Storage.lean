import Stencil.Dictionary
import Stencil.Text.Case
import Stencil.Value.Basic

/-!
# Contextual storage

Values kept under text keys in separate stores: one store for each family of shared handles, and one
for each thread. A handle decides which store an operation reaches and how its key is compared; the
stores themselves never influence one another.
-/

set_option autoImplicit false

namespace Stencil

inductive KeyComparison where
  | ordinal
  /-- Keys that differ in the case of ASCII letters only are one key. -/
  | ignoreCase
deriving DecidableEq, Repr

def KeyComparison.normalize : KeyComparison → String → String
  | ordinal, key => key
  | ignoreCase, key => Text.fold key

inductive Store where
  | shared (family : Nat)
  | thread (name : String)
deriving DecidableEq, Repr

/-- The contents of the stores, and the families whose lock is poisoned because a thread ended while
it was writing there. A poisoned family keeps its values. -/
structure Storage where
  contents : List (Store × Dictionary Value)
  poisoned : List Nat

inductive StorageError where
  | poisoned
deriving DecidableEq, Repr

def StorageError.message : StorageError → String
  | poisoned => "Contextual storage lock poisoned"

namespace Storage

def empty : Storage := ⟨[], []⟩

instance : Inhabited Storage := ⟨empty⟩

def read (storage : Storage) (store : Store) : Dictionary Value :=
  (storage.contents.lookup store).getD .empty

def write (storage : Storage) (store : Store) (contents : Dictionary Value) : Storage :=
  { storage with
    contents := (store, contents) :: storage.contents.filter fun entry => entry.1 ≠ store }

end Storage

inductive Backend where
  | shared (family : Nat)
  | thread
deriving DecidableEq, Repr

/-- A handle on storage. Copies of a shared handle have its family. -/
structure Handle where
  backend : Backend
  comparison : KeyComparison
deriving DecidableEq, Repr

namespace Handle

def store (handle : Handle) (thread : String) : Store :=
  match handle.backend with
  | .shared family => .shared family
  | .thread => .thread thread

def get? (handle : Handle) (thread : String) (storage : Storage) (key : String) : Option Value :=
  (storage.read (handle.store thread)).get? (handle.comparison.normalize key)

def set (handle : Handle) (thread : String) (storage : Storage) (key : String) (value : Value) :
    Storage :=
  let store := handle.store thread
  storage.write store ((storage.read store).insert (handle.comparison.normalize key) value)

def remove (handle : Handle) (thread : String) (storage : Storage) (key : String) :
    Option Value × Storage :=
  let store := handle.store thread
  (handle.get? thread storage key,
    storage.write store ((storage.read store).erase (handle.comparison.normalize key)))

def clear (handle : Handle) (thread : String) (storage : Storage) : Storage :=
  storage.write (handle.store thread) .empty

def contains (handle : Handle) (thread : String) (storage : Storage) (key : String) : Bool :=
  (handle.get? thread storage key).isSome

/-- All keys of the store, as they were normalized when written, in ascending order. -/
def keys (handle : Handle) (thread : String) (storage : Storage) : List String :=
  (storage.read (handle.store thread)).keys

/-! ### Operations that report a poisoned lock -/

/-- A thread's own store has no lock. -/
def isPoisoned (handle : Handle) (storage : Storage) : Bool :=
  match handle.backend with
  | .shared family => storage.poisoned.contains family
  | .thread => false

def tryGet? (handle : Handle) (thread : String) (storage : Storage) (key : String) :
    Except StorageError (Option Value) :=
  if handle.isPoisoned storage then .error .poisoned else .ok (handle.get? thread storage key)

def trySet (handle : Handle) (thread : String) (storage : Storage) (key : String) (value : Value) :
    Except StorageError Storage :=
  if handle.isPoisoned storage then .error .poisoned
  else .ok (handle.set thread storage key value)

end Handle

end Stencil
