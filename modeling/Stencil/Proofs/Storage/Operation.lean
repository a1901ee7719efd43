import Stencil.Strategy.Basic

/-!
# Storage operations

Everything that a handle can be asked for, as data, and runs of such requests from any threads. A
request answers from the store that its handle reaches on its thread (`Request.answer_perform`), and
changes nothing else of the storage (`Request.read_perform`).
-/

set_option autoImplicit false

namespace Stencil.Storage

inductive Operation where
  | get (key : String)
  | set (key : String) (value : Value)
  | remove (key : String)
  | clear
  | contains (key : String)
  | keys
  | tryGet (key : String)
  | trySet (key : String) (value : Value)
  /-- Evaluates the strategy that gives a stored value. -/
  | token (key : String) (arguments : Arguments)

inductive Answer where
  | found (value? : Option Value)
  | done
  | holds (present : Bool)
  | listed (keys : List String)
  | evaluated (result : Except StrategyError Value)
  | refused (error : StorageError)

/-- An operation through a handle, on a thread. -/
structure Request where
  thread : String
  handle : Handle
  operation : Operation

end Stencil.Storage

namespace Stencil.Surroundings

def onThread (surroundings : Surroundings) (thread : String) : Surroundings :=
  { surroundings with thread }

def withStorage (surroundings : Surroundings) (storage : Storage) : Surroundings :=
  { surroundings with storage }

end Stencil.Surroundings

namespace Stencil.Storage

/-! ## Performing requests -/

namespace Request

def store (request : Request) : Store :=
  request.handle.store request.thread

def perform (request : Request) (surroundings : Surroundings) : Answer × Surroundings :=
  let here := surroundings.onThread request.thread
  let handle := request.handle
  match request.operation with
  | .get key => (.found (handle.get? here.thread here.storage key), here)
  | .set key value => (.done, here.withStorage (handle.set here.thread here.storage key value))
  | .remove key =>
    let (removed, next) := handle.remove here.thread here.storage key
    (.found removed, here.withStorage next)
  | .clear => (.done, here.withStorage (handle.clear here.thread here.storage))
  | .contains key => (.holds (handle.contains here.thread here.storage key), here)
  | .keys => (.listed (handle.keys here.thread here.storage), here)
  | .tryGet key =>
    match handle.tryGet? here.thread here.storage key with
    | .ok found => (.found found, here)
    | .error error => (.refused error, here)
  | .trySet key value =>
    match handle.trySet here.thread here.storage key value with
    | .ok next => (.done, here.withStorage next)
    | .error error => (.refused error, here)
  | .token key arguments =>
    let (result, next) := (Strategy.storedValue handle key).evaluate arguments here
    (.evaluated result, next)

end Request

def run : List Request → Surroundings → List Answer × Surroundings
  | [], surroundings => ([], surroundings)
  | request :: rest, surroundings =>
    let (answer, next) := request.perform surroundings
    let (answers, last) := run rest next
    (answer :: answers, last)

/-! ## Stores are separate -/

theorem read_write (storage : Storage) (store other : Store) (contents : Dictionary Value) :
    (storage.write store contents).read other =
      if other = store then contents else storage.read other := by
  by_cases same : other = store
  · subst same
    simp only [read, write, List.lookup_cons_self, Option.getD_some, if_true]
  · have kept : (storage.contents.filter fun entry => entry.1 ≠ store).lookup other =
        storage.contents.lookup other := by
      induction storage.contents with
      | nil => rfl
      | cons entry rest ih =>
        obtain ⟨candidate, inside⟩ := entry
        by_cases dropped : candidate = store
        · subst dropped
          simp only [ne_eq, not_true_eq_false, decide_false, Bool.false_eq_true,
            not_false_eq_true, List.filter_cons_of_neg, ih, List.lookup_cons,
            beq_eq_false_iff_ne.mpr same]
        · simp only [ne_eq, dropped, not_false_eq_true, decide_true, List.filter_cons_of_pos,
            List.lookup_cons, ih]
    simp only [read, write, List.lookup_cons, beq_eq_false_iff_ne.mpr same, kept, if_neg same]

theorem isPoisoned_of_sound {storage : Storage} (sound : storage.poisoned = []) (handle : Handle) :
    handle.isPoisoned storage = false := by
  unfold Handle.isPoisoned
  split
  · rw [sound]
    rfl
  · rfl

/-! ## Requests on one store -/

/-- The outcome of looking for a stored value. -/
def storedResult (key : String) : Option Value → Except StrategyError Value
  | some value => .ok value
  | none => .error (.contextual (.noContextualValue key))

theorem evaluate_storedValue {σ : Type} [Situated σ] (handle : Handle) (key : String)
    (arguments : Arguments) (state : σ) :
    (Strategy.storedValue handle key).evaluate arguments state =
      (storedResult key (handle.get? (Situated.surroundings state).thread
        (Situated.surroundings state).storage key), state) := by
  simp only [Strategy.storedValue, Strategy.contextual]
  cases handle.get? (Situated.surroundings state).thread (Situated.surroundings state).storage key
    <;> rfl

/-- What an operation answers from the contents of the store, and what it makes of them. -/
def Operation.act (comparison : KeyComparison) (contents : Dictionary Value) :
    Operation → Answer × Dictionary Value
  | .get key | .tryGet key => (.found (contents.get? (comparison.normalize key)), contents)
  | .set key value | .trySet key value =>
    (.done, contents.insert (comparison.normalize key) value)
  | .remove key =>
    (.found (contents.get? (comparison.normalize key)),
      contents.erase (comparison.normalize key))
  | .clear => (.done, .empty)
  | .contains key => (.holds (contents.get? (comparison.normalize key)).isSome, contents)
  | .keys => (.listed contents.keys, contents)
  | .token key _ =>
    (.evaluated (storedResult key (contents.get? (comparison.normalize key))), contents)

namespace Request

/-- What a request does when it finds these contents in its store. -/
def act (request : Request) (contents : Dictionary Value) : Answer × Dictionary Value :=
  request.operation.act request.handle.comparison contents

/-- No operation poisons a lock. -/
theorem poisoned_perform (request : Request) (surroundings : Surroundings) :
    (request.perform surroundings).2.storage.poisoned = surroundings.storage.poisoned := by
  obtain ⟨thread, handle, operation⟩ := request
  cases operation with
  | tryGet key =>
    simp only [perform, Handle.tryGet?]
    split <;> rfl
  | trySet key value =>
    simp only [perform, Handle.trySet]
    cases handle.isPoisoned _ <;> rfl
  | token key arguments => simp only [perform, evaluate_storedValue]; rfl
  | get | set | remove | clear | contains | keys => rfl

variable {surroundings : Surroundings} (sound : surroundings.storage.poisoned = [])

include sound

theorem answer_perform (request : Request) :
    (request.perform surroundings).1 =
      (request.act (surroundings.storage.read request.store)).1 := by
  obtain ⟨thread, handle, operation⟩ := request
  have free := isPoisoned_of_sound sound handle
  cases operation with
  | tryGet key => simp only [perform, Handle.tryGet?, Surroundings.onThread, free]; rfl
  | trySet key value => simp only [perform, Handle.trySet, Surroundings.onThread, free]; rfl
  | token key arguments => simp only [perform, evaluate_storedValue]; rfl
  | get | set | remove | clear | contains | keys => rfl

theorem read_perform (request : Request) (store : Store) :
    (request.perform surroundings).2.storage.read store =
      if store = request.store then (request.act (surroundings.storage.read request.store)).2
      else surroundings.storage.read store := by
  obtain ⟨thread, handle, operation⟩ := request
  have free := isPoisoned_of_sound sound handle
  have unchanged : surroundings.storage.read store =
      if store = handle.store thread then surroundings.storage.read (handle.store thread)
      else surroundings.storage.read store := by
    split
    case isTrue same => rw [same]
    case isFalse => rfl
  have written := read_write surroundings.storage (handle.store thread) store
  cases operation with
  | get key | contains key | keys => exact unchanged
  | set key value | remove key | clear => exact written _
  | tryGet key =>
    simp only [perform, Handle.tryGet?, Surroundings.onThread, free]
    exact unchanged
  | trySet key value =>
    simp only [perform, Handle.trySet, Surroundings.onThread, free]
    exact written _
  | token key arguments =>
    simp only [perform, evaluate_storedValue]
    exact unchanged

end Request

end Stencil.Storage
