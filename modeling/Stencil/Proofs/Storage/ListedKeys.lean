import Mathlib
import Stencil.Proofs.Storage.Replay

/-!
# Listed keys

A store lists its keys as the handles that set them have normalized them, and a handle normalizes
every key that it looks for. So a listed key is read by every handle that leaves it as it is. A
handle that ignores case finds no listed key with a capital in it; such a key was set through an
ordinal handle. The handles of one shared family are copies and compare keys alike, so this only
happens among the handles of a thread.
-/

set_option autoImplicit false

namespace Stencil

/-- A handle on a thread has a key, and finds this value under it. -/
def Handle.Reads (handle : Handle) (thread : String) (storage : Storage) (key : String)
    (value : Value) : Prop :=
  handle.contains thread storage key = true ∧ handle.get? thread storage key = some value

/-- A shared handle compares keys as its whole family does. A handle on the stores of the threads
may compare them either way. -/
def Handle.KeepsTo (families : Nat → KeyComparison) (handle : Handle) : Prop :=
  ∀ family, handle.backend = .shared family → handle.comparison = families family

namespace Storage

/-! ## Keys that are set -/

/-- The key that an operation sets. -/
def Operation.target? : Operation → Option String
  | .set key _ | .trySet key _ => some key
  | .get _ | .remove _ | .clear | .contains _ | .keys | .tryGet _ | .token .. => none

/-- The key that a request sets, as its handle normalizes it. -/
def Request.written? (request : Request) : Option String :=
  request.operation.target?.map (plainKey request.handle.comparison)

theorem plainKey_plainKey (comparison : KeyComparison) (key : String) :
    plainKey comparison (plainKey comparison key) = plainKey comparison key := by
  cases comparison with
  | ordinal => rfl
  | ignoreCase =>
    rw [← normalize_eq_plainKey, ← normalize_eq_plainKey]
    simp only [KeyComparison.normalize, Text.fold, String.toList_ofList, List.map_map]
    congr 2
    exact funext Char.toLower_toLower_eq_toLower

private theorem Request.plainKey_of_written? {request : Request} {key : String}
    (written : request.written? = some key) : plainKey request.handle.comparison key = key := by
  obtain ⟨target, -, rfl⟩ := Option.map_eq_some_iff.mp written
  exact plainKey_plainKey _ target

/-- What a map holds after a request was there before, or the request has set its key. -/
private theorem Request.effect_eq_some {request : Request} {map : PlainMap} {key : String}
    {value : Value}
    (held : request.effect map key = some value) :
    map key = some value ∨ request.written? = some key := by
  obtain ⟨thread, handle, operation⟩ := request
  cases operation with
  | set target given | trySet target given =>
    by_cases same : key = plainKey handle.comparison target
    · exact .inr (congrArg some same.symm)
    · refine .inl ?_
      rw [← held]
      exact (if_neg same).symm
  | remove target =>
    by_cases same : key = plainKey handle.comparison target
    · have erased : none = some value := (if_pos same).symm.trans held
      cases erased
    · refine .inl ?_
      rw [← held]
      exact (if_neg same).symm
  | clear => cases held
  | get | contains | keys | tryGet | token => exact .inl held

/-- Every key of a store was set by a request on the store. -/
private theorem exists_request_of_replayFrom {map : PlainMap} {store : Store}
    {requests : List Request}
    {key : String} {value : Value} (held : replayFrom map store requests key = some value) :
    map key = some value ∨
      ∃ request ∈ requests, request.store = store ∧ request.written? = some key := by
  -- The map is generalized, as the rest of the requests starts from what the first one leaves.
  induction requests generalizing map with
  | nil => exact .inl held
  | cons request rest ih =>
    rw [replayFrom_cons] at held
    obtain before | ⟨later, member, reached, written⟩ := ih held
    · by_cases reached : request.store = store
      · rw [if_pos reached] at before
        refine (request.effect_eq_some before).imp_right fun written => ?_
        exact ⟨request, List.mem_cons_self, reached, written⟩
      · rw [if_neg reached] at before
        exact .inl before
    · exact .inr ⟨later, List.mem_cons_of_mem request member, reached, written⟩

/-! ## Keys that are listed -/

section

variable {handle : Handle} {thread : String} {storage : Storage} {key : String}

theorem mem_keys_iff_exists_value :
    key ∈ handle.keys thread storage ↔
      ∃ value, (storage.read (handle.store thread)).get? key = some value :=
  Dictionary.mem_keys_iff_exists

/-- A handle has a key exactly when the key is listed as the handle normalizes it. -/
private theorem contains_iff_mem_keys :
    handle.contains thread storage key = true ↔
      plainKey handle.comparison key ∈ handle.keys thread storage := by
  rw [Handle.contains, Handle.get?, normalize_eq_plainKey, Option.isSome_iff_exists,
    mem_keys_iff_exists_value]

private theorem reads_of_plainKey {value : Value} (plain : plainKey handle.comparison key = key)
    (held : (storage.read (handle.store thread)).get? key = some value) :
    handle.Reads thread storage key value := by
  have found : handle.get? thread storage key = some value := by
    rw [Handle.get?, normalize_eq_plainKey, plain, held]
  exact ⟨Option.isSome_iff_exists.mpr ⟨value, found⟩, found⟩

end

/-- A key that a handle does not leave as it is was set by a handle that compares keys the other
way. -/
private theorem eq_of_plainKey_ne {handle : Handle} {request : Request} {key : String}
    (written : request.written? = some key) (altered : plainKey handle.comparison key ≠ key) :
    handle.comparison = .ignoreCase ∧ request.handle.comparison = .ordinal := by
  have plain := request.plainKey_of_written? written
  cases compares : handle.comparison with
  | ordinal =>
    rw [compares] at altered
    exact absurd rfl altered
  | ignoreCase =>
    refine ⟨rfl, ?_⟩
    cases sets : request.handle.comparison with
    | ordinal => rfl
    | ignoreCase =>
      rw [sets] at plain
      rw [compares] at altered
      exact absurd plain altered

private theorem store_eq_shared_iff {handle : Handle} {thread : String} {family : Nat} :
    handle.store thread = .shared family ↔ handle.backend = .shared family := by
  rw [Handle.store]
  cases handle.backend with
  | shared other => simp only [Store.shared.injEq, Backend.shared.injEq]
  | thread => exact ⟨nofun, nofun⟩

/-- Handles of one shared family compare keys alike. -/
private theorem comparison_eq_of_keepsTo {families : Nat → KeyComparison} {handle other : Handle}
    {thread place : String} (keeps : handle.KeepsTo families) (otherKeeps : other.KeepsTo families)
    (shared : handle.backend ≠ .thread) (reached : other.store place = handle.store thread) :
    other.comparison = handle.comparison := by
  cases backend : handle.backend with
  | thread => exact absurd backend shared
  | shared family =>
    rw [store_eq_shared_iff.mpr backend, store_eq_shared_iff] at reached
    rw [keeps family backend, otherKeeps family reached]

/-! ## Runs -/

/-- After any requests through any handles, a handle has a key exactly when it is listed as the
handle normalizes it. Every listed key is read with its value, unless the handle ignores case and
the key has capitals that an ordinal handle has put there. Among shared handles that never happens,
because those that reach one store compare keys alike. -/
theorem listed_keys_read (surroundings : Surroundings) (requests : List Request) (handle : Handle)
    (thread : String) :
    let storage := (run requests (surroundings.withStorage .empty)).2.storage
    let stored := replay (handle.store thread) requests
    (∀ key, handle.get? thread storage key = stored (plainKey handle.comparison key)) ∧
    (∀ key, handle.contains thread storage key = true ↔
      plainKey handle.comparison key ∈ handle.keys thread storage) ∧
    (∀ key ∈ handle.keys thread storage, ∃ value, stored key = some value ∧
      (handle.Reads thread storage key value ∨
        plainKey handle.comparison key ≠ key ∧ handle.comparison = .ignoreCase ∧
          ∃ request ∈ requests, request.store = handle.store thread ∧
            request.handle.comparison = .ordinal ∧ request.written? = some key)) ∧
    ∀ families : Nat → KeyComparison, (∀ request ∈ requests, request.handle.KeepsTo families) →
      handle.KeepsTo families → handle.backend ≠ .thread →
        ∀ key ∈ handle.keys thread storage, ∃ value, stored key = some value ∧
          handle.Reads thread storage key value := by
  intro storage stored
  have sound : (surroundings.withStorage .empty).storage.poisoned = [] := rfl
  have holds : (storage.read (handle.store thread)).get? = stored :=
    get?_read_run sound (handle.store thread) requests
  have listed : ∀ key ∈ handle.keys thread storage, ∃ value, stored key = some value ∧
      (handle.Reads thread storage key value ∨
        plainKey handle.comparison key ≠ key ∧ handle.comparison = .ignoreCase ∧
          ∃ request ∈ requests, request.store = handle.store thread ∧
            request.handle.comparison = .ordinal ∧ request.written? = some key) := by
    intro key member
    obtain ⟨value, held⟩ := mem_keys_iff_exists_value.mp member
    refine ⟨value, holds ▸ held, ?_⟩
    by_cases plain : plainKey handle.comparison key = key
    · exact .inl (reads_of_plainKey plain held)
    · rw [holds] at held
      obtain before | ⟨request, among, reached, written⟩ := exists_request_of_replayFrom held
      · cases before
      · obtain ⟨ignores, ordinal⟩ := eq_of_plainKey_ne written plain
        exact .inr ⟨plain, ignores, request, among, reached, ordinal, written⟩
  refine ⟨?_, fun key => contains_iff_mem_keys, listed, ?_⟩
  · intro key
    rw [Handle.get?, normalize_eq_plainKey, holds]
  · intro families keep keeps shared key member
    obtain ⟨value, held, reads | ⟨-, ignores, request, among, reached, ordinal, -⟩⟩ :=
      listed key member
    · exact ⟨value, held, reads⟩
    · have alike := comparison_eq_of_keepsTo keeps (keep request among) shared reached
      rw [ordinal, ignores] at alike
      cases alike

/-- Surroundings without variables and without stored values. -/
def bareSurroundings : Surroundings where
  environment := .empty
  storage := .empty
  thread := "main"
  directory := "/"
  instant := ⟨0, 0⟩

/-- A key that two clones of a handle spell differently is listed once, and read with the value that
was set last. -/
theorem listed_keys_read_clones :
    let handle : Handle := ⟨.shared 0, .ignoreCase⟩
    let requests : List Request :=
      [⟨"main", handle, .set "Tenant" (.integer 1)⟩, ⟨"other", handle, .set "TENANT" (.integer 2)⟩,
        ⟨"main", ⟨.thread, .ordinal⟩, .set "User" .null⟩]
    let storage := (run requests (bareSurroundings.withStorage .empty)).2.storage
    "tenant" ∈ handle.keys "main" storage ∧
      ∃ value, replay (handle.store "main") requests "tenant" = some value ∧
        handle.Reads "main" storage "tenant" value := by
  intro handle requests storage
  have listed : "tenant" ∈ handle.keys "main" storage := by decide
  have keep : ∀ request ∈ requests, request.handle.KeepsTo fun _ => .ignoreCase := by
    intro request member family shared
    simp only [requests, List.mem_cons, List.not_mem_nil, or_false] at member
    obtain rfl | rfl | rfl := member
    · rfl
    · rfl
    · cases shared
  refine ⟨listed, ?_⟩
  exact (listed_keys_read bareSurroundings requests handle "main").2.2.2 (fun _ => .ignoreCase)
    keep (fun _ _ => rfl) nofun "tenant" listed

/-- A handle that ignores case lists a key that an ordinal handle has set on the same thread, and
does not have it. -/
theorem not_forall_contains_of_listed :
    ¬ ∀ (surroundings : Surroundings) (requests : List Request) (handle : Handle)
      (thread key : String),
      key ∈ handle.keys thread (run requests (surroundings.withStorage .empty)).2.storage →
        handle.contains thread (run requests (surroundings.withStorage .empty)).2.storage key =
          true := by
  intro reads
  have found := reads bareSurroundings [⟨"main", ⟨.thread, .ordinal⟩, .set "Tenant" (.integer 1)⟩]
    ⟨.thread, .ignoreCase⟩ "main" "Tenant" (by decide)
  exact absurd found (by decide)

end Storage

end Stencil
