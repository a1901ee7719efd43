import Stencil.Proofs.Storage.Operation
import Stencil.Proofs.Text.LetterCase

/-!
# Stores are plain maps

Each store behaves as a map of its own from normalized keys to values. What a request is answered
follows from the earlier requests on the same store alone, whatever handles and threads they came
through and whatever happened to the other stores in between.
-/

set_option autoImplicit false

namespace Stencil.Storage

/-! ## Plain maps -/

abbrev PlainMap := String → Option Value

def lowered (character : Char) : Char :=
  if 'A' ≤ character ∧ character ≤ 'Z' then Char.ofNat (character.toNat + 32) else character

/-- What a comparison makes of a key: nothing, or small letters of the ASCII capitals. -/
def plainKey : KeyComparison → String → String
  | .ordinal, key => key
  | .ignoreCase, key => String.ofList (key.toList.map lowered)

namespace Operation

/-- What an operation makes of a map, its keys being normalized by `normal`. -/
def effect (normal : String → String) (map : PlainMap) : Operation → PlainMap
  | .set key value | .trySet key value =>
    fun sought => if sought = normal key then some value else map sought
  | .remove key => fun sought => if sought = normal key then none else map sought
  | .clear => fun _ => none
  | .get _ | .contains _ | .keys | .tryGet _ | .token .. => map

/-- The right answer of an operation that finds a map. -/
def Answered (normal : String → String) (map : PlainMap) : Operation → Answer → Prop
  | .get key, answer | .tryGet key, answer | .remove key, answer =>
    answer = .found (map (normal key))
  | .set .., answer | .trySet .., answer | .clear, answer => answer = .done
  | .contains key, answer => answer = .holds (map (normal key)).isSome
  | .keys, answer =>
    ∃ names : List String, answer = .listed names ∧ names.Pairwise (· < ·) ∧
      ∀ name, name ∈ names ↔ (map name).isSome = true
  | .token key _, answer =>
    answer = .evaluated (match map (normal key) with
      | some value => .ok value
      | none => .error (.contextual (.noContextualValue key)))

/-- The operation that does not report a poisoned lock. -/
def plain : Operation → Operation
  | .tryGet key => .get key
  | .trySet key value => .set key value
  | other => other

end Operation

namespace Request

def effect (map : PlainMap) (request : Request) : PlainMap :=
  request.operation.effect (plainKey request.handle.comparison) map

def Answered (request : Request) (map : PlainMap) (answer : Answer) : Prop :=
  request.operation.Answered (plainKey request.handle.comparison) map answer

def plain (request : Request) : Request :=
  { request with operation := request.operation.plain }

end Request

/-- What the requests on one store make of a map; those on other stores are left out. -/
def replayFrom (map : PlainMap) (store : Store) (requests : List Request) : PlainMap :=
  (requests.filter fun request => request.store = store).foldl Request.effect map

def replay (store : Store) (requests : List Request) : PlainMap :=
  replayFrom (fun _ => none) store requests

/-- The answers to the requests on one store. -/
def answersOn (store : Store) (requests : List Request) (answers : List Answer) : List Answer :=
  ((requests.zip answers).filter fun entry => entry.1.store = store).map Prod.snd

/-! ## One request -/

private theorem toLower_eq_lowered (character : Char) : character.toLower = lowered character := by
  apply Char.toNat_inj.mp
  rw [Text.toNat_toLower, lowered]
  split
  case isTrue ascii =>
    have bound : character.toNat ≤ 90 := ascii.2
    have valid : (character.toNat + 32).isValidChar := Or.inl (by omega)
    rw [Char.ofNat, dif_pos valid]
    rfl
  case isFalse => rfl

theorem normalize_eq_plainKey (comparison : KeyComparison) (key : String) :
    comparison.normalize key = plainKey comparison key := by
  cases comparison with
  | ordinal => rfl
  | ignoreCase =>
    have same : Char.toLower = lowered := funext toLower_eq_lowered
    simp only [KeyComparison.normalize, Text.fold, plainKey, same]

private theorem get?_act (request : Request) (contents : Dictionary Value) :
    (request.act contents).2.get? = request.effect contents.get? := by
  obtain ⟨thread, handle, operation⟩ := request
  funext sought
  cases operation with
  | set key value | trySet key value =>
    simp only [Request.act, Operation.act, Dictionary.get?_insert, normalize_eq_plainKey,
      Request.effect, Operation.effect]
  | remove key =>
    simp only [Request.act, Operation.act, Dictionary.get?_erase, normalize_eq_plainKey,
      Request.effect, Operation.effect]
  | clear => rfl
  | get | contains | keys | tryGet | token => rfl

private theorem answered_act (request : Request) (contents : Dictionary Value) :
    request.Answered contents.get? (request.act contents).1 := by
  obtain ⟨thread, handle, operation⟩ := request
  cases operation with
  | get key | tryGet key | remove key | contains key =>
    simp only [Request.Answered, Operation.Answered, Request.act, Operation.act,
      normalize_eq_plainKey]
  | token key arguments =>
    simp only [Request.Answered, Request.act, Operation.act, normalize_eq_plainKey]
    rfl
  | set | trySet | clear => rfl
  | keys => exact ⟨contents.keys, rfl, contents.ascending, fun name => Dictionary.mem_keys_iff⟩

private theorem perform_plain {surroundings : Surroundings}
    (sound : surroundings.storage.poisoned = [])
    (request : Request) : request.plain.perform surroundings = request.perform surroundings := by
  obtain ⟨thread, handle, operation⟩ := request
  have free := isPoisoned_of_sound sound handle
  cases operation with
  | tryGet key =>
    simp only [Request.perform, Handle.tryGet?, Surroundings.onThread, free]
    rfl
  | trySet key value =>
    simp only [Request.perform, Handle.trySet, Surroundings.onThread, free]
    rfl
  | get | set | remove | clear | contains | keys | token => rfl

/-! ## Runs -/

theorem run_append (left right : List Request) (surroundings : Surroundings) :
    run (left ++ right) surroundings =
      ((run left surroundings).1 ++ (run right (run left surroundings).2).1,
        (run right (run left surroundings).2).2) := by
  induction left generalizing surroundings with
  | nil => rfl
  | cons request rest ih => simp only [List.cons_append, run, ih]

theorem length_run (requests : List Request) (surroundings : Surroundings) :
    (run requests surroundings).1.length = requests.length := by
  induction requests generalizing surroundings with
  | nil => rfl
  | cons request rest ih => simp only [run, List.length_cons, ih]

theorem poisoned_run (requests : List Request) (surroundings : Surroundings) :
    (run requests surroundings).2.storage.poisoned = surroundings.storage.poisoned := by
  induction requests generalizing surroundings with
  | nil => rfl
  | cons request rest ih => simp only [run, ih, Request.poisoned_perform]

theorem replayFrom_cons (map : PlainMap) (store : Store) (request : Request)
    (rest : List Request) :
    replayFrom map store (request :: rest) =
      replayFrom (if request.store = store then request.effect map else map) store rest := by
  simp only [replayFrom, List.filter_cons]
  by_cases reached : request.store = store
  · simp only [reached, decide_true, if_true, List.foldl_cons]
  · simp only [reached, decide_false, Bool.false_eq_true, if_false]

theorem get?_read_run {surroundings : Surroundings} (sound : surroundings.storage.poisoned = [])
    (store : Store) (requests : List Request) :
    ((run requests surroundings).2.storage.read store).get? =
      replayFrom (surroundings.storage.read store).get? store requests := by
  induction requests generalizing surroundings with
  | nil => rfl
  | cons request rest ih =>
    have soundNext : (request.perform surroundings).2.storage.poisoned = [] :=
      (request.poisoned_perform surroundings).trans sound
    have changed := request.read_perform sound store
    rw [replayFrom_cons, run, ih soundNext]
    by_cases reached : request.store = store
    · rw [if_pos reached.symm, reached] at changed
      rw [if_pos reached, changed, get?_act]
    · rw [if_neg (Ne.symm reached)] at changed
      rw [if_neg reached, changed]

/-- The requests on other stores leave no trace in the answers of a store. -/
private theorem answersOn_run {left right : Surroundings} (soundLeft : left.storage.poisoned = [])
    (soundRight : right.storage.poisoned = []) {store : Store}
    (agree : left.storage.read store = right.storage.read store) (requests : List Request) :
    answersOn store requests (run requests left).1 =
      (run (requests.filter fun request => request.store = store) right).1 := by
  induction requests generalizing left right with
  | nil => rfl
  | cons request rest ih =>
    have soundLeftNext : (request.perform left).2.storage.poisoned = [] :=
      (request.poisoned_perform left).trans soundLeft
    have changedLeft := request.read_perform soundLeft store
    by_cases reached : request.store = store
    · have soundRightNext : (request.perform right).2.storage.poisoned = [] :=
        (request.poisoned_perform right).trans soundRight
      have changedRight := request.read_perform soundRight store
      rw [if_pos reached.symm, reached] at changedLeft changedRight
      have agreeNext : (request.perform left).2.storage.read store =
          (request.perform right).2.storage.read store := by
        rw [changedLeft, changedRight, agree]
      have sameAnswer : (request.perform left).1 = (request.perform right).1 := by
        rw [request.answer_perform soundLeft, request.answer_perform soundRight, reached, agree]
      have others := ih soundLeftNext soundRightNext agreeNext
      simp only [answersOn] at others
      simp only [answersOn, run, List.zip_cons_cons, List.filter_cons, reached, decide_true,
        if_true, List.map_cons, sameAnswer, others]
    -- The right run does not have this request, and the left one leaves the store as it was.
    · rw [if_neg (Ne.symm reached)] at changedLeft
      have others := ih soundLeftNext soundRight (changedLeft.trans agree)
      simp only [answersOn] at others
      simp only [answersOn, run, List.zip_cons_cons, List.filter_cons, reached, decide_false,
        Bool.false_eq_true, if_false, others]

theorem run_plain {surroundings : Surroundings} (sound : surroundings.storage.poisoned = [])
    (requests : List Request) :
    run (requests.map Request.plain) surroundings = run requests surroundings := by
  induction requests generalizing surroundings with
  | nil => rfl
  | cons request rest ih =>
    have soundNext : (request.perform surroundings).2.storage.poisoned = [] :=
      (request.poisoned_perform surroundings).trans sound
    simp only [List.map_cons, run, perform_plain sound, ih soundNext]

/-- Of any requests through any handles on any threads, started on an empty storage, each is
answered from the plain map that the earlier requests on its store make. The answers of a store are
those of a run of its own requests alone, and reporting a poisoned lock changes no run. -/
theorem answered_replay (surroundings : Surroundings) :
    let start := surroundings.withStorage .empty
    (∀ (before : List Request) (request : Request) (after : List Request),
        ∃ answer, (run (before ++ request :: after) start).1[before.length]? = some answer ∧
          request.Answered (replay request.store before) answer) ∧
      (∀ (store : Store) (requests : List Request),
        answersOn store requests (run requests start).1 =
          (run (requests.filter fun request => request.store = store) start).1) ∧
      ∀ requests : List Request,
        run (requests.map Request.plain) start = run requests start := by
  intro start
  have sound : start.storage.poisoned = [] := rfl
  refine ⟨?_, fun store requests => answersOn_run sound sound rfl requests, run_plain sound⟩
  intro before request after
  have soundThen : (run before start).2.storage.poisoned = [] :=
    (poisoned_run before start).trans sound
  refine ⟨(request.perform (run before start).2).1, ?_, ?_⟩
  · rw [run_append, List.getElem?_append_right (Nat.le_of_eq (length_run before start)),
      length_run, Nat.sub_self]
    rfl
  · rw [request.answer_perform soundThen, replay]
    have found := get?_read_run sound request.store before
    have right := answered_act request ((run before start).2.storage.read request.store)
    rw [found] at right
    exact right

end Stencil.Storage
