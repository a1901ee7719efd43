import Stencil.Proofs.Template.Scanning
import Stencil.Tokenizer

/-!
# The reference expansion

What an expansion amounts to, told from the occurrences of a template and not from its pieces. The
tokens are resolved from left to right, each in the state that the one before it left. The text
between them is cut out of the template by byte offsets.

Replacements only ever meet the output: the occurrences are those of the template alone.
-/

set_option autoImplicit false

namespace Stencil

open Template

abbrev Resolution := Except FailureReason String

def Resolution.failed : Resolution → Bool
  | .ok _ => false
  | .error _ => true

def Report.success (expansion : Expansion) : Report :=
  ⟨.ok expansion, expansion.keys⟩

def Report.failure (matched : String) (reason : FailureReason) (keys : KeySet) : Report :=
  ⟨.error (.tokenization matched reason), keys⟩

/-! ## Texts -/

def slice (text : String) (start stop : Nat) : String :=
  String.Pos.Raw.extract text ⟨start⟩ ⟨stop⟩

theorem slice_append (before middle after : List Char) :
    slice (String.ofList (before ++ middle ++ after)) (byteLength before)
      (byteLength (before ++ middle)) = String.ofList middle := by
  rw [slice, byteLength_append, byteLength_eq_utf8Len, byteLength_eq_utf8Len]
  exact String.extract_of_valid before middle after

theorem slice_full (text : String) : slice text 0 text.utf8ByteSize = text := by
  have whole := slice_append [] text.toList []
  simpa [byteLength_toList, String.ofList_toList, byteLength] using whole

/-- The text that stands where an occurrence stood; a failed one stays as it was written. -/
def standIn (occurrence : Occurrence) : Resolution → String
  | .ok text => text
  | .error _ => occurrence.matched

/-- The template from the offset `last` on, with the text of each resolution in place of its
occurrence and every gap between occurrences as it is. -/
def weave (template : String) (last : Nat) : List (Occurrence × Resolution) → String
  | [] => slice template last template.utf8ByteSize
  | (occurrence, resolution) :: rest =>
    slice template last occurrence.start ++ standIn occurrence resolution ++
      weave template occurrence.stop rest

def failures (resolved : List (Occurrence × Resolution)) : Nat :=
  resolved.countP fun entry => entry.2.failed

/-! ## Keys -/

def noteKey (keys : KeySet) (key : String) : KeySet :=
  if key.isEmpty then keys else keys.add key

def noteKeys (keys : KeySet) (found : List Occurrence) : KeySet :=
  found.foldl (fun keys occurrence => noteKey keys occurrence.token.key) keys

namespace Expansion

variable (expansion : Expansion)

theorem keys_note (key : String) : (expansion.note key).keys = noteKey expansion.keys key := by
  unfold note noteKey
  split <;> rfl

theorem keys_append (text : String) : (expansion.append text).keys = expansion.keys := rfl

theorem output_note (key : String) : (expansion.note key).output = expansion.output := by
  unfold note
  split <;> rfl

theorem unresolved_note (key : String) :
    (expansion.note key).unresolved = expansion.unresolved := by
  unfold note
  split <;> rfl

theorem append_append (left right : List Char) :
    (expansion.append (String.ofList left)).append (String.ofList right) =
      expansion.append (String.ofList (left ++ right)) := by
  simp only [append, String.ofList_append, String.append_assoc]

theorem append_empty : expansion.append (String.ofList []) = expansion := by
  simp only [append, String.ofList_nil, String.append_empty]

end Expansion

/-! ## Resolutions -/

namespace Tokenizer

variable {σ : Type} (tokenizer : Tokenizer σ) (wildcard : Option (Strategy σ))

/-- What each occurrence resolves to in the state that those before it left, and the last state. -/
def resolutions : List Occurrence → σ → List (Occurrence × Resolution) × σ
  | [], state => ([], state)
  | occurrence :: rest, state =>
    let first := tokenizer.resolve wildcard occurrence.token state
    let others := resolutions rest first.2
    ((occurrence, first.1) :: others.1, others.2)

def withMode (strict : Bool) : Tokenizer σ :=
  { tokenizer with strict }

theorem resolutions_withMode (strict : Bool) (found : List Occurrence) (state : σ) :
    (tokenizer.withMode strict).resolutions wildcard found state =
      tokenizer.resolutions wildcard found state := by
  induction found generalizing state with
  | nil => rfl
  | cons occurrence rest ih =>
    have same : (tokenizer.withMode strict).resolve wildcard occurrence.token =
        tokenizer.resolve wildcard occurrence.token := rfl
    simp only [resolutions, same, ih]

theorem resolutions_append (left right : List Occurrence) (state : σ) :
    tokenizer.resolutions wildcard (left ++ right) state =
      ((tokenizer.resolutions wildcard left state).1 ++
        (tokenizer.resolutions wildcard right (tokenizer.resolutions wildcard left state).2).1,
      (tokenizer.resolutions wildcard right (tokenizer.resolutions wildcard left state).2).2) := by
  induction left generalizing state with
  | nil => rfl
  | cons occurrence rest ih =>
    simp only [List.cons_append, resolutions, ih]

/-- What a loose expansion of a template gives, and the state it ends in. -/
def looseExpansion (template : String) (state : σ) : Expansion × σ :=
  let resolved := tokenizer.resolutions wildcard (scan template) state
  (⟨weave template 0 resolved.1, failures resolved.1, noteKeys .empty (scan template)⟩, resolved.2)

/-- Of the occurrences `before ++ failing :: after`, `failing` is the first that does not resolve:
it fails for a reason, and the state after it is `next`. -/
structure FirstFailure (state : σ) (before : List Occurrence) (failing : Occurrence)
    (reason : FailureReason) (next : σ) : Prop where
  resolved : ∀ entry ∈ (tokenizer.resolutions wildcard before state).1, entry.2.failed = false
  fails : tokenizer.resolve wildcard failing.token (tokenizer.resolutions wildcard before state).2 =
    (.error reason, next)

theorem FirstFailure.failures_ne_zero {state next : σ} {before after : List Occurrence}
    {failing : Occurrence} {reason : FailureReason}
    (first : tokenizer.FirstFailure wildcard state before failing reason next) :
    failures (tokenizer.resolutions wildcard (before ++ failing :: after) state).1 ≠ 0 := by
  intro none
  rw [failures, List.countP_eq_zero] at none
  refine none (failing, .error reason) ?_ rfl
  rw [resolutions_append]
  refine List.mem_append_right _ ?_
  simp only [resolutions, first.fails]
  exact List.mem_cons_self

end Tokenizer

end Stencil
