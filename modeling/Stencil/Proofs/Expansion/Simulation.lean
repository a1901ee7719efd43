import Stencil.Proofs.Expansion.Evaluations

/-!
# Expansions in step

Two tokenizers of one mode that resolve every token of a template alike expand it alike. They may
work on different states, as long as a relation between these is kept from one token to the next.
-/

set_option autoImplicit false

namespace Stencil

open Template

variable {σ τ : Type}

/-- Two steps end alike: with one result, and in states that are related. -/
def EndAlike {α : Type} (related : σ → τ → Prop) (here : α × σ) (there : α × τ) : Prop :=
  here.1 = there.1 ∧ related here.2 there.2

namespace Tokenizer

variable {related : σ → τ → Prop} {tokenizer : Tokenizer σ} {other : Tokenizer τ}
  {wildcard : Option (Strategy σ)} {wildcardThere : Option (Strategy τ)}

/-- From related states, two tokenizers resolve each of some occurrences alike. -/
def ResolveAlike (related : σ → τ → Prop) (tokenizer : Tokenizer σ) (other : Tokenizer τ)
    (wildcard : Option (Strategy σ)) (wildcardThere : Option (Strategy τ))
    (found : List Occurrence) : Prop :=
  ∀ occurrence ∈ found, ∀ state there, related state there →
    EndAlike related (tokenizer.resolve wildcard occurrence.token state)
      (other.resolve wildcardThere occurrence.token there)

private theorem expandPieces_of_resolveAlike (mode : tokenizer.strict = other.strict)
    {cut : List Piece}
    {offset : Nat}
    (alike : ResolveAlike related tokenizer other wildcard wildcardThere (occurrences offset cut))
    (sofar : Expansion) {state : σ} {there : τ} (relates : related state there) :
    EndAlike related (tokenizer.expandPieces wildcard sofar state cut)
      (other.expandPieces wildcardThere sofar there cut) := by
  induction cut generalizing offset sofar state there with
  | nil => exact ⟨rfl, relates⟩
  | cons piece rest ih =>
    cases piece with
    | plain character => exact ih alike _ relates
    | token written token =>
      obtain ⟨occurrence, rfl, -, found⟩ := occurrences_token offset written token rest
      rw [found] at alike
      have later : ResolveAlike related tokenizer other wildcard wildcardThere
          (occurrences occurrence.stop rest) :=
        fun next member => alike next (List.mem_cons_of_mem occurrence member)
      obtain ⟨same, relatesNext⟩ := alike occurrence List.mem_cons_self state there relates
      rw [expandPieces, expandPieces]
      generalize tokenizer.resolve wildcard occurrence.token state = step at same relatesNext
      generalize other.resolve wildcardThere occurrence.token there = stepThere
        at same relatesNext
      obtain ⟨resolution, next⟩ := step
      obtain ⟨resolutionThere, nextThere⟩ := stepThere
      obtain rfl : resolution = resolutionThere := same
      -- The resolution and the mode decide which way to go on, and both are the same.
      cases resolution with
      | ok text => exact ih later _ relatesNext
      | error reason =>
        simp only [mode]
        cases other.strict with
        | false => exact ih later _ relatesNext
        | true => exact ⟨rfl, relatesNext⟩

theorem expand_of_resolveAlike (mode : tokenizer.strict = other.strict) {template : String}
    (alike : ResolveAlike related tokenizer other wildcard wildcardThere (scan template))
    {state : σ} {there : τ} (relates : related state there) :
    EndAlike related (tokenizer.expand wildcard template state)
      (other.expand wildcardThere template there) := by
  rw [expand_eq_expandPieces, expand_eq_expandPieces]
  exact expandPieces_of_resolveAlike mode alike .empty relates

end Tokenizer

end Stencil
