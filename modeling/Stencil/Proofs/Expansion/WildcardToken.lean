import Stencil.Proofs.Expansion.Resolution
import Stencil.Proofs.Expansion.SingleToken
import Stencil.Proofs.Wildcard.Targets

/-!
# Tokens that a wildcard answers

A wildcard looks a dotted name up as a whole: the first target that has the whole path gives the
value. A token asks the wildcard for its key alone and walks the rest of its identifier in the
answer, so the first target that has the key decides. The two agree where that target has the whole
path; where it does not, the token fails although a later target has it.
-/

set_option autoImplicit false

namespace Stencil

open Template Template.Grammar

/-! ## The first target -/

namespace Wildcard

/-- The first target that has a key. -/
def holder? (wildcard : Wildcard) (key : String) : Option Value :=
  wildcard.targets.find? fun target => (target.child? key).isSome

variable {wildcard : Wildcard} {key : String} {holder : Value}

theorem holder?_eq_some_iff :
    wildcard.holder? key = some holder ↔
      ∃ before after, wildcard.targets = before ++ holder :: after ∧
        (∀ earlier ∈ before, earlier.child? key = none) ∧
        ∃ child, holder.child? key = some child := by
  rw [holder?, List.find?_eq_some_iff_append]
  constructor
  · rintro ⟨has, before, after, split, lack⟩
    refine ⟨before, after, split, fun earlier member => ?_, Option.isSome_iff_exists.mp has⟩
    have without := lack earlier member
    rwa [Bool.not_eq_true', Option.isSome_eq_false_iff, Option.isNone_iff_eq_none] at without
  · rintro ⟨before, after, split, lack, has⟩
    refine ⟨Option.isSome_iff_exists.mpr has, before, after, split, fun earlier member => ?_⟩
    rw [lack earlier member]
    rfl

/-- Where the first target with the key has a path below it, the lookup ends there. -/
theorem lookup_of_holder? {name : String} {rest : List String} {value : Value}
    (split : Text.segments name = key :: rest) (holds : wildcard.holder? key = some holder)
    (leads : holder.walk (key :: rest) = .ok value) :
    wildcard.lookup name = .ok (some value) := by
  obtain ⟨before, after, targets, lack, -⟩ := holder?_eq_some_iff.mp holds
  rw [lookup_eq_some_iff, split]
  refine ⟨before, holder, after, targets, fun earlier member => ?_, ?_⟩
  · have fails := Value.walk_cons_of_no_child (lack earlier member) rest
    exact ⟨⟨key, key :: rest⟩, Value.resolvePath_eq_error_iff.mpr ⟨fails, rfl⟩⟩
  · exact Value.resolvePath_eq_ok_iff.mpr leads

/-- Some target has the key of every name that the lookup finds. -/
private theorem exists_holder?_of_lookup {name : String} {rest : List String} {value : Value}
    (split : Text.segments name = key :: rest) (found : wildcard.lookup name = .ok (some value)) :
    ∃ holder, wildcard.holder? key = some holder := by
  rw [lookup_eq_some_iff, split] at found
  obtain ⟨before, target, after, chosen⟩ := found
  have has : (target.child? key).isSome = true := Option.isSome_iff_exists.mpr
    (Value.exists_child_of_walk_cons (Value.resolvePath_eq_ok_iff.mp chosen.succeeds))
  rw [← Option.isSome_iff_exists, holder?, List.find?_isSome]
  exact ⟨target, chosen.member, has⟩

/-- Asked for a key alone, a wildcard gives the member of the first target that has it. -/
theorem evaluateKey_of_holder? {σ : Type} {child : Value} (plain : Text.IsPlain key)
    (holds : wildcard.holder? key = some holder) (has : holder.child? key = some child)
    (arguments : Arguments) (state : σ) :
    wildcard.strategy.evaluateKey key arguments state = (.ok child, state) := by
  have found : wildcard.lookup key = .ok (some child) := by
    refine lookup_of_holder? (Text.segments_of_isPlain plain) holds ?_
    rw [Value.walk_cons_of_child? has]
    rfl
  simp only [strategy, found]
  rfl

/-- The first target that has the key of a token has the whole identifier. -/
def Reaches (wildcard : Wildcard) (token : Token) : Prop :=
  ∃ holder, wildcard.holder? token.key = some holder ∧
    ∃ value, holder.walk (Text.segments token.identifier) = .ok value

end Wildcard

/-! ## Expanding the token -/

/-- A token that selects nothing registered and whose identifier the wildcard finds. It is replaced
by the text of the value found where the first target that has its key has the whole identifier, and
it fails where that target has not. -/
theorem expand_wildcard_token {σ : Type} {wildcard : Wildcard} {tokenizer : Tokenizer σ}
    {name : Name} {value : Value} (starts : name.first ≠ '.')
    (unselected : ∀ key ∈ tokenizer.strategies.keys,
      tokenizer.caseRule.selects key name.token.key = false)
    (found : wildcard.lookup name.text = .ok (some value)) (state : σ) :
    let report := (tokenizer.expand (some wildcard.strategy) name.written state).1
    (wildcard.Reaches name.token → report.Replaced value.text) ∧
      (¬ wildcard.Reaches name.token → report.Failed tokenizer.strict name.written) := by
  intro report
  have split : Text.segments name.text = name.token.key :: name.token.path :=
    name.token.segments_identifier
  obtain ⟨holder, holds⟩ := Wildcard.exists_holder?_of_lookup split found
  obtain ⟨-, -, -, -, child, has⟩ := Wildcard.holder?_eq_some_iff.mp holds
  have whole : holder.walk (name.token.key :: name.token.path) = child.walk name.token.path :=
    Value.walk_cons_of_child? has name.token.path
  have resolves := Tokenizer.resolve_of_wildcard (Name.key_token_ne_empty starts)
    (Tokenizer.find?_eq_none_of_unselected unselected) wildcard.strategy state
  rw [Wildcard.evaluateKey_of_holder? name.token.isPlain_key holds has] at resolves
  cases walks : child.walk name.token.path with
  | ok reached =>
    have same : wildcard.lookup name.text = .ok (some reached) :=
      Wildcard.lookup_of_holder? split holds (whole.trans walks)
    rw [found] at same
    cases same
    simp only [textAt, walks] at resolves
    constructor
    · intro _
      exact Tokenizer.replaced_of_resolved resolves
    · intro blocked
      refine absurd ⟨holder, holds, value, ?_⟩ blocked
      rw [name.token.segments_identifier]
      exact whole.trans walks
  | error blamed =>
    simp only [textAt, walks] at resolves
    constructor
    · rintro ⟨other, holdsOther, reached, leads⟩
      rw [holds] at holdsOther
      cases holdsOther
      rw [name.token.segments_identifier, whole, walks] at leads
      cases leads
    · intro _
      exact Tokenizer.failed_of_error resolves

/-- A target without the key of the token comes before the one that has it. -/
theorem expand_wildcard_token_later_target :
    let settings : Value := .object [("d", .object [("h", .string "main")])]
    let wildcard : Wildcard := ⟨[.object [("c", .null)], settings], true⟩
    let tokenizer : Tokenizer Unit := ⟨.empty, true, .sensitive⟩
    wildcard.lookup "d.h" = .ok (some (.string "main")) ∧
      (tokenizer.expand (some wildcard.strategy) "$\x7bd.h\x7d" ()).1.Replaced "main" := by
  intro settings wildcard tokenizer
  let name : Name :=
    ⟨'d', ['.', 'h'], by decide,
      List.forall_mem_cons.mpr ⟨by decide, List.forall_mem_singleton.mpr (by decide)⟩, by decide⟩
  have found : wildcard.lookup name.text = .ok (some (.string "main")) := by cbv
  have reaches : wildcard.Reaches name.token := ⟨settings, by cbv, .string "main", by cbv⟩
  have starts : name.first ≠ '.' := by decide
  have unselected : ∀ key ∈ tokenizer.strategies.keys,
      tokenizer.caseRule.selects key name.token.key = false := by
    intro key member
    cases member
  exact ⟨found, (expand_wildcard_token starts unselected found ()).1 reaches⟩

/-- A token is not always replaced by what the wildcard finds for its identifier. -/
theorem not_forall_replaced_of_lookup :
    ¬ ∀ (wildcard : Wildcard) (tokenizer : Tokenizer Unit) (name : Name) (value : Value),
      name.first ≠ '.' →
      (∀ key ∈ tokenizer.strategies.keys,
        tokenizer.caseRule.selects key name.token.key = false) →
      wildcard.lookup name.text = .ok (some value) →
      (tokenizer.expand (some wildcard.strategy) name.written ()).1.Replaced value.text := by
  intro always
  let wildcard : Wildcard :=
    ⟨[.object [("a", .integer 1)], .object [("a", .object [("b", .integer 2)])]], false⟩
  let tokenizer : Tokenizer Unit := ⟨.empty, false, .sensitive⟩
  let name : Name :=
    ⟨'a', ['.', 'b'], by decide,
      List.forall_mem_cons.mpr ⟨by decide, List.forall_mem_singleton.mpr (by decide)⟩, by decide⟩
  obtain ⟨expansion, succeeds, output, -⟩ :=
    always wildcard tokenizer name (.integer 2) (by decide) nofun (by cbv)
  have left : ((tokenizer.expand (some wildcard.strategy) name.written ()).1.result.toOption.map
      Expansion.output) = some "$\x7ba.b\x7d" := by decide +kernel
  rw [succeeds] at left
  rw [Except.toOption, Option.map_some, output] at left
  exact absurd left (by decide +kernel)

end Stencil
