import Stencil.Proofs.Wiring.DocumentDefaults

/-!
# Configurations as they are written and read

Writing a configuration and reading it again gives it back; and in a value or a document that is
read, defaults may be left out or written out, in any number and at any of their places.
-/

set_option autoImplicit false

namespace Stencil.TokenConfig

open Yaml

/-- What no single change alters, any number of changes in either direction leaves as it is. -/
private theorem eq_of_eqvGen {α β : Type} {change : α → α → Prop} {read : α → β}
    {first second : α} (changes : Relation.EqvGen change first second)
    (unchanged : ∀ before after, change before after → read after = read before) :
    read second = read first := by
  induction changes with
  | rel _ _ once => exact unchanged _ _ once
  | refl => rfl
  | symm _ _ _ ih => exact ih.symm
  | trans _ _ _ _ _ earlier later => exact later.trans earlier

/-- A written configuration is read back as it was. A value is read alike with defaults left out or
written out. So is the root of a document, and that is what a text is read as. The second document
may be another one in which the aliases of the first can be followed too: how often that may be
done depends on the number of events, and so on what is written out. -/
theorem reading_after_writing :
    (∀ config : TokenConfig, config.Proper → ofValue? config.toValue = some config) ∧
      (∀ short long : Value, Relation.EqvGen WritesDefault short long →
        ofValue? long = ofValue? short) ∧
      (∀ text, ofYaml? text = (Document.ofText? text).bind fun document =>
        document.config? (document.root.getD .absent)) ∧
      ∀ (first second : Document) (short long : Node), second.Extends first →
        Relation.EqvGen (Document.Anchored second.WritesConfig) short long →
          ∀ config, first.config? short = some config → second.config? long = some config := by
  refine ⟨?_, ?_, Document.ofYaml?_eq, ?_⟩
  · intro config proper
    exact ofValue?_of_proper proper
  · intro short long writes
    exact eq_of_eqvGen writes fun _ _ once => once.ofValue?_eq
  · intro first second short long extended writes config read
    have same : second.config? long = second.config? short :=
      eq_of_eqvGen writes fun _ _ once => once.config?_eq
    rw [same]
    exact Document.refines_config? extended short config read

/-- A fixed value with keys that a source has, a variable without a default, and a document that
leaves out what another one writes out. -/
theorem reading_after_writing_example :
    let config : TokenConfig :=
      ⟨true, false, false, .ofList
        [("A", .fixed (.object [("kind", .array [.null, .bool true]), ("type", .string "env")])),
          ("B", .environment "HOME" none), ("C", .method "Guid" "NewGuid" [])]⟩
    let source : Entries Value := [("kind", .string "env"), ("var", .string "HOME")]
    let members : Entries Value := [("tokens", .object [("B", .object source)])]
    let long : Entries Value :=
      members.insert "tokens" (.object [("B", .object (source.insert "default" .null))])
    let plain (text : String) : Node := .scalar none .plain text
    let pair : Node × Node := (plain "case_sensitive", plain "false")
    let first : Document := ⟨some (.mapping none [pair]), 4⟩
    let second : Document :=
      ⟨some (.mapping none [(plain "strict", plain "false"), pair]), 6⟩
    ofValue? config.toValue = some config ∧
      ofValue? (.object long) = ofValue? (.object members) ∧
      first.config? (first.root.getD .absent) = some { default with caseSensitive := false } ∧
      second.config? (second.root.getD .absent) = some { default with caseSensitive := false } := by
  intro config source members long plain pair first second
  obtain ⟨written, values, -, documents⟩ := reading_after_writing
  have value : Value.Proper (.object [("kind", .array [.null, .bool true]),
      ("type", .string "env")]) := by
    refine .object ?_ (List.forall_mem_cons.mpr ⟨?_, ?_⟩)
    · exact List.pairwise_pair.mpr (by decide)
    · exact .array (List.forall_mem_cons.mpr ⟨.null, List.forall_mem_singleton.mpr (.bool true)⟩)
    · exact List.forall_mem_singleton.mpr (.string "env")
  have proper : config.Proper := by
    intro entry member
    have listed := Dictionary.mem_of_mem_ofList member
    simp only [List.mem_cons, List.not_mem_nil, or_false] at listed
    obtain rfl | rfl | rfl := listed
    · exact value
    · trivial
    · trivial
  have writes : WritesDefault (.object members) (.object long) :=
    @WritesDefault.sourceNamed "B" _ _ [] [] members (.named .value rfl) rfl
  have unnamed : second.Unnamed "strict" [pair] := by
    refine List.forall_mem_singleton.mpr fun followed read found => ?_
    obtain rfl := Option.some.inj found
    simp
  have documentWrites : Relation.EqvGen (Document.Anchored second.WritesConfig)
      (first.root.getD .absent) (second.root.getD .absent) :=
    .rel _ _ (.plain (@Document.WritesConfig.field second "strict" none [] [pair] _ _
      (.strict fun _ => rfl) (fun _ => rfl) unnamed))
  have read : first.config? (first.root.getD .absent) =
      some { default with caseSensitive := false } := by rfl
  have extended : second.Extends first :=
    Document.extends_of_anchors (fun _ _ found => nomatch found) (by decide)
  exact ⟨written config proper, values _ _ (.rel _ _ writes), read,
    documents first second _ _ extended documentWrites _ read⟩

end Stencil.TokenConfig
