import Stencil.Wiring.Reading

/-!
# Aliases in two documents

What is read from a node depends on the document only through the aliases that are followed. So a
node that can be read in one document is read alike in any other where these stand for the same.
-/

set_option autoImplicit false

namespace Stencil.Yaml

/-! ### Partial results -/

/-- The second result is the first wherever there is a first. -/
def Refines {α : Type} (first second : Option α) : Prop :=
  ∀ result, first = some result → second = some result

namespace Refines

variable {α β : Type}

theorem refl (result : Option α) : Refines result result := fun _ found => found

theorem bind {first second : Option α} {next other : α → Option β}
    (refines : Refines first second) (each : ∀ value, Refines (next value) (other value)) :
    Refines (first.bind next) (second.bind other) := by
  intro result found
  obtain ⟨value, given, follows⟩ := Option.bind_eq_some_iff.mp found
  exact Option.bind_eq_some_iff.mpr ⟨value, refines value given, each value result follows⟩

theorem map {first second : Option α} (refines : Refines first second) (transform : α → β) :
    Refines (first.map transform) (second.map transform) := by
  intro result found
  obtain ⟨value, given, same⟩ := Option.map_eq_some_iff.mp found
  exact Option.map_eq_some_iff.mpr ⟨value, refines value given, same⟩

end Refines

private theorem refines_readEach? {α β : Type} {read? other? : Nat → α → Option (β × Nat)}
    (each : ∀ followed item, Refines (read? followed item) (other? followed item))
    (followed : Nat) (items : List α) :
    Refines (readEach? read? followed items) (readEach? other? followed items) := by
  induction items generalizing followed with
  | nil => exact .refl _
  | cons item rest ih =>
    exact (each followed item).bind fun first => (ih first.2).bind fun _ => .refl _

namespace Document

/-! ### Fields of a configuration -/

/-- The fields with one more of them read, when it is known and was not there. -/
def field? (document : Document) (depth : Nat) (fields : ConfigFields) (name : String)
    (followed : Nat) (value : Node) : Option (ConfigFields × Nat) :=
  match name with
  | "strict" =>
    if fields.strict.isSome then none
    else (document.bool? followed value).map fun read =>
      ({ fields with strict := some read.1 }, read.2)
  | "case_sensitive" =>
    if fields.caseSensitive.isSome then none
    else (document.bool? followed value).map fun read =>
      ({ fields with caseSensitive := some read.1 }, read.2)
  | "wildcard_settings" =>
    if fields.wildcardSettings.isSome then none
    else (document.bool? followed value).map fun read =>
      ({ fields with wildcardSettings := some read.1 }, read.2)
  | "tokens" =>
    if fields.tokens.isSome then none
    else (document.sources? depth followed value).map fun read =>
      ({ fields with tokens := some read.1 }, read.2)
  | _ => some (fields, followed)

theorem configFields?_cons (document : Document) (depth : Nat) (fields : ConfigFields)
    (followed : Nat) (key value : Node) (rest : List (Node × Node)) :
    document.configFields? depth fields followed ((key, value) :: rest) =
      (document.text? followed key).bind fun name =>
        (document.field? depth fields name.1 name.2 value).bind fun read =>
          document.configFields? depth read.1 read.2 rest := by
  rw [configFields?]
  cases document.text? followed key with
  | none => rfl
  | some name =>
    obtain ⟨name, followed⟩ := name
    simp only [Option.bind_eq_bind, Option.bind_some]
    split
    case h_5 =>
      rw [field?]
      · rfl
      all_goals assumption
    all_goals
      rw [field?]
      split
      case isTrue => rfl
      case isFalse => simp only [Option.bind_map]; rfl

/-- The configuration that a node stands for. -/
def config? (document : Document) (root : Node) : Option TokenConfig := do
  let (node, followed) ← document.follow? 0 root
  match node with
  | .mapping _ pairs =>
    let fields ← document.configFields? (depthLimit - 1) .none followed pairs
    pure fields.toConfig
  | node => if isAbsent node then pure TokenConfig.default else none

/-- A text is read from the root of its document. -/
theorem ofYaml?_eq (text : String) :
    TokenConfig.ofYaml? text =
      (ofText? text).bind fun document => document.config? (document.root.getD .absent) := by
  rw [TokenConfig.ofYaml?]
  refine Option.bind_congr fun document _ => ?_
  cases document.root <;> rfl

/-! ### The same aliases -/

/-- Each alias that can be followed in the first document can be followed in the second, to the
same node. -/
def Extends (second first : Document) : Prop :=
  ∀ followed node, Refines (first.follow? followed node) (second.follow? followed node)

/-- A document in which the anchors of another are the same nodes may have anchors besides, and more
events, which are what limits how many aliases are followed. -/
theorem extends_of_anchors {first second : Document}
    (anchors : ∀ number, Refines (first.root.bind (Node.anchoredLast? number))
      (second.root.bind (Node.anchoredLast? number)))
    (events : first.events ≤ second.events) : second.Extends first := by
  intro followed node result found
  cases node with
  | aliased number =>
    rw [follow?] at found ⊢
    split at found
    case isTrue within =>
      have limit : followed < second.aliasLimit :=
        Nat.lt_of_lt_of_le within (Nat.mul_le_mul_left 100 events)
      obtain ⟨reached, named, same⟩ := Option.map_eq_some_iff.mp found
      rw [if_pos limit]
      exact Option.map_eq_some_iff.mpr ⟨reached, anchors number reached named, same⟩
    case isFalse => cases found
  | _ => exact found

variable {first second : Document} (extended : second.Extends first)

include extended

theorem refines_tree? (depth followed : Nat) (node : Node) :
    Refines (first.tree? depth followed node) (second.tree? depth followed node) := by
  induction depth generalizing followed node with
  | zero =>
    unfold tree?
    refine (extended followed node).bind fun reached => ?_
    obtain ⟨content, followed⟩ := reached
    cases content <;> exact .refl _
  | succ depth ih =>
    unfold tree?
    refine (extended followed node).bind fun reached => ?_
    obtain ⟨content, followed⟩ := reached
    cases content with
    | scalar => exact .refl _
    | sequence tag items =>
      exact (refines_readEach? ih followed items).bind fun _ => .refl _
    | mapping tag pairs =>
      refine (refines_readEach? (fun followed pair => ?_) followed pairs).bind fun _ => .refl _
      exact (ih followed pair.1).bind fun key => (ih key.2 pair.2).bind fun _ => .refl _
    | anchored => exact .refl _
    | aliased => exact .refl _

private theorem refines_untagged? (depth followed : Nat) (node : Node) :
    Refines (first.untagged? depth followed node) (second.untagged? depth followed node) :=
  (refines_tree? extended depth followed node).bind fun _ => .refl _

private theorem refines_text? (followed : Nat) (node : Node) :
    Refines (first.text? followed node) (second.text? followed node) :=
  (extended followed node).bind fun _ => .refl _

private theorem refines_bool? (followed : Nat) (node : Node) :
    Refines (first.bool? followed node) (second.bool? followed node) :=
  (extended followed node).bind fun _ => .refl _

private theorem refines_sourcePairs? (depth : Nat) (kind : Option String)
    (sofar : List (Tree × Tree))
    (followed : Nat) (pairs : List (Node × Node)) :
    Refines (first.sourcePairs? depth kind sofar followed pairs)
      (second.sourcePairs? depth kind sofar followed pairs) := by
  induction pairs generalizing kind sofar followed with
  | nil => exact .refl _
  | cons pair rest ih =>
    obtain ⟨key, value⟩ := pair
    unfold sourcePairs?
    refine (refines_untagged? extended depth followed key).bind fun read => ?_
    simp only
    split
    case h_1 =>
      split
      case isTrue => exact .refl _
      case isFalse =>
        exact (refines_text? extended read.2 value).bind fun text => ih _ _ _
    case h_2 =>
      exact (refines_untagged? extended depth read.2 value).bind fun value => ih _ _ _

theorem refines_source? (depth followed : Nat) (node : Node) :
    Refines (first.source? depth followed node) (second.source? depth followed node) := by
  refine (extended followed node).bind fun reached => ?_
  obtain ⟨content, followed⟩ := reached
  cases content with
  | scalar => exact .refl _
  | sequence tag items =>
    cases items with
    | nil => exact .refl _
    | cons item items =>
      simp only
      split
      case isTrue => exact .refl _
      case isFalse =>
        refine (refines_text? extended followed item).bind fun kind => ?_
        exact (refines_readEach? (refines_untagged? extended (depth - 1)) kind.2 items).bind
          fun _ => .refl _
  | mapping tag pairs =>
    simp only
    split
    case isTrue => exact .refl _
    case isFalse =>
      exact (refines_sourcePairs? extended (depth - 1) none [] followed pairs).bind
        fun _ => .refl _
  | anchored => exact .refl _
  | aliased => exact .refl _

private theorem refines_addSources? (depth : Nat) (sources : Dictionary TokenSource)
    (followed : Nat)
    (pairs : List (Node × Node)) :
    Refines (first.addSources? depth sources followed pairs)
      (second.addSources? depth sources followed pairs) := by
  induction pairs generalizing sources followed with
  | nil => exact .refl _
  | cons pair rest ih =>
    refine (refines_text? extended followed pair.1).bind fun name => ?_
    exact (refines_source? extended depth name.2 pair.2).bind fun source => ih _ _

theorem refines_sources? (depth followed : Nat) (node : Node) :
    Refines (first.sources? depth followed node) (second.sources? depth followed node) := by
  refine (extended followed node).bind fun reached => ?_
  obtain ⟨content, followed⟩ := reached
  cases content with
  | mapping tag pairs => exact refines_addSources? extended (depth - 1) .empty followed pairs
  | scalar => exact .refl _
  | sequence => exact .refl _
  | anchored => exact .refl _
  | aliased => exact .refl _

private theorem refines_field? (depth : Nat) (fields : ConfigFields) (name : String)
    (followed : Nat)
    (value : Node) :
    Refines (first.field? depth fields name followed value)
      (second.field? depth fields name followed value) := by
  unfold field?
  split
  case h_4 =>
    split
    case isTrue => exact .refl _
    case isFalse => exact (refines_sources? extended depth followed value).map _
  case h_5 => exact .refl _
  all_goals
    split
    case isTrue => exact .refl _
    case isFalse => exact (refines_bool? extended followed value).map _

private theorem refines_configFields? (depth : Nat) (fields : ConfigFields) (followed : Nat)
    (pairs : List (Node × Node)) :
    Refines (first.configFields? depth fields followed pairs)
      (second.configFields? depth fields followed pairs) := by
  induction pairs generalizing fields followed with
  | nil => exact .refl _
  | cons pair rest ih =>
    rw [configFields?_cons, configFields?_cons]
    refine (refines_text? extended followed pair.1).bind fun name => ?_
    exact (refines_field? extended depth fields name.1 name.2 pair.2).bind fun read => ih _ _

theorem refines_config? (root : Node) : Refines (first.config? root) (second.config? root) := by
  refine (extended 0 root).bind fun reached => ?_
  obtain ⟨content, followed⟩ := reached
  cases content with
  | mapping tag pairs =>
    exact (refines_configFields? extended (depthLimit - 1) .none followed pairs).bind
      fun _ => .refl _
  | scalar => exact .refl _
  | sequence => exact .refl _
  | anchored => exact .refl _
  | aliased => exact .refl _

end Document

end Stencil.Yaml
