import Stencil.Proofs.Wiring.Aliases
import Stencil.Proofs.Wiring.Defaults

/-!
# Defaults in documents

In a document, too, a field with a default may be left out or written out: in the configuration, at
the top or in the source of any token. The nodes are read with the aliases of one document; the pair
or item that is written out follows none.
-/

set_option autoImplicit false

namespace Stencil

open Yaml

namespace Yaml.Document

/-! ### What is written out -/

/-- A node that is a text as it stands, without following an alias. -/
def IsText (document : Document) (node : Node) (text : String) : Prop :=
  ∀ followed, document.text? followed node = some (text, followed)

/-- A node that is a tree as it stands, without following an alias. -/
def IsTree (document : Document) (node : Node) (tree : Tree) : Prop :=
  ∀ depth followed, document.untagged? (depth + 1) followed node = some (tree, followed)

/-- No key stands for a field of a source, by its name or by its place. -/
def LeavesOut (document : Document) (name : String) (index : Nat)
    (pairs : List (Node × Node)) : Prop :=
  ∀ pair ∈ pairs, ∀ depth followed read, document.untagged? depth followed pair.1 = some read →
    read.1 ≠ .string name ∧ read.1 ≠ .number (.integer index)

/-- No key is the name of a field. -/
def Unnamed (document : Document) (name : String) (pairs : List (Node × Node)) : Prop :=
  ∀ pair ∈ pairs, ∀ followed read, document.text? followed pair.1 = some read → read.1 ≠ name

/-- The second source is the first with a default written out. -/
inductive WritesSource (document : Document) : Node → Node → Prop
  | named {owner name : String} {index : Nat} {tree : Tree} {tag : Option String}
      {before after : List (Node × Node)} {key value : Node}
      (default : TokenSource.DefaultMember owner name index tree)
      (key_is : document.IsTree key (.string name)) (value_is : document.IsTree value tree)
      (leavesOut : document.LeavesOut name index (before ++ after)) :
      WritesSource document (.mapping tag (before ++ after))
        (.mapping tag (before ++ (key, value) :: after))
  | listed {kind name : String} {index : Nat} {tree : Tree} {tag : Option String}
      {first value : Node} {items : List Node}
      (default : TokenSource.DefaultMember kind name index tree)
      (kind_is : ∀ followed read, document.text? followed first = some read → read.1 = kind)
      (value_is : document.IsTree value tree) (reached : items.length = index) :
      WritesSource document (.sequence tag (first :: items))
        (.sequence tag (first :: items ++ [value]))

/-- Two nodes are related as they stand, or below one anchor. -/
inductive Anchored (related : Node → Node → Prop) : Node → Node → Prop
  | plain {first second : Node} (here : related first second) : Anchored related first second
  | anchored {first second : Node} (number : Nat) (here : related first second) :
      Anchored related (.anchored number first) (.anchored number second)

/-- The second tokens are the first with a default written out in the source of one of them. -/
inductive WritesToken (document : Document) : Node → Node → Prop
  | token {tag : Option String} {before after : List (Node × Node)} {name short long : Node}
      (source : Anchored document.WritesSource short long) :
      WritesToken document (.mapping tag (before ++ (name, short) :: after))
        (.mapping tag (before ++ (name, long) :: after))

/-- What the default of a field is written as. -/
inductive WritesField (document : Document) : String → Node → Prop
  | strict {value : Node}
      (reads : ∀ followed, document.bool? followed value = some (false, followed)) :
      WritesField document "strict" value
  | caseSensitive {value : Node}
      (reads : ∀ followed, document.bool? followed value = some (true, followed)) :
      WritesField document "case_sensitive" value
  | wildcardSettings {value : Node}
      (reads : ∀ followed, document.bool? followed value = some (false, followed)) :
      WritesField document "wildcard_settings" value
  | tokens {value : Node}
      (reads : ∀ depth followed, document.sources? depth followed value = some (.empty, followed)) :
      WritesField document "tokens" value

/-- The second configuration is the first with one default written out. -/
inductive WritesConfig (document : Document) : Node → Node → Prop
  | empty {tag otherTag : Option String} {style : ScalarStyle} {text : String}
      (absent : isAbsent (.scalar tag style text) = true) :
      WritesConfig document (.scalar tag style text) (.mapping otherTag [])
  | field {name : String} {tag : Option String} {before after : List (Node × Node)}
      {key value : Node} (default : document.WritesField name value)
      (key_is : document.IsText key name) (unnamed : document.Unnamed name (before ++ after)) :
      WritesConfig document (.mapping tag (before ++ after))
        (.mapping tag (before ++ (key, value) :: after))
  | source {tag : Option String} {before after : List (Node × Node)} {key short long : Node}
      (tokens : Anchored document.WritesToken short long) :
      WritesConfig document (.mapping tag (before ++ (key, short) :: after))
        (.mapping tag (before ++ (key, long) :: after))

variable {document : Document}

/-! ### Sources -/

/-- What one pair of a source adds: the kind, or a field. -/
def sourcePair? (document : Document) (depth : Nat) (kind : Option String) (followed : Nat)
    (pair : Node × Node) : Option (Option String × List (Tree × Tree) × Nat) :=
  (document.untagged? depth followed pair.1).bind fun key =>
    match key.1 with
    | .string "kind" =>
      if kind.isSome then none
      else (document.text? key.2 pair.2).map fun text => (some text.1, [], text.2)
    | other =>
      (document.untagged? depth key.2 pair.2).map fun value => (kind, [(other, value.1)], value.2)

private theorem sourcePairs?_cons (depth : Nat) (kind : Option String) (sofar : List (Tree × Tree))
    (followed : Nat) (pair : Node × Node) (rest : List (Node × Node)) :
    document.sourcePairs? depth kind sofar followed (pair :: rest) =
      (document.sourcePair? depth kind followed pair).bind fun read =>
        document.sourcePairs? depth read.1 (read.2.1 ++ sofar) read.2.2 rest := by
  obtain ⟨key, value⟩ := pair
  rw [sourcePairs?]
  cases found : document.untagged? depth followed key with
  | none => rw [sourcePair?, found]; rfl
  | some key =>
    obtain ⟨key, followed⟩ := key
    simp only [Option.bind_eq_bind, Option.bind_some]
    split <;> simp only [sourcePair?, found, Option.bind_some]
    case h_1 =>
      split
      case isTrue => rfl
      case isFalse =>
        rw [Option.bind_map]
        rfl
    case h_2 =>
      rw [Option.bind_map]
      rfl

/-- The pairs read so far stand in front of those that follow. -/
private theorem sourcePairs?_sofar (depth : Nat) (kind : Option String) (sofar : List (Tree × Tree))
    (followed : Nat) (pairs : List (Node × Node)) :
    document.sourcePairs? depth kind sofar followed pairs =
      (document.sourcePairs? depth kind [] followed pairs).map fun read =>
        (read.1, sofar.reverse ++ read.2.1, read.2.2) := by
  induction pairs generalizing kind sofar followed with
  | nil => rw [sourcePairs?, sourcePairs?, Option.map_some, List.reverse_nil, List.append_nil]
  | cons pair rest ih =>
    rw [sourcePairs?_cons, sourcePairs?_cons, Option.map_bind]
    refine congrArg _ (funext fun read => ?_)
    rw [Function.comp_apply, ih, ih _ (read.2.1 ++ []), Option.map_map]
    refine congrArg (Option.map · _) (funext fun rest => ?_)
    simp only [Function.comp_apply, List.reverse_append, List.reverse_nil, List.nil_append,
      List.append_assoc]

private theorem leavesOut_of_sourcePair? {name : String} {index depth followed : Nat}
    {kind : Option String} {pair : Node × Node} {read : Option String × List (Tree × Tree) × Nat}
    (found : document.sourcePair? depth kind followed pair = some read)
    (leavesOut : document.LeavesOut name index [pair]) :
    SourceFields.LeavesOut name index read.2.1 := by
  obtain ⟨key, keyed, found⟩ := Option.bind_eq_some_iff.mp found
  have apart := leavesOut pair List.mem_cons_self depth followed key keyed
  split at found
  case h_1 =>
    split at found
    case isTrue => cases found
    case isFalse =>
      obtain ⟨text, -, rfl⟩ := Option.map_eq_some_iff.mp found
      exact .nil name index
  case h_2 =>
    obtain ⟨value, -, rfl⟩ := Option.map_eq_some_iff.mp found
    exact List.forall_mem_singleton.mpr apart

private theorem leavesOut_of_sourcePairs? {name : String} {index depth followed : Nat}
    {kind : Option String} {sofar : List (Tree × Tree)} {pairs : List (Node × Node)}
    {read : Option String × List (Tree × Tree) × Nat}
    (found : document.sourcePairs? depth kind sofar followed pairs = some read)
    (leavesOut : document.LeavesOut name index pairs)
    (before : SourceFields.LeavesOut name index sofar) :
    SourceFields.LeavesOut name index read.2.1 := by
  induction pairs generalizing kind sofar followed with
  | nil =>
    obtain rfl := Option.some.inj found
    exact fun pair member => before pair (List.mem_reverse.mp member)
  | cons pair rest ih =>
    rw [sourcePairs?_cons] at found
    obtain ⟨first, here, found⟩ := Option.bind_eq_some_iff.mp found
    obtain ⟨head, tail⟩ := List.forall_mem_cons.mp leavesOut
    have added := leavesOut_of_sourcePair? here (List.forall_mem_singleton.mpr head)
    refine ih found tail fun pair member => ?_
    exact (List.mem_append.mp member).elim (added pair) (before pair)

/-- The source that the pairs of a mapping give. -/
def sourceOfPairs? (document : Document) (depth : Nat) (kind : Option String)
    (sofar : List (Tree × Tree)) (followed : Nat) (pairs : List (Node × Node)) :
    Option (TokenSource × Nat) :=
  (document.sourcePairs? depth kind sofar followed pairs).bind fun read =>
    read.1.bind fun kind =>
      (TokenSource.ofFields? kind (.byName read.2.1)).map fun source => (source, read.2.2)

theorem sourceOfPairs?_default {owner name : String} {index : Nat} {tree : Tree}
    {before after : List (Node × Node)} {key value : Node}
    (default : TokenSource.DefaultMember owner name index tree)
    (key_is : document.IsTree key (.string name)) (value_is : document.IsTree value tree)
    (leavesOut : document.LeavesOut name index (before ++ after))
    (depth : Nat) (kind : Option String) {sofar : List (Tree × Tree)}
    (sofarLeavesOut : SourceFields.LeavesOut name index sofar) (followed : Nat) :
    document.sourceOfPairs? (depth + 1) kind sofar followed (before ++ (key, value) :: after) =
      document.sourceOfPairs? (depth + 1) kind sofar followed (before ++ after) := by
  induction before generalizing kind sofar followed with
  | nil =>
    have added : document.sourcePair? (depth + 1) kind followed (key, value) =
        some (kind, [(.string name, tree)], followed) := by
      rw [sourcePair?, key_is, Option.bind_some, value_is]
      cases default <;> rfl
    rw [List.nil_append] at leavesOut
    rw [List.nil_append, List.nil_append, sourceOfPairs?, sourceOfPairs?, sourcePairs?_cons, added,
      Option.bind_some, sourcePairs?_sofar, sourcePairs?_sofar _ _ sofar]
    cases found : document.sourcePairs? (depth + 1) kind [] followed after with
    | none => rfl
    | some read =>
      have later := leavesOut_of_sourcePairs? found leavesOut (.nil name index)
      have around : SourceFields.LeavesOut name index (sofar.reverse ++ read.2.1) := by
        intro pair member
        obtain earlier | follows := List.mem_append.mp member
        · exact sofarLeavesOut pair (List.mem_reverse.mp earlier)
        · exact later pair follows
      simp only [Option.map_some, Option.bind_some, List.singleton_append, List.reverse_cons,
        List.append_assoc, TokenSource.ofFields?_default default around]
  | cons pair rest ih =>
    obtain ⟨head, tail⟩ := List.forall_mem_cons.mp leavesOut
    rw [List.cons_append, List.cons_append, sourceOfPairs?, sourceOfPairs?, sourcePairs?_cons,
      sourcePairs?_cons, Option.bind_assoc, Option.bind_assoc]
    cases found : document.sourcePair? (depth + 1) kind followed pair with
    | none => rfl
    | some read =>
      have added := leavesOut_of_sourcePair? found (List.forall_mem_singleton.mpr head)
      refine ih tail read.1 (fun pair member => ?_) read.2.2
      exact (List.mem_append.mp member).elim (added pair) (sofarLeavesOut pair)

private theorem source?_mapping (depth followed : Nat) (tag : Option String)
    (pairs : List (Node × Node)) :
    document.source? depth followed (.mapping tag pairs) =
      if (keptTag? tag).isSome then none
      else document.sourceOfPairs? (depth - 1) none [] followed pairs := by
  rw [source?]
  simp only [follow?, Option.bind_eq_bind, Option.bind_some, Option.pure_def, sourceOfPairs?,
    Option.map_eq_bind]
  rfl

private theorem source?_sequence (depth followed : Nat) (tag : Option String) (first : Node)
    (items : List Node) :
    document.source? depth followed (.sequence tag (first :: items)) =
      if (keptTag? tag).isSome then none
      else
        (document.text? followed first).bind fun kind =>
          (readEach? (document.untagged? (depth - 1)) kind.2 items).bind fun read =>
            (TokenSource.ofFields? kind.1 (.inOrder read.1)).map
              fun source => (source, read.2) := by
  rw [source?]
  simp only [follow?, Option.bind_eq_bind, Option.bind_some, Option.pure_def,
    Option.map_eq_bind]
  rfl

end Yaml.Document

/-- Reading goes on where the items before have been read. -/
theorem Yaml.readEach?_append {α β : Type} (read? : Nat → α → Option (β × Nat)) (followed : Nat)
    (items more : List α) :
    readEach? read? followed (items ++ more) =
      (readEach? read? followed items).bind fun read =>
        (readEach? read? read.2 more).map fun rest => (read.1 ++ rest.1, rest.2) := by
  induction items generalizing followed with
  | nil =>
    rw [List.nil_append, readEach?, Option.bind_some]
    exact (Option.map_id' ..).symm
  | cons item rest ih =>
    simp only [List.cons_append, readEach?, ih, Option.bind_eq_bind, Option.pure_def,
      Option.bind_assoc, Option.bind_some, Option.map_eq_bind]
    rfl

private theorem Yaml.length_of_readEach? {α β : Type} {read? : Nat → α → Option (β × Nat)}
    {followed : Nat}
    {items : List α} {read : List β × Nat} (found : readEach? read? followed items = some read) :
    read.1.length = items.length := by
  induction items generalizing followed read with
  | nil =>
    obtain rfl := Option.some.inj found
    rfl
  | cons item rest ih =>
    obtain ⟨first, -, found⟩ := Option.bind_eq_some_iff.mp found
    obtain ⟨others, later, found⟩ := Option.bind_eq_some_iff.mp found
    obtain rfl := Option.some.inj found
    rw [List.length_cons, List.length_cons, ih later]

namespace Yaml.Document

variable {document : Document}

theorem WritesSource.source?_eq {short long : Node} (writes : document.WritesSource short long)
    (depth followed : Nat) :
    document.source? (depth + 2) followed long = document.source? (depth + 2) followed short := by
  cases writes with
  | named default key_is value_is leavesOut =>
    rw [source?_mapping, source?_mapping]
    exact if_congr Iff.rfl rfl
      (sourceOfPairs?_default default key_is value_is leavesOut depth none (List.forall_mem_nil _)
        followed)
  | @listed kind name index tree tag first value items default kind_is value_is reached =>
    rw [List.cons_append, source?_sequence, source?_sequence]
    refine if_congr Iff.rfl rfl (Option.bind_congr fun read found => ?_)
    obtain ⟨written, followed⟩ := read
    obtain rfl := kind_is _ _ found
    rw [readEach?_append, Option.bind_assoc]
    refine Option.bind_congr fun read found => ?_
    have count : read.1.length = index := (length_of_readEach? found).trans reached
    have last : readEach? (document.untagged? (depth + 1)) read.2 [value] =
        some ([tree], read.2) := by
      rw [readEach?, value_is]
      rfl
    rw [Nat.add_sub_cancel (depth + 1) 1, last, Option.map_some, Option.bind_some,
      TokenSource.ofFields?_default_inOrder default count]

/-- An anchor in front of a collection makes no difference to its reading. -/
theorem Anchored.source?_eq {short long : Node}
    (writes : Anchored document.WritesSource short long) (depth followed : Nat) :
    document.source? (depth + 2) followed long = document.source? (depth + 2) followed short := by
  cases writes with
  | plain here => exact here.source?_eq depth followed
  | anchored number here =>
    have same := here.source?_eq depth followed
    cases here <;> exact same

private theorem addSources?_congr {depth : Nat} {short long : Node}
    (same : ∀ followed,
      document.source? depth followed long = document.source? depth followed short)
    (sources : Dictionary TokenSource) (followed : Nat) (name : Node)
    (before after : List (Node × Node)) :
    document.addSources? depth sources followed (before ++ (name, long) :: after) =
      document.addSources? depth sources followed (before ++ (name, short) :: after) := by
  induction before generalizing sources followed with
  | nil => simp only [List.nil_append, addSources?, same]
  | cons pair rest ih => simp only [List.cons_append, addSources?, ih]

theorem WritesToken.sources?_eq {short long : Node} (writes : document.WritesToken short long)
    (depth followed : Nat) :
    document.sources? (depth + 3) followed long = document.sources? (depth + 3) followed short := by
  cases writes with
  | token source =>
    exact addSources?_congr (source.source?_eq depth) .empty followed ..

theorem Anchored.sources?_eq {short long : Node}
    (writes : Anchored document.WritesToken short long) (depth followed : Nat) :
    document.sources? (depth + 3) followed long = document.sources? (depth + 3) followed short := by
  cases writes with
  | plain here => exact here.sources?_eq depth followed
  | anchored number here =>
    have same := here.sources?_eq depth followed
    cases here
    exact same

end Yaml.Document

/-! ### Configurations -/

namespace ConfigFields

/-- The fields with the default of one of them filled in, unless it is there. -/
def complete (fields : ConfigFields) : String → ConfigFields
  | "strict" => { fields with strict := fields.strict.or (some false) }
  | "case_sensitive" => { fields with caseSensitive := fields.caseSensitive.or (some true) }
  | "wildcard_settings" =>
    { fields with wildcardSettings := fields.wildcardSettings.or (some false) }
  | "tokens" => { fields with tokens := fields.tokens.or (some .empty) }
  | _ => fields

/-- A field is not there. -/
def Lacks (fields : ConfigFields) : String → Prop
  | "strict" => fields.strict = Option.none
  | "case_sensitive" => fields.caseSensitive = Option.none
  | "wildcard_settings" => fields.wildcardSettings = Option.none
  | "tokens" => fields.tokens = Option.none
  | _ => True

private theorem toConfig_complete (fields : ConfigFields) (name : String) :
    (fields.complete name).toConfig = fields.toConfig := by
  unfold complete
  split <;> simp [toConfig, TokenConfig.default]

private theorem lacks_none (name : String) : none.Lacks name := by
  unfold Lacks
  split <;> trivial

end ConfigFields

namespace Yaml.Document

variable {document : Document} {name : String}

/-- The other fields are read without regard to one that is filled in. -/
private theorem field?_complete {other : String} (apart : other ≠ name) (depth : Nat)
    (fields : ConfigFields) (followed : Nat) (value : Node) :
    document.field? depth (fields.complete name) other followed value =
      (document.field? depth fields other followed value).map fun read =>
        (read.1.complete name, read.2) := by
  unfold ConfigFields.complete
  split
  case h_5 => exact (Option.map_id' ..).symm
  all_goals
    unfold field?
    split <;> first | contradiction | rfl | rw [apply_ite (Option.map _), Option.map_map]; rfl

private theorem lacks_of_field? {other : String} (apart : other ≠ name) {depth followed : Nat}
    {fields : ConfigFields} {value : Node} {read : ConfigFields × Nat}
    (found : document.field? depth fields other followed value = some read)
    (lacks : fields.Lacks name) : read.1.Lacks name := by
  unfold field? at found
  split at found
  case h_5 =>
    obtain rfl := Option.some.inj found
    exact lacks
  all_goals
    split at found
    case isTrue => cases found
    case isFalse =>
      obtain ⟨value, -, rfl⟩ := Option.map_eq_some_iff.mp found
      unfold ConfigFields.Lacks at *
      split <;> first | contradiction | exact lacks | trivial

private theorem configFields?_complete {pairs : List (Node × Node)}
    (unnamed : document.Unnamed name pairs)
    (depth : Nat) (fields : ConfigFields) (followed : Nat) :
    document.configFields? depth (fields.complete name) followed pairs =
      (document.configFields? depth fields followed pairs).map (·.complete name) := by
  induction pairs generalizing fields followed with
  | nil => rfl
  | cons pair rest ih =>
    obtain ⟨head, tail⟩ := List.forall_mem_cons.mp unnamed
    rw [configFields?_cons, configFields?_cons, Option.map_bind]
    refine Option.bind_congr fun read found => ?_
    rw [field?_complete (head followed read found), Option.bind_map, Function.comp_apply,
      Option.map_bind]
    exact Option.bind_congr fun field _ => ih tail field.1 field.2

theorem WritesField.field?_eq {value : Node} (default : document.WritesField name value)
    (depth : Nat) {fields : ConfigFields} (lacks : fields.Lacks name) (followed : Nat) :
    document.field? depth fields name followed value = some (fields.complete name, followed) := by
  cases default with
  | strict reads =>
    have missing : fields.strict = none := lacks
    simp [field?, ConfigFields.complete, missing, reads]
  | caseSensitive reads =>
    have missing : fields.caseSensitive = none := lacks
    simp [field?, ConfigFields.complete, missing, reads]
  | wildcardSettings reads =>
    have missing : fields.wildcardSettings = none := lacks
    simp [field?, ConfigFields.complete, missing, reads]
  | tokens reads =>
    have missing : fields.tokens = none := lacks
    simp [field?, ConfigFields.complete, missing, reads]

/-- One more pair, for a field that no other pair names, fills that field in. -/
theorem configFields?_default {key value : Node} {before after : List (Node × Node)}
    (default : document.WritesField name value) (key_is : document.IsText key name)
    (unnamed : document.Unnamed name (before ++ after)) (depth : Nat) {fields : ConfigFields}
    (lacks : fields.Lacks name) (followed : Nat) :
    document.configFields? depth fields followed (before ++ (key, value) :: after) =
      (document.configFields? depth fields followed (before ++ after)).map (·.complete name) := by
  induction before generalizing fields followed with
  | nil =>
    rw [List.nil_append] at unnamed
    rw [List.nil_append, List.nil_append, configFields?_cons, key_is, Option.bind_some,
      default.field?_eq depth lacks, Option.bind_some, configFields?_complete unnamed]
  | cons pair rest ih =>
    obtain ⟨head, tail⟩ := List.forall_mem_cons.mp unnamed
    rw [List.cons_append, List.cons_append, configFields?_cons, configFields?_cons,
      Option.map_bind]
    refine Option.bind_congr fun read found => ?_
    rw [Function.comp_apply, Option.map_bind]
    refine Option.bind_congr fun field given => ?_
    exact ih tail (lacks_of_field? (head followed read found) given lacks) field.2

private theorem configFields?_congr {depth : Nat} {key short long : Node}
    (same : ∀ fields name followed,
      document.field? depth fields name followed long =
        document.field? depth fields name followed short)
    (fields : ConfigFields) (followed : Nat) (before after : List (Node × Node)) :
    document.configFields? depth fields followed (before ++ (key, long) :: after) =
      document.configFields? depth fields followed (before ++ (key, short) :: after) := by
  induction before generalizing fields followed with
  | nil => simp only [List.nil_append, configFields?_cons, same]
  | cons pair rest ih =>
    obtain ⟨name, value⟩ := pair
    simp only [List.cons_append, configFields?_cons, ih]

/-- Where the tokens do not stand, neither their old nor their new text can be read. -/
theorem Anchored.field?_eq {short long : Node} (writes : Anchored document.WritesToken short long)
    (depth : Nat) (fields : ConfigFields) (name : String) (followed : Nat) :
    document.field? (depth + 3) fields name followed long =
      document.field? (depth + 3) fields name followed short := by
  have sources := writes.sources?_eq depth followed
  have bool : document.bool? followed long = document.bool? followed short := by
    cases writes with
    | plain here => cases here; rfl
    | anchored number here => cases here; rfl
  simp only [field?, sources, bool]

private theorem config?_mapping (tag : Option String) (pairs : List (Node × Node)) :
    document.config? (.mapping tag pairs) =
      (document.configFields? (depthLimit - 1) .none 0 pairs).map ConfigFields.toConfig := by
  rw [config?, Option.map_eq_bind]
  rfl

private theorem config?_of_isAbsent {tag : Option String} {style : ScalarStyle} {text : String}
    (absent : isAbsent (.scalar tag style text) = true) :
    document.config? (.scalar tag style text) = some TokenConfig.default := by
  rw [config?]
  simp only [follow?, Option.bind_eq_bind, Option.bind_some, absent, if_true, Option.pure_def]

theorem WritesConfig.config?_eq {short long : Node} (writes : document.WritesConfig short long) :
    document.config? long = document.config? short := by
  cases writes with
  | empty absent =>
    rw [config?_of_isAbsent absent, config?_mapping]
    rfl
  | field default key_is unnamed =>
    rw [config?_mapping, config?_mapping,
      configFields?_default default key_is unnamed _ (ConfigFields.lacks_none _), Option.map_map]
    refine congrArg (Option.map · _) (funext fun fields => ?_)
    exact ConfigFields.toConfig_complete fields _
  | source tokens =>
    rw [config?_mapping, config?_mapping]
    exact congrArg _ (configFields?_congr (tokens.field?_eq (depthLimit - 4)) .none 0 ..)

theorem Anchored.config?_eq {short long : Node}
    (writes : Anchored document.WritesConfig short long) :
    document.config? long = document.config? short := by
  cases writes with
  | plain here => exact here.config?_eq
  | anchored number here =>
    have same := here.config?_eq
    cases here <;> exact same

end Yaml.Document

end Stencil
