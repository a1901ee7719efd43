import Stencil.Proofs.Expansion.LetterCase
import Stencil.Proofs.Member.Resolution
import Stencil.Proofs.Wiring.Registration

/-!
# Which configurations can be wired

A configuration is wired when every source can be resolved and no two names collide. Otherwise the
first token, in the order of the bytes of their names, whose source cannot be resolved is blamed,
however many others are at fault as well; names are compared after all sources have been resolved.
-/

set_option autoImplicit false

namespace Stencil

open Registry (resolveProperty_eq_ok_iff resolveProperty_eq_error_iff resolveMethod_eq_ok_iff
  resolveMethod_eq_error_iff)
open Text (EqualUpToCase)

namespace TokenSource

variable {σ : Type}

/-- What a context must have for a source. -/
inductive Resolvable (context : WiringContext σ) : TokenSource → Prop where
  | fixed {value : Value} : Resolvable context (.fixed value)
  | setting {key text : String} (present : context.settings.get? key = some text) :
      Resolvable context (.setting key)
  | environment {name : String} {default? : Option String} :
      Resolvable context (.environment name default?)
  | context {key : String} {handle : Handle} (given : context.storage = some handle) :
      Resolvable context (.context key)
  | property {type name : String} {member : Member σ}
      (exposed : context.members.Exposes type name member) (shape : member.shape = .property) :
      Resolvable context (.property type name)
  | method {type name : String} {parameters : List ParameterKind} {member : Member σ}
      (exposed : context.members.Exposes type name member)
      (shape : member.shape = .method parameters) :
      Resolvable context (.method type name parameters)

/-- The error that tells which token has a source that cannot be resolved, and why. -/
inductive Blamed (context : WiringContext σ) (token : String) :
    TokenSource → WiringError → Prop where
  | setting {key : String} (absent : context.settings.get? key = none) :
      Blamed context token (.setting key) (.missingSetting token key)
  | context {key : String} (absent : context.storage = none) :
      Blamed context token (.context key) (.noStorage token)
  | property {type name : String} {error : ResolutionError}
      (refused : context.members.Refuses type name .property error) :
      Blamed context token (.property type name) (.resolution token error)
  | method {type name : String} {parameters : List ParameterKind} {error : ResolutionError}
      (refused : context.members.Refuses type name (.method parameters) error) :
      Blamed context token (.method type name parameters) (.resolution token error)

private theorem resolvable_or_blamed (context : WiringContext σ) (token : String)
    (source : TokenSource) :
    source.Resolvable context ∨ ∃ error, source.Blamed context token error := by
  cases source with
  | fixed value => exact .inl .fixed
  | setting key =>
    cases found : context.settings.get? key with
    | some text => exact .inl (.setting found)
    | none => exact .inr ⟨_, .setting found⟩
  | environment name default? => exact .inl .environment
  | context key =>
    cases given : context.storage with
    | some handle => exact .inl (.context given)
    | none => exact .inr ⟨_, .context given⟩
  | property type name =>
    cases resolved : context.members.resolveProperty type name with
    | ok computation =>
      obtain ⟨member, exposed, shape, -⟩ := resolveProperty_eq_ok_iff.mp resolved
      exact .inl (.property exposed shape)
    | error error => exact .inr ⟨_, .property (resolveProperty_eq_error_iff.mp resolved)⟩
  | method type name parameters =>
    cases resolved : context.members.resolveMethod type name parameters with
    | ok computation =>
      obtain ⟨member, exposed, shape, -⟩ := resolveMethod_eq_ok_iff.mp resolved
      exact .inl (.method exposed shape)
    | error error => exact .inr ⟨_, .method (resolveMethod_eq_error_iff.mp resolved)⟩

end TokenSource

namespace TokenConfig

variable {σ : Type} {config : TokenConfig} {context : WiringContext σ}

/-- Every source of the configuration can be resolved. -/
def Resolvable (config : TokenConfig) (context : WiringContext σ) : Prop :=
  ∀ token source, config.tokens.get? token = some source → source.Resolvable context

/-- The least token, in the order of bytes, whose source cannot be resolved. -/
structure Culprit (config : TokenConfig) (context : WiringContext σ) (token : String)
    (source : TokenSource) : Prop where
  listed : config.tokens.get? token = some source
  unresolvable : ¬ source.Resolvable context
  least : ∀ other otherSource, config.tokens.get? other = some otherSource →
    Text.bytes other < Text.bytes token → otherSource.Resolvable context

theorem resolvable_iff_entries :
    config.Resolvable context ↔ ∀ entry ∈ config.tokens.entries, entry.2.Resolvable context := by
  constructor
  · rintro resolvable ⟨token, source⟩ among
    exact resolvable token source (config.tokens.ascending.get?_of_mem among)
  · intro resolvable token source listed
    exact resolvable (token, source) (Entries.mem_of_get? listed)

variable [Situated σ]

/-! ## Single sources -/

private theorem strategyOf_of_resolvable {source : TokenSource}
    (resolvable : source.Resolvable context)
    (token : String) : ∃ strategy, strategyOf context token source = .ok strategy := by
  cases resolvable with
  | fixed => exact ⟨_, rfl⟩
  | setting present =>
    simp only [strategyOf, present]
    exact ⟨_, rfl⟩
  | environment => exact ⟨_, rfl⟩
  | context given =>
    simp only [strategyOf, given]
    exact ⟨_, rfl⟩
  | property exposed shape =>
    have resolved := resolveProperty_eq_ok_iff.mpr ⟨_, exposed, shape, rfl⟩
    simp only [strategyOf, resolved]
    exact ⟨_, rfl⟩
  | method exposed shape =>
    have resolved := resolveMethod_eq_ok_iff.mpr ⟨_, exposed, shape, rfl⟩
    simp only [strategyOf, resolved]
    exact ⟨_, rfl⟩

private theorem strategyOf_of_blamed {token : String} {source : TokenSource} {error : WiringError}
    (blamed : source.Blamed context token error) :
    strategyOf context token source = .error error := by
  cases blamed with
  | setting absent => simp only [strategyOf, absent]
  | context absent => simp only [strategyOf, absent]
  | property refused => simp only [strategyOf, resolveProperty_eq_error_iff.mpr refused]
  | method refused => simp only [strategyOf, resolveMethod_eq_error_iff.mpr refused]

theorem exists_strategyOf_iff {token : String} {source : TokenSource} :
    (∃ strategy, strategyOf context token source = .ok strategy) ↔ source.Resolvable context := by
  constructor
  · rintro ⟨strategy, made⟩
    obtain resolvable | ⟨error, blamed⟩ := source.resolvable_or_blamed context token
    · exact resolvable
    · cases made.symm.trans (strategyOf_of_blamed blamed)
  · exact fun resolvable => strategyOf_of_resolvable resolvable token

theorem strategyOf_eq_error_iff {token : String} {source : TokenSource} {error : WiringError} :
    strategyOf context token source = .error error ↔ source.Blamed context token error := by
  constructor
  · intro failed
    obtain resolvable | ⟨other, blamed⟩ := source.resolvable_or_blamed context token
    · obtain ⟨strategy, made⟩ := strategyOf_of_resolvable resolvable token
      cases made.symm.trans failed
    · cases (strategyOf_of_blamed blamed).symm.trans failed
      exact blamed
  · exact strategyOf_of_blamed

private theorem not_resolvable_of_blamed {token : String} {source : TokenSource}
    {error : WiringError}
    (blamed : source.Blamed context token error) : ¬ source.Resolvable context := by
  intro resolvable
  obtain ⟨strategy, made⟩ := strategyOf_of_resolvable resolvable token
  cases made.symm.trans (strategyOf_of_blamed blamed)

/-! ## All sources in turn -/

theorem exists_addStrategies_iff {entries : Entries TokenSource} {start : Strategies σ} :
    (∃ strategies, addStrategies context start entries = .ok strategies) ↔
      ∀ entry ∈ entries, entry.2.Resolvable context := by
  induction entries generalizing start with
  | nil => exact ⟨fun _ => List.forall_mem_nil _, fun _ => ⟨start, rfl⟩⟩
  | cons entry rest ih =>
    obtain ⟨token, source⟩ := entry
    have resolves := @exists_strategyOf_iff σ context _ token source
    rw [List.forall_mem_cons, ← resolves, addStrategies]
    cases strategyOf context token source with
    | error error => simp
    | ok strategy => simp [ih]

/-- A source that is blamed ends the wiring when those before it can be resolved; those after it are
not looked at. -/
private theorem addStrategies_of_cut {before after : Entries TokenSource} {token : String}
    {source : TokenSource} {error : WiringError}
    (resolvable : ∀ entry ∈ before, entry.2.Resolvable context)
    (blamed : source.Blamed context token error) (start : Strategies σ) :
    addStrategies context start (before ++ (token, source) :: after) = .error error := by
  induction before generalizing start with
  | nil => simp only [List.nil_append, addStrategies, strategyOf_of_blamed blamed]
  | cons entry rest ih =>
    obtain ⟨here, later⟩ := List.forall_mem_cons.mp resolvable
    obtain ⟨strategy, made⟩ := strategyOf_of_resolvable here entry.1
    simp only [List.cons_append, addStrategies, made, ih later]

private theorem exists_cut_of_addStrategies {entries : Entries TokenSource} {start : Strategies σ}
    {error : WiringError} (failed : addStrategies context start entries = .error error) :
    ∃ before token source after, entries = before ++ (token, source) :: after ∧
      (∀ entry ∈ before, entry.2.Resolvable context) ∧ source.Blamed context token error := by
  induction entries generalizing start with
  | nil => cases failed
  | cons entry rest ih =>
    obtain ⟨token, source⟩ := entry
    rw [addStrategies] at failed
    split at failed
    case h_1 first refused =>
      cases failed
      exact ⟨[], token, source, rest, rfl, List.forall_mem_nil _,
        strategyOf_eq_error_iff.mp refused⟩
    case h_2 strategy made =>
      obtain ⟨before, other, otherSource, after, rfl, resolvable, blamed⟩ := ih failed
      have here : source.Resolvable context := exists_strategyOf_iff.mp ⟨strategy, made⟩
      exact ⟨(token, source) :: before, other, otherSource, after, rfl,
        List.forall_mem_cons.mpr ⟨here, resolvable⟩, blamed⟩

/-! ## Whole configurations -/

/-- What stands before a cut of the entries has a smaller name, and the other way round. -/
private theorem mem_before_iff_bytes_lt {before after : Entries TokenSource}
    {entry other : String × TokenSource}
    (cut : config.tokens.entries = before ++ entry :: after)
    (among : other ∈ config.tokens.entries) :
    other ∈ before ↔ Text.bytes other.1 < Text.bytes entry.1 := by
  have ascending := List.pairwise_map.mp config.tokens.ascending
  rw [cut] at among ascending
  exact (Text.mem_before_iff ascending among).trans Text.lt_iff_bytes_lt

theorem addStrategies_tokens_eq_error_iff {error : WiringError} :
    addStrategies context .empty config.tokens.entries = .error error ↔
      ∃ token source, config.Culprit context token source ∧ source.Blamed context token error := by
  constructor
  · intro failed
    obtain ⟨before, token, source, after, cut, resolvable, blamed⟩ :=
      exists_cut_of_addStrategies failed
    have among : (token, source) ∈ config.tokens.entries :=
      cut ▸ List.mem_append_right before List.mem_cons_self
    refine ⟨token, source, ⟨?_, not_resolvable_of_blamed blamed, ?_⟩, blamed⟩
    · exact config.tokens.ascending.get?_of_mem among
    · intro other otherSource listed less
      have otherAmong : (other, otherSource) ∈ config.tokens.entries := Entries.mem_of_get? listed
      exact resolvable _ ((mem_before_iff_bytes_lt cut otherAmong).mpr less)
  · rintro ⟨token, source, culprit, blamed⟩
    obtain ⟨before, after, cut⟩ := List.append_of_mem (Entries.mem_of_get? culprit.listed)
    have resolvable : ∀ entry ∈ before, entry.2.Resolvable context := by
      rintro ⟨other, otherSource⟩ member
      have otherAmong : (other, otherSource) ∈ config.tokens.entries :=
        cut ▸ List.mem_append_left _ member
      exact culprit.least other otherSource (config.tokens.ascending.get?_of_mem otherAmong)
        ((mem_before_iff_bytes_lt cut otherAmong).mp member)
    rw [cut]
    exact addStrategies_of_cut resolvable blamed .empty

theorem exists_addStrategies_tokens_iff :
    (∃ strategies, addStrategies context .empty config.tokens.entries = .ok strategies) ↔
      config.Resolvable context :=
  exists_addStrategies_iff.trans resolvable_iff_entries.symm

/-- No two tokens have names that are equal up to case, if case is ignored. -/
def NamesApart (config : TokenConfig) : Prop :=
  config.caseSensitive = false → ∀ first ∈ config.tokens.keys, ∀ second ∈ config.tokens.keys,
    EqualUpToCase first second → first = second

/-- Names are compared when all sources have been resolved. -/
theorem build_of_resolvable (resolvable : config.Resolvable context) :
    (config.NamesApart ∧ ∃ wired, config.build context = .ok wired) ∨
      (config.caseSensitive = false ∧ ∃ first second,
        config.build context = .error (.tokenizer (.collision first second)) ∧
          Clash config.tokens.keys first second) := by
  obtain ⟨strategies, added⟩ := exists_addStrategies_tokens_iff.mpr resolvable
  have names : strategies.keys = config.tokens.keys := (registers_of_added added).keys_eq
  rw [build_of_added added]
  cases mode : config.caseSensitive with
  | true =>
    have rule : config.caseRule = .sensitive := by rw [caseRule, mode, if_pos rfl]
    rw [rule]
    exact .inl ⟨fun insensitive => (Bool.noConfusion (mode.symm.trans insensitive)), _, rfl⟩
  | false =>
    have rule : config.caseRule = .insensitive := by
      simp only [caseRule, mode, Bool.false_eq_true, if_false]
    rw [rule]
    cases built : Tokenizer.build strategies config.strict .insensitive with
    | ok tokenizer =>
      obtain ⟨rfl, apart⟩ := Tokenizer.eq_of_build built
      refine .inl ⟨fun _ first among second amongOther alike => ?_, _, rfl⟩
      rw [← names] at among amongOther
      exact List.inj_on_of_nodup_map (apart rfl) among amongOther (Text.fold_eq_iff.mpr alike)
    | error error =>
      obtain ⟨first, second, rfl, clash⟩ := Tokenizer.clash_of_build built
      exact .inr ⟨rfl, first, second, rfl, names ▸ clash⟩

private theorem not_namesApart_of_clash {first second : String}
    (insensitive : config.caseSensitive = false)
    (clash : Clash config.tokens.keys first second) : ¬ config.NamesApart := by
  intro apart
  have same : first = second :=
    apart insensitive first clash.among second clash.amongOther clash.alike
  exact clash.ne same

/-- Either some source is to blame or all can be resolved. -/
private theorem build_eq_error_or_resolvable (config : TokenConfig) (context : WiringContext σ) :
    (∃ error, config.build context = .error error ∧
        addStrategies context .empty config.tokens.entries = .error error) ∨
      config.Resolvable context := by
  cases added : addStrategies context .empty config.tokens.entries with
  | error error => exact .inl ⟨error, by simp only [build, added], rfl⟩
  | ok strategies => exact .inr (exists_addStrategies_tokens_iff.mp ⟨strategies, added⟩)

theorem exists_build_iff :
    (∃ wired, config.build context = .ok wired) ↔
      config.Resolvable context ∧ config.NamesApart := by
  constructor
  · rintro ⟨wired, built⟩
    obtain ⟨error, failed, -⟩ | resolvable := build_eq_error_or_resolvable config context
    · cases failed.symm.trans built
    · obtain ⟨apart, -⟩ | ⟨-, first, second, failed, -⟩ := build_of_resolvable resolvable
      · exact ⟨resolvable, apart⟩
      · cases failed.symm.trans built
  · rintro ⟨resolvable, apart⟩
    obtain ⟨-, wired, built⟩ | ⟨insensitive, first, second, -, clash⟩ :=
      build_of_resolvable resolvable
    · exact ⟨wired, built⟩
    · exact absurd apart (not_namesApart_of_clash insensitive clash)

theorem build_eq_error_iff {error : WiringError} :
    config.build context = .error error ↔
      (∃ token source, config.Culprit context token source ∧ source.Blamed context token error) ∨
        (config.Resolvable context ∧ config.caseSensitive = false ∧ ∃ first second,
          error = .tokenizer (.collision first second) ∧
            Clash config.tokens.keys first second) := by
  rw [← addStrategies_tokens_eq_error_iff]
  constructor
  · intro failed
    obtain ⟨other, same, added⟩ | resolvable := build_eq_error_or_resolvable config context
    · cases same.symm.trans failed
      exact .inl added
    · obtain ⟨-, wired, built⟩ | ⟨insensitive, first, second, same, clash⟩ :=
        build_of_resolvable resolvable
      · cases built.symm.trans failed
      · cases same.symm.trans failed
        exact .inr ⟨resolvable, insensitive, first, second, rfl, clash⟩
  · rintro (added | ⟨resolvable, insensitive, first, second, rfl, clash⟩)
    · simp only [build, added]
    · obtain ⟨apart, -⟩ | ⟨-, otherFirst, otherSecond, failed, other⟩ :=
        build_of_resolvable resolvable
      · exact absurd apart (not_namesApart_of_clash insensitive clash)
      · obtain ⟨rfl, rfl⟩ := clash.unique other
        exact failed

/-- A configuration is wired exactly when every source can be resolved and no two names collide.
Otherwise the least token whose source cannot be resolved is blamed, and a collision only when there
is no such token. -/
theorem build_exact (config : TokenConfig) (context : WiringContext σ) :
    ((∃ wired, config.build context = .ok wired) ↔
        config.Resolvable context ∧ config.NamesApart) ∧
      (∀ error, config.build context = .error error ↔
        (∃ token source, config.Culprit context token source ∧
          source.Blamed context token error) ∨
        (config.Resolvable context ∧ config.caseSensitive = false ∧ ∃ first second,
          error = .tokenizer (.collision first second) ∧
            Clash config.tokens.keys first second)) ∧
      ∀ wired, config.build context = .ok wired →
        wired.tokenizer.strategies.keys = config.tokens.keys ∧
          (wired.wildcard.isSome = true ↔ config.wildcardSettings = true) := by
  refine ⟨exists_build_iff, fun _ => build_eq_error_iff, ?_⟩
  intro wired built
  have wires := wires_of_build built
  refine ⟨wires.registers.keys_eq, ?_⟩
  rw [wires.wildcard]
  cases config.wildcardSettings <;> simp

-- Three faults at once: `A` and `a` collide, and neither `B` nor `a` can be resolved.
example :
    let tokens : Dictionary TokenSource :=
      .ofList [("a", .setting "k"), ("B", .context "u"), ("A", .fixed .null)]
    let context : WiringContext Surroundings := ⟨.empty, .empty, none⟩
    build ⟨false, false, false, tokens⟩ context = .error (.noStorage "B") := by
  rfl

end TokenConfig

end Stencil
