import Stencil.Proofs.Expansion.SingleToken
import Stencil.Proofs.Settings.Nesting
import Stencil.Proofs.Wiring.Meaning

/-!
# Settings as tokens

Where the settings are open to tokens, the identifier of a token that selects nothing registered is
the dotted name of settings. Expanding such a token gives a setting or the subtree below the name,
and it fails on every name that the settings do not show.
-/

set_option autoImplicit false

namespace Stencil

open Template Template.Grammar

/-! ## The wildcard -/

namespace TokenConfig.Wires

variable {σ : Type} [Situated σ] {config : TokenConfig} {context : WiringContext σ}
  {wired : Wired σ} (wires : Wires config context wired)

include wires

private theorem resolve_of_settings (opened : config.wildcardSettings = true) {token : Token}
    (named : token.key ≠ "") (absent : wired.tokenizer.find? token.key = none) (state : σ) :
    wired.tokenizer.resolve (wired.wildcard.map Wildcard.strategy) token state =
      (textAt token.path (settingsMember context.settings token.key), state) := by
  have settings := evaluateKey_settings context.settings token.isPlain_key token.arguments state
  rw [wires.wildcard, if_pos opened]
  refine (Tokenizer.resolve_of_wildcard named absent _ state).trans ?_
  rw [settings]

end TokenConfig.Wires

theorem Settings.text_toValue (settings : Settings) :
    settings.toValue.text = settings.toValue.json := by
  rw [toValue_eq]
  rfl

private theorem textAt_of_walk {settings : Settings} {token : Token} {value : Value}
    (leads : settings.toValue.walk (Text.segments token.identifier) = .ok value) :
    textAt token.path (settingsMember settings token.key) = .ok value.text := by
  rw [token.segments_identifier, Value.walk] at leads
  rw [settingsMember]
  cases child : settings.toValue.child? token.key with
  | none =>
    rw [child] at leads
    cases leads
  | some member =>
    simp only [child] at leads
    simp only [textAt, leads]

private theorem textAt_of_walk_error {settings : Settings} {token : Token} {blamed : String}
    (misses : settings.toValue.walk (Text.segments token.identifier) = .error blamed) :
    ∃ reason, textAt token.path (settingsMember settings token.key) = .error reason := by
  rw [token.segments_identifier, Value.walk] at misses
  rw [settingsMember]
  cases child : settings.toValue.child? token.key with
  | none => exact ⟨_, rfl⟩
  | some member =>
    simp only [child] at misses
    simp only [textAt, misses]
    exact ⟨_, rfl⟩

/-- Expanding a token whose key selects nothing registered, where the settings are open to tokens.
A shorter setting in front of a dot hides the name. A name that is not hidden stands for its
setting, else for the settings below it, and else for nothing. -/
theorem expand_settings_token {σ : Type} [Situated σ] {config : TokenConfig}
    {context : WiringContext σ} {wired : Wired σ} (built : config.build context = .ok wired)
    (opened : config.wildcardSettings = true) {name : Name} (starts : name.first ≠ '.')
    (unselected : ∀ key ∈ wired.tokenizer.strategies.keys,
      wired.tokenizer.caseRule.selects key name.token.key = false) (state : σ) :
    let settings := context.settings
    let report := (wired.expand name.written state).1
    (settings.Shadowed name.text → report.Failed config.strict name.written) ∧
      (¬ settings.Shadowed name.text →
        (∀ text, settings.get? name.text = some text → report.Replaced text) ∧
        (settings.get? name.text = none → settings.HasBelow name.text →
          report.Replaced (settings.within name.text).toValue.json) ∧
        (settings.get? name.text = none → ¬ settings.HasBelow name.text →
          report.Failed config.strict name.written)) := by
  intro settings report
  have wires := TokenConfig.wires_of_build built
  have named := Name.key_token_ne_empty starts
  have absent := Tokenizer.find?_eq_none_of_unselected unselected
  have resolves := wires.resolve_of_settings opened named absent state
  have replaced : ∀ {value : Value},
      settings.toValue.walk (Text.segments name.text) = .ok value → report.Replaced value.text :=
    fun leads => Tokenizer.replaced_of_resolved
      (resolves.trans (congrArg (·, state) (textAt_of_walk leads)))
  have fails : (∃ blamed, settings.toValue.walk (Text.segments name.text) = .error blamed) →
      report.Failed config.strict name.written := by
    rintro ⟨blamed, misses⟩
    have failing : ∃ reason,
        textAt name.token.path (settingsMember settings name.token.key) = .error reason :=
      textAt_of_walk_error misses
    obtain ⟨reason, failed⟩ := failing
    rw [← wires.strict]
    exact Tokenizer.failed_of_error (resolves.trans (congrArg (·, state) failed))
  have shows := settings.shows_walk name.text
  refine ⟨fun shadowed => fails (shows.exists_error_of_shadowed shadowed), fun visible =>
    ⟨fun text found => ?_, fun absent below => ?_, fun absent nothing => ?_⟩⟩
  · exact replaced (shows.eq_of_setting visible found)
  · rw [← Settings.text_toValue]
    exact replaced (shows.eq_of_below visible absent below)
  · exact fails (shows.exists_error_of_missing absent nothing)

/-- A subtree is written out as a whole, and registered tokens are no part of it. -/
theorem expand_settings_token_subtree :
    let config : TokenConfig :=
      ⟨true, false, true, .ofList [("site", .fixed (.string "main"))]⟩
    let context : WiringContext Surroundings :=
      ⟨⟨.ofList [("a.b", "1"), ("a.c.d", "2")]⟩, .empty, none⟩
    let surroundings : Surroundings := ⟨.empty, .empty, "main", "/", ⟨0, 0⟩⟩
    ∃ wired, config.build context = .ok wired ∧
      (wired.expand "$\x7ba.c\x7d" surroundings).1.Replaced "\x7b\"d\":\"2\"\x7d" := by
  intro config context surroundings
  have built : config.build context =
      .ok ⟨⟨.ofList [("site", .constant (.string "main"))], true, .insensitive⟩,
        some ⟨[context.settings.toValue], true⟩⟩ := by
    rfl
  let name : Name :=
    ⟨'a', ['.', 'c'], by decide,
      List.forall_mem_cons.mpr ⟨by decide, List.forall_mem_singleton.mpr (by decide)⟩, by decide⟩
  have visible : ¬ context.settings.Shadowed name.text := by
    have inside : ¬ (context.settings.within "a").Shadowed "c" :=
      Settings.not_shadowed_of_isPlain _ (by decide)
    have split : name.text = "a" ++ "." ++ "c" := by decide
    rw [split, Settings.shadowed_append_iff context.settings (by decide)]
    rintro (setting | hidden)
    · cases setting
    · exact inside hidden
  have whole := (expand_settings_token built rfl (show name.first ≠ '.' by decide) (by decide)
    surroundings).2 visible
  have below : context.settings.HasBelow name.text := ⟨"d", by decide⟩
  have subtree := whole.2.1 (by decide) below
  have json : (context.settings.within name.text).toValue.json = "\x7b\"d\":\"2\"\x7d" := by
    decide
  rw [json] at subtree
  exact ⟨_, built, subtree⟩

end Stencil
