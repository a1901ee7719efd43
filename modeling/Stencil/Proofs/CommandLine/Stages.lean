import Stencil.CommandLine.Run

/-!
# The stages of a run

What each stage of an expansion may read and how it ends, told by rules apart from the functions
that carry it out. A run completes when every stage does; otherwise it fails at the first stage that
does not, with the error of that stage.
-/

set_option autoImplicit false

namespace Stencil.CommandLine

/-! ## Single stages -/

/-- The file that settings are read from: the one that an option names, else the one that a variable
names, else the default one if it is there, else none at all. -/
inductive SettingsFile (world : World) (options : ExpandOptions) : Option String → Prop where
  | option {path : String} (named : options.settings = some path) :
      SettingsFile world options (some path)
  | environment {path : String} (unnamed : options.settings = none)
      (set : world.fullEnvironment.text? Settings.pathVariable = some path) :
      SettingsFile world options (some path)
  | standard (unnamed : options.settings = none)
      (unset : world.fullEnvironment.text? Settings.pathVariable = none)
      (present : world.files.hasPath Settings.defaultPath = true) :
      SettingsFile world options (some Settings.defaultPath)
  | none (unnamed : options.settings = none)
      (unset : world.fullEnvironment.text? Settings.pathVariable = none)
      (absent : world.files.hasPath Settings.defaultPath = false) :
      SettingsFile world options none

/-- What the file of the settings gives, before any override. -/
inductive Written (world : World) (options : ExpandOptions) :
    Except SettingsError Settings → Prop where
  | file {path : String} {result : Except SettingsError Settings}
      (source : SettingsFile world options (some path))
      (loads : Settings.load world.files path = result) : Written world options result
  | none (source : SettingsFile world options none) : Written world options (.ok .empty)

/-- The settings are those of the file with the overrides of the environment, all of which has to be
text. -/
inductive SettingsStage (world : World) (options : ExpandOptions) :
    Except RunError Settings → Prop where
  | unreadable {error : SettingsError} (fails : Written world options (.error error)) :
      SettingsStage world options (.error (.settings error))
  | notText {settings : Settings} (written : Written world options (.ok settings))
      (fails : world.fullEnvironment.texts? = none) :
      SettingsStage world options (.error .environment)
  | overridden {settings : Settings} {overrides : List (String × String)}
      (written : Written world options (.ok settings))
      (texts : world.fullEnvironment.texts? = some overrides) :
      SettingsStage world options (.ok (settings.withOverrides Settings.overrideStem overrides))

inductive ConfigStage (world : World) (options : ExpandOptions) :
    Except RunError TokenConfig → Prop where
  | unreadable {error : WiringError}
      (fails : TokenConfig.load world.files options.config = .error error) :
      ConfigStage world options (.error (.config error))
  | read {config : TokenConfig} (loads : TokenConfig.load world.files options.config = .ok config) :
      ConfigStage world options (.ok { config with strict := config.strict || options.strict })

/-- What a configuration is wired with: the settings, the built-in members and a storage. -/
def wiringContext (settings : Settings) : WiringContext Surroundings :=
  ⟨settings, Registry.builtin, some runStorage⟩

inductive WiringStage (options : ExpandOptions) (settings : Settings) (config : TokenConfig) :
    Except RunError (Wired Surroundings) → Prop where
  | refused {error : WiringError}
      (fails : config.build (wiringContext settings) = .error error) :
      WiringStage options settings config (.error (.wiring options.config error))
  | built {wired : Wired Surroundings}
      (builds : config.build (wiringContext settings) = .ok wired) :
      WiringStage options settings config (.ok wired)

/-- The template is in the file that an option names, else in the standard input. -/
inductive TemplateStage (world : World) (options : ExpandOptions) :
    Except RunError String → Prop where
  | unreadable {path : String} {fault : FileFault} (named : options.input = some path)
      (fails : world.files.readText path = .error fault) :
      TemplateStage world options (.error (.template (some path) fault))
  | file {path text : String} (named : options.input = some path)
      (reads : world.files.readText path = .ok text) : TemplateStage world options (.ok text)
  | notText (unnamed : options.input = none) (fails : String.fromUTF8? world.input = none) :
      TemplateStage world options (.error (.template none .notUnicode))
  | input {text : String} (unnamed : options.input = none)
      (reads : String.fromUTF8? world.input = some text) : TemplateStage world options (.ok text)

inductive ExpansionStage (world : World) (wired : Wired Surroundings) (template : String) :
    Except RunError Expansion → Prop where
  | failed {error : TokenError}
      (fails : (wired.expand template (surroundings world)).1.result = .error error) :
      ExpansionStage world wired template (.error (.expansion error))
  | expanded {expansion : Expansion}
      (expands : (wired.expand template (surroundings world)).1.result = .ok expansion) :
      ExpansionStage world wired template (.ok expansion)

/-! ## Stages in order -/

inductive Stage where
  | settings
  | config
  | wiring
  | template
  | expansion
deriving DecidableEq, Repr

/-- Every stage succeeds, and the last one gives an expansion. -/
inductive Completes (world : World) (options : ExpandOptions) (expansion : Expansion) : Prop where
  | intro {settings : Settings} {config : TokenConfig} {wired : Wired Surroundings}
      {template : String} (settled : SettingsStage world options (.ok settings))
      (configured : ConfigStage world options (.ok config))
      (built : WiringStage options settings config (.ok wired))
      (supplied : TemplateStage world options (.ok template))
      (expanded : ExpansionStage world wired template (.ok expansion))

/-- A stage fails with an error after every stage before it succeeded. -/
inductive Fails (world : World) (options : ExpandOptions) : Stage → RunError → Prop where
  | settings {error : RunError} (fails : SettingsStage world options (.error error)) :
      Fails world options .settings error
  | config {settings : Settings} {error : RunError}
      (settled : SettingsStage world options (.ok settings))
      (fails : ConfigStage world options (.error error)) : Fails world options .config error
  | wiring {settings : Settings} {config : TokenConfig} {error : RunError}
      (settled : SettingsStage world options (.ok settings))
      (configured : ConfigStage world options (.ok config))
      (fails : WiringStage options settings config (.error error)) :
      Fails world options .wiring error
  | template {settings : Settings} {config : TokenConfig} {wired : Wired Surroundings}
      {error : RunError} (settled : SettingsStage world options (.ok settings))
      (configured : ConfigStage world options (.ok config))
      (built : WiringStage options settings config (.ok wired))
      (fails : TemplateStage world options (.error error)) : Fails world options .template error
  | expansion {settings : Settings} {config : TokenConfig} {wired : Wired Surroundings}
      {template : String} {error : RunError}
      (settled : SettingsStage world options (.ok settings))
      (configured : ConfigStage world options (.ok config))
      (built : WiringStage options settings config (.ok wired))
      (supplied : TemplateStage world options (.ok template))
      (fails : ExpansionStage world wired template (.error error)) :
      Fails world options .expansion error

/-! ## Each function carries out its stage -/

variable {world : World} {options : ExpandOptions}

/-- The settings that are loaded before any override. -/
def loadWritten (world : World) (options : ExpandOptions) : Except SettingsError Settings :=
  match options.settings with
  | some path => Settings.load world.files path
  | none => Settings.loadDefault world.fullEnvironment world.files

theorem written_iff {result : Except SettingsError Settings} :
    Written world options result ↔ loadWritten world options = result := by
  constructor
  · intro written
    cases written with
    | file source loads =>
      cases source with
      | option named =>
        rw [loadWritten, named]
        exact loads
      | environment unnamed set =>
        simp only [loadWritten, unnamed, Settings.loadDefault, set]
        exact loads
      | standard unnamed unset present =>
        simp only [loadWritten, unnamed, Settings.loadDefault, unset, present, if_true]
        exact loads
    | none source =>
      cases source with
      | none unnamed unset absent =>
        simp only [loadWritten, unnamed, Settings.loadDefault, unset, absent, Bool.false_eq_true,
          if_false]
  · intro loads
    cases named : options.settings with
    | some path =>
      rw [loadWritten, named] at loads
      exact .file (.option named) loads
    | none =>
      simp only [loadWritten, named, Settings.loadDefault] at loads
      cases set : world.fullEnvironment.text? Settings.pathVariable with
      | some path =>
        rw [set] at loads
        exact .file (.environment named set) loads
      | none =>
        rw [set] at loads
        cases present : world.files.hasPath Settings.defaultPath with
        | true =>
          simp only [present, if_true] at loads
          exact .file (.standard named set present) loads
        | false =>
          simp only [present, Bool.false_eq_true, if_false] at loads
          subst loads
          exact .none (.none named set present)

theorem settingsStage_iff {result : Except RunError Settings} :
    SettingsStage world options result ↔ readSettings world options = result := by
  have loaded : Settings.loadWithEnvironment options.settings world.fullEnvironment world.files =
      (loadWritten world options).map fun settings =>
        settings.withEnvironment? Settings.overrideStem world.fullEnvironment := rfl
  rw [readSettings, loaded]
  constructor
  · intro ends
    cases ends with
    | unreadable fails =>
      rw [written_iff.mp fails]
      rfl
    | notText written fails =>
      rw [written_iff.mp written]
      simp only [Except.map, Settings.withEnvironment?, fails, Option.map_none]
    | overridden written texts =>
      rw [written_iff.mp written]
      simp only [Except.map, Settings.withEnvironment?, texts, Option.map_some]
  · intro ends
    cases loads : loadWritten world options with
    | error error =>
      rw [loads] at ends
      subst ends
      exact .unreadable (written_iff.mpr loads)
    | ok settings =>
      have written : Written world options (.ok settings) := written_iff.mpr loads
      simp only [loads, Except.map, Settings.withEnvironment?] at ends
      cases texts : world.fullEnvironment.texts? with
      | none =>
        simp only [texts, Option.map_none] at ends
        subst ends
        exact .notText written texts
      | some overrides =>
        simp only [texts, Option.map_some] at ends
        subst ends
        exact .overridden written texts

theorem configStage_iff {result : Except RunError TokenConfig} :
    ConfigStage world options result ↔ readConfig world options = result := by
  constructor
  · intro ends
    cases ends with
    | unreadable fails => rw [readConfig, fails]
    | read loads => rw [readConfig, loads]
  · intro ends
    rw [readConfig] at ends
    cases loads : TokenConfig.load world.files options.config with
    | error error =>
      rw [loads] at ends
      subst ends
      exact .unreadable loads
    | ok config =>
      rw [loads] at ends
      subst ends
      exact .read loads

theorem wiringStage_iff {settings : Settings} {config : TokenConfig}
    {result : Except RunError (Wired Surroundings)} :
    WiringStage options settings config result ↔ wire options settings config = result := by
  have context : wiringContext settings = ⟨settings, Registry.builtin, some runStorage⟩ := rfl
  rw [wire, ← context]
  constructor
  · intro ends
    cases ends with
    | refused fails => rw [fails]
    | built builds => rw [builds]
  · intro ends
    cases builds : config.build (wiringContext settings) with
    | error error =>
      rw [builds] at ends
      subst ends
      exact .refused builds
    | ok wired =>
      rw [builds] at ends
      subst ends
      exact .built builds

theorem templateStage_iff {result : Except RunError String} :
    TemplateStage world options result ↔ readTemplate world options = result := by
  constructor
  · intro ends
    cases ends with
    | unreadable named fails =>
      simp only [readTemplate, named, fails]
      rfl
    | file named reads =>
      simp only [readTemplate, named, reads]
      rfl
    | notText unnamed fails => simp only [readTemplate, unnamed, fails]
    | input unnamed reads => simp only [readTemplate, unnamed, reads]
  · intro ends
    cases named : options.input with
    | some path =>
      simp only [readTemplate, named] at ends
      cases reads : world.files.readText path with
      | error fault =>
        rw [reads] at ends
        subst ends
        exact .unreadable named reads
      | ok text =>
        rw [reads] at ends
        subst ends
        exact .file named reads
    | none =>
      simp only [readTemplate, named] at ends
      cases reads : String.fromUTF8? world.input with
      | none =>
        rw [reads] at ends
        subst ends
        exact .notText named reads
      | some text =>
        rw [reads] at ends
        subst ends
        exact .input named reads

theorem expansionStage_iff {wired : Wired Surroundings} {template : String}
    {result : Except RunError Expansion} :
    ExpansionStage world wired template result ↔
      (wired.expand template (surroundings world)).1.result.mapError .expansion = result := by
  constructor
  · intro ends
    cases ends with
    | failed fails =>
      rw [fails]
      rfl
    | expanded expands =>
      rw [expands]
      rfl
  · intro ends
    cases expands : (wired.expand template (surroundings world)).1.result with
    | error error =>
      rw [expands] at ends
      subst ends
      exact .failed expands
    | ok expansion =>
      rw [expands] at ends
      subst ends
      exact .expanded expands

/-! ## Runs -/

theorem expand_of_completes {expansion : Expansion}
    (completes : Completes world options expansion) : expand world options = .ok expansion := by
  obtain ⟨settled, configured, built, supplied, expanded⟩ := completes
  simp only [expand, settingsStage_iff.mp settled, configStage_iff.mp configured,
    wiringStage_iff.mp built, templateStage_iff.mp supplied, bind, Except.bind]
  exact expansionStage_iff.mp expanded

theorem expand_of_fails {stage : Stage} {error : RunError}
    (fails : Fails world options stage error) : expand world options = .error error := by
  cases fails with
  | settings fails =>
    simp only [expand, settingsStage_iff.mp fails, bind, Except.bind]
  | config settled fails =>
    simp only [expand, settingsStage_iff.mp settled, configStage_iff.mp fails, bind, Except.bind]
  | wiring settled configured fails =>
    simp only [expand, settingsStage_iff.mp settled, configStage_iff.mp configured,
      wiringStage_iff.mp fails, bind, Except.bind]
  | template settled configured built fails =>
    simp only [expand, settingsStage_iff.mp settled, configStage_iff.mp configured,
      wiringStage_iff.mp built, templateStage_iff.mp fails, bind, Except.bind]
  | expansion settled configured built supplied fails =>
    simp only [expand, settingsStage_iff.mp settled, configStage_iff.mp configured,
      wiringStage_iff.mp built, templateStage_iff.mp supplied, bind, Except.bind]
    exact expansionStage_iff.mp fails

/-- Every run completes or fails at some stage. -/
theorem completes_or_fails (world : World) (options : ExpandOptions) :
    (∃ expansion, Completes world options expansion) ∨
      ∃ stage error, Fails world options stage error := by
  obtain ⟨error | settings, settled⟩ : ∃ result, SettingsStage world options result :=
    ⟨_, settingsStage_iff.mpr rfl⟩
  · exact .inr ⟨.settings, error, .settings settled⟩
  obtain ⟨error | config, configured⟩ : ∃ result, ConfigStage world options result :=
    ⟨_, configStage_iff.mpr rfl⟩
  · exact .inr ⟨.config, error, .config settled configured⟩
  obtain ⟨error | wired, built⟩ : ∃ result, WiringStage options settings config result :=
    ⟨_, wiringStage_iff.mpr rfl⟩
  · exact .inr ⟨.wiring, error, .wiring settled configured built⟩
  obtain ⟨error | template, supplied⟩ : ∃ result, TemplateStage world options result :=
    ⟨_, templateStage_iff.mpr rfl⟩
  · exact .inr ⟨.template, error, .template settled configured built supplied⟩
  obtain ⟨error | expansion, expanded⟩ : ∃ result, ExpansionStage world wired template result :=
    ⟨_, expansionStage_iff.mpr rfl⟩
  · exact .inr ⟨.expansion, error, .expansion settled configured built supplied expanded⟩
  · exact .inl ⟨expansion, settled, configured, built, supplied, expanded⟩

theorem completes_iff {expansion : Expansion} :
    Completes world options expansion ↔ expand world options = .ok expansion := by
  refine ⟨expand_of_completes, fun succeeds => ?_⟩
  rcases completes_or_fails world options with ⟨other, completes⟩ | ⟨stage, error, fails⟩
  · obtain rfl : other = expansion :=
      Except.ok.inj ((expand_of_completes completes).symm.trans succeeds)
    exact completes
  · rw [expand_of_fails fails] at succeeds
    cases succeeds

end Stencil.CommandLine
