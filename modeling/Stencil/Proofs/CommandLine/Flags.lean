import Stencil.CommandLine.Arguments

/-!
# Giving one more flag

Options are read from left to right, and what was read before matters only to an option that is
given twice. So a flag that is put before all other options is read, and the others mean what they
meant without it, unless it is among them. Wherever a flag was read, the same arguments without it
are read to the same, but for the flag.
-/

set_option autoImplicit false

namespace Stencil.CommandLine

/-- How a flag is written. -/
def Flag.argument : Flag → String
  | strict => "--strict"
  | showTokens => "--show-tokens"

private theorem Flag.ofText_argument (flag : Flag) :
    Argument.ofText flag.argument = .option (.flag flag) none := by
  cases flag <;> rfl

namespace ExpandOptions

def hasFlag (options : ExpandOptions) : Flag → Bool
  | .strict => options.strict
  | .showTokens => options.showTokens

def withFlag (options : ExpandOptions) : Flag → ExpandOptions
  | .strict => { options with strict := true }
  | .showTokens => { options with showTokens := true }

end ExpandOptions

/-! ## Reading one argument -/

/-- What an argument makes of the options given so far and of the option that waits for its value:
reading goes on with others, ends with the options as they are, or stops at once. -/
inductive Turn where
  | on (given : Given) (waiting : Option PathOption)
  | ended
  | help
  | misuse

def Turn.ofAdded : Option Given → Turn
  | some given => .on given none
  | none => .misuse

private theorem Turn.ofAdded_eq_on_iff {added : Option Given} {next : Given}
    {waiting : Option PathOption} :
    Turn.ofAdded added = .on next waiting ↔ added = some next ∧ waiting = none := by
  cases added with
  | none => exact ⟨nofun, nofun⟩
  | some given =>
    simp only [ofAdded, Turn.on.injEq, Option.some.injEq]
    exact and_congr_right fun _ => eq_comm

def turn (given : Given) (waiting : Option PathOption) (text : String) : Turn :=
  match waiting, Argument.ofText text with
  | some option, .operand value => .ofAdded (given.addPath? option value)
  | some _, _ => .misuse
  | none, .endOfOptions => .ended
  | none, .option (.path option) none => .on given (some option)
  | none, .option (.path option) (some value) => .ofAdded (given.addPath? option value)
  | none, .option (.flag flag) none => .ofAdded (given.addFlag? flag)
  | none, .option .help none => .help
  | none, _ => .misuse

/-- Carries on after an argument with the ones that are left. -/
def Turn.read (given : Given) (rest : List String) : Turn → Reading
  | on next waiting => readOptions next waiting rest
  | ended => if rest.isEmpty then .given given else .misuse
  | help => .help
  | misuse => .misuse

private theorem Turn.read_ofAdded (given : Given) (rest : List String) (added : Option Given) :
    (Turn.ofAdded added).read given rest =
      match added with
      | some next => readOptions next none rest
      | none => .misuse := by
  cases added <;> rfl

theorem readOptions_cons (given : Given) (waiting : Option PathOption) (text : String)
    (rest : List String) :
    readOptions given waiting (text :: rest) = (turn given waiting text).read given rest := by
  unfold readOptions turn
  cases waiting with
  | some option =>
    cases Argument.ofText text with
    | operand value => exact (Turn.read_ofAdded given rest _).symm
    | endOfOptions | option | unknown => rfl
  | none =>
    cases Argument.ofText text with
    | option name attached =>
      cases name with
      | path option =>
        cases attached with
        | none => rfl
        | some value => exact (Turn.read_ofAdded given rest _).symm
      | flag flag =>
        cases attached with
        | none => exact (Turn.read_ofAdded given rest _).symm
        | some value => rfl
      | help => cases attached <;> rfl
    | endOfOptions | operand | unknown => rfl

private theorem turn_argument (given : Given) (waiting : Option PathOption) (flag : Flag) :
    turn given waiting flag.argument =
      if waiting.isSome then .misuse else .ofAdded (given.addFlag? flag) := by
  unfold turn
  rw [flag.ofText_argument]
  cases waiting <;> rfl

/-! ## Flags stay -/

variable {flag : Flag}

namespace Given

private theorem addPath?_eq_some_iff {given next : Given} {option : PathOption} {path : String} :
    given.addPath? option path = some next ↔
      (path.isEmpty || (given.paths.lookup option).isSome) = false ∧
        next = { given with paths := (option, path) :: given.paths } := by
  rw [addPath?]
  split
  case isTrue refused => simp only [refused, Bool.true_eq_false, false_and, reduceCtorEq]
  case isFalse taken =>
    rw [Bool.not_eq_true] at taken
    rw [Option.some.injEq, taken]
    exact ⟨fun same => ⟨rfl, same.symm⟩, fun same => same.2.symm⟩

private theorem addFlag?_eq_some_iff {given next : Given} {flag : Flag} :
    given.addFlag? flag = some next ↔
      flag ∉ given.flags ∧ next = { given with flags := flag :: given.flags } := by
  rw [addFlag?]
  split
  case isTrue twice =>
    have member : flag ∈ given.flags := List.contains_iff_mem.mp twice
    simp only [member, not_true, false_and, reduceCtorEq]
  case isFalse once =>
    have fresh : flag ∉ given.flags := fun member => once (List.contains_iff_mem.mpr member)
    rw [Option.some.injEq]
    exact ⟨fun same => ⟨fresh, same.symm⟩, fun same => same.2.symm⟩

private theorem addFlag?_of_mem {given : Given} (member : flag ∈ given.flags) :
    given.addFlag? flag = none := by
  rw [addFlag?, if_pos (List.contains_iff_mem.mpr member)]

end Given

private theorem mem_flags_of_turn {given next : Given} {waiting awaited : Option PathOption}
    {text : String}
    (goesOn : turn given waiting text = .on next awaited) (member : flag ∈ given.flags) :
    flag ∈ next.flags := by
  unfold turn at goesOn
  split at goesOn
  case h_1 | h_5 =>
    obtain ⟨added, -⟩ := Turn.ofAdded_eq_on_iff.mp goesOn
    obtain ⟨-, rfl⟩ := Given.addPath?_eq_some_iff.mp added
    exact member
  case h_4 =>
    cases goesOn
    exact member
  case h_6 other _ =>
    obtain ⟨added, -⟩ := Turn.ofAdded_eq_on_iff.mp goesOn
    obtain ⟨-, rfl⟩ := Given.addFlag?_eq_some_iff.mp added
    exact List.mem_cons_of_mem other member
  all_goals cases goesOn

/-- No flag is ever taken back. -/
private theorem mem_flags_of_readOptions {given last : Given} {waiting : Option PathOption}
    {arguments : List String} (reads : readOptions given waiting arguments = .given last)
    (member : flag ∈ given.flags) : flag ∈ last.flags := by
  induction arguments generalizing given waiting with
  | nil =>
    rw [readOptions] at reads
    split at reads <;> cases reads
    exact member
  | cons text rest ih =>
    rw [readOptions_cons] at reads
    cases turns : turn given waiting text with
    | on next awaited =>
      rw [turns] at reads
      exact ih reads (mem_flags_of_turn turns member)
    | ended =>
      rw [turns, Turn.read] at reads
      split at reads <;> cases reads
      exact member
    | help | misuse =>
      rw [turns] at reads
      cases reads

/-! ## One flag more -/

/-- The same options, but for a flag that the second ones have. -/
structure Given.Gains (flag : Flag) (given gained : Given) : Prop where
  paths : gained.paths = given.paths
  absent : flag ∉ given.flags
  flags : ∀ other, other ∈ gained.flags ↔ other = flag ∨ other ∈ given.flags

/-- An argument makes the same of options that have one flag more, unless it is that flag. -/
inductive Turn.Gains (flag : Flag) : Turn → Turn → Prop where
  | on {given gained : Given} {waiting : Option PathOption}
      (gains : Given.Gains flag given gained) : Gains flag (.on given waiting) (.on gained waiting)
  | met {given : Given} {waiting : Option PathOption} (member : flag ∈ given.flags) :
      Gains flag (.on given waiting) .misuse
  | ended : Gains flag .ended .ended
  | help : Gains flag .help .help
  | misuse : Gains flag .misuse .misuse

/-- So do all arguments, unless that flag is among them. -/
inductive Reading.Gains (flag : Flag) : Reading → Reading → Prop where
  | given {given gained : Given} (gains : Given.Gains flag given gained) :
      Gains flag (.given given) (.given gained)
  | help : Gains flag .help .help
  | misuse {reading : Reading} (met : ∀ last, reading = .given last → flag ∈ last.flags) :
      Gains flag reading .misuse

namespace Given.Gains

variable {given gained : Given}

private theorem of_not_mem (absent : flag ∉ given.flags) :
    Gains flag given { given with flags := flag :: given.flags } :=
  ⟨rfl, absent, fun _ => List.mem_cons⟩

private theorem addPath? (gains : Gains flag given gained) (option : PathOption) (path : String) :
    Turn.Gains flag (.ofAdded (given.addPath? option path))
      (.ofAdded (gained.addPath? option path)) := by
  rw [Given.addPath?, Given.addPath?, gains.paths]
  split
  case isTrue => exact .misuse
  case isFalse => exact .on ⟨rfl, gains.absent, gains.flags⟩

private theorem addFlag? (gains : Gains flag given gained) (other : Flag) :
    Turn.Gains flag (.ofAdded (given.addFlag? other)) (.ofAdded (gained.addFlag? other)) := by
  by_cases known : other ∈ given.flags
  · rw [addFlag?_of_mem known, addFlag?_of_mem ((gains.flags other).mpr (.inr known))]
    exact .misuse
  rw [addFlag?_eq_some_iff.mpr ⟨known, rfl⟩]
  by_cases same : other = flag
  · rw [addFlag?_of_mem ((gains.flags other).mpr (.inl same)), ← same]
    exact .met List.mem_cons_self
  · have unknown : other ∉ gained.flags := fun member =>
      ((gains.flags other).mp member).elim same known
    rw [addFlag?_eq_some_iff.mpr ⟨unknown, rfl⟩]
    refine .on ⟨gains.paths, ?_, ?_⟩
    · exact List.not_mem_cons_of_ne_of_not_mem (Ne.symm same) gains.absent
    · intro sought
      rw [List.mem_cons, List.mem_cons, gains.flags]
      exact or_left_comm

theorem turn (gains : Gains flag given gained) (waiting : Option PathOption) (text : String) :
    Turn.Gains flag (turn given waiting text) (turn gained waiting text) := by
  unfold CommandLine.turn
  split
  case h_1 option value _ => exact gains.addPath? option value
  case h_2 => exact .misuse
  case h_3 => exact .ended
  case h_4 => exact .on gains
  case h_5 option value _ => exact gains.addPath? option value
  case h_6 other _ => exact gains.addFlag? other
  case h_7 => exact .help
  case h_8 => exact .misuse

end Given.Gains

private theorem Turn.Gains.read {left right : Turn} {given gained : Given} {rest : List String}
    (turns : Turn.Gains flag left right) (gains : Given.Gains flag given gained)
    (reads : ∀ {given gained : Given}, Given.Gains flag given gained → ∀ waiting,
      Reading.Gains flag (readOptions given waiting rest) (readOptions gained waiting rest)) :
    Reading.Gains flag (left.read given rest) (right.read gained rest) := by
  cases turns with
  | on gains => exact reads gains _
  | met member => exact .misuse fun _ others => mem_flags_of_readOptions others member
  | ended =>
    cases rest with
    | nil => exact .given gains
    | cons => exact .misuse nofun
  | help => exact .help
  | misuse => exact .misuse nofun

/-- Reading with one flag more gives that flag more, unless it comes up again. -/
theorem Given.Gains.readOptions {given gained : Given} (gains : Given.Gains flag given gained)
    (waiting : Option PathOption) (arguments : List String) :
    Reading.Gains flag (readOptions given waiting arguments)
      (readOptions gained waiting arguments) := by
  induction arguments generalizing given gained waiting with
  | nil =>
    cases waiting with
    | none => exact .given gains
    | some option => exact .misuse nofun
  | cons text rest ih =>
    rw [readOptions_cons, readOptions_cons]
    exact (gains.turn waiting text).read gains ih

/-- Wherever a flag was read, the arguments without it are read to the same, but for the flag. -/
theorem gains_of_readOptions {given : Given} {waiting : Option PathOption}
    {before after : List String} {reading : Reading}
    (reads : readOptions given waiting (before ++ flag.argument :: after) = reading)
    (fine : reading ≠ .misuse) :
    Reading.Gains flag (readOptions given waiting (before ++ after)) reading := by
  induction before generalizing given waiting with
  | nil =>
    -- The flag was taken, so no option waits for a value and the flag is the first of its kind.
    rw [List.nil_append, readOptions_cons, turn_argument] at reads
    cases waiting with
    | some option => exact absurd reads.symm fine
    | none =>
      by_cases member : flag ∈ given.flags
      · rw [Given.addFlag?_of_mem member] at reads
        exact absurd reads.symm fine
      · rw [Given.addFlag?_eq_some_iff.mpr ⟨member, rfl⟩] at reads
        subst reads
        exact (Given.Gains.of_not_mem member).readOptions none after
  | cons text rest ih =>
    rw [List.cons_append, readOptions_cons] at reads ⊢
    cases turns : turn given waiting text with
    | on next awaited =>
      rw [turns] at reads
      exact ih reads
    | ended =>
      rw [turns] at reads
      cases rest <;> exact absurd reads.symm fine
    | help =>
      rw [turns] at reads
      subst reads
      exact .help
    | misuse =>
      rw [turns] at reads
      exact absurd reads.symm fine

/-! ## Requests -/

theorem exists_rest_of_expand {environment : Environment} {arguments : List String}
    {options : ExpandOptions}
    (parsed : Request.ofArguments environment arguments = .expand options) :
    ∃ rest, arguments = "expand" :: rest ∧ expandRequest environment rest = .expand options := by
  unfold Request.ofArguments at parsed
  split at parsed
  case h_1 => cases parsed
  case h_2 rest => exact ⟨rest, rfl, parsed⟩
  case h_3 => split at parsed <;> cases parsed
  case h_4 => cases parsed
  case h_5 => cases parsed
  case h_6 => split at parsed <;> cases parsed

/-- What the options that were read ask for, with the file of the configuration. -/
def Given.options (given : Given) (config : String) : ExpandOptions where
  config := config
  settings := given.paths.lookup .settings
  input := given.paths.lookup .input
  strict := given.flags.contains .strict
  showTokens := given.flags.contains .showTokens

theorem expandRequest_iff {environment : Environment} {rest : List String}
    {options : ExpandOptions} :
    expandRequest environment rest = .expand options ↔
      ∃ given config, readOptions ⟨[], []⟩ none rest = .given given ∧
        (given.paths.lookup .config).or (configVariable? environment) = some config ∧
        config.isEmpty = false ∧ options = given.options config := by
  rw [expandRequest]
  constructor
  · intro parsed
    split at parsed
    case h_1 => cases parsed
    case h_2 => cases parsed
    case h_3 given reads =>
      split at parsed
      case h_1 => cases parsed
      case h_2 config named =>
        split at parsed
        case isTrue => cases parsed
        case isFalse some =>
          cases parsed
          exact ⟨given, config, reads, named, Bool.not_eq_true _ ▸ some, rfl⟩
  · rintro ⟨given, config, reads, named, some, rfl⟩
    simp only [reads, named, some, Bool.false_eq_true, if_false]
    rfl

private theorem Given.hasFlag_options (given : Given) (config : String) (flag : Flag) :
    (given.options config).hasFlag flag = given.flags.contains flag := by
  cases flag <;> rfl

private theorem Given.Gains.options_eq {given gained : Given}
    (gains : Given.Gains flag given gained)
    (config : String) : gained.options config = (given.options config).withFlag flag := by
  have here : gained.flags.contains flag = true :=
    List.contains_iff_mem.mpr ((gains.flags flag).mpr (.inl rfl))
  have elsewhere : ∀ other, other ≠ flag →
      gained.flags.contains other = given.flags.contains other := by
    intro other different
    rw [Bool.eq_iff_iff, List.contains_iff_mem, List.contains_iff_mem, gains.flags]
    exact or_iff_right different
  cases flag with
  | strict =>
    simp only [options, gains.paths, ExpandOptions.withFlag, here, elsewhere .showTokens nofun]
  | showTokens =>
    simp only [options, gains.paths, ExpandOptions.withFlag, here, elsewhere .strict nofun]

/-- An expansion stays one when a flag is put before its options that is not among them. -/
theorem expandRequest_flag {environment : Environment} {rest : List String}
    {options : ExpandOptions} (parsed : expandRequest environment rest = .expand options)
    (absent : options.hasFlag flag = false) :
    expandRequest environment (flag.argument :: rest) = .expand (options.withFlag flag) := by
  obtain ⟨given, config, reads, named, some, rfl⟩ := expandRequest_iff.mp parsed
  rw [Given.hasFlag_options] at absent
  have missing : flag ∉ given.flags := fun member =>
    Bool.false_ne_true (absent.symm.trans (List.contains_iff_mem.mpr member))
  have first : readOptions ⟨[], []⟩ none (flag.argument :: rest) =
      readOptions ⟨[], [flag]⟩ none rest := by
    rw [readOptions_cons, turn_argument]
    rfl
  have gains : Given.Gains flag ⟨[], []⟩ ⟨[], [flag]⟩ := .of_not_mem List.not_mem_nil
  have both := gains.readOptions none rest
  rw [reads, ← first] at both
  cases all : readOptions ⟨[], []⟩ none (flag.argument :: rest) with
  | given gained =>
    rw [all] at both
    cases both with
    | given gains =>
      rw [← gains.options_eq]
      exact expandRequest_iff.mpr ⟨gained, config, all, by rwa [gains.paths], some, rfl⟩
  | help =>
    rw [all] at both
    cases both
  | misuse =>
    rw [all] at both
    cases both with
    | misuse met => exact absurd (met given rfl) missing

/-- Where a flag was read, the expansion without it is one without the flag. -/
theorem exists_expand_of_flag {environment : Environment} {before after : List String}
    {options : ExpandOptions}
    (parsed : expandRequest environment (before ++ flag.argument :: after) = .expand options) :
    ∃ others, expandRequest environment (before ++ after) = .expand others ∧
      others.hasFlag flag = false ∧ options = others.withFlag flag := by
  obtain ⟨gained, config, reads, named, some, rfl⟩ := expandRequest_iff.mp parsed
  have both := gains_of_readOptions reads nofun
  cases all : readOptions ⟨[], []⟩ none (before ++ after) with
  | given given =>
    rw [all] at both
    cases both with
    | given gains =>
      refine ⟨given.options config, ?_, ?_, gains.options_eq config⟩
      · exact expandRequest_iff.mpr ⟨given, config, all, by rwa [← gains.paths], some, rfl⟩
      · rw [Given.hasFlag_options, List.contains_eq_mem, decide_eq_false_iff_not]
        exact gains.absent
  | help | misuse =>
    rw [all] at both
    cases both

private theorem expandRequest_eq_help_iff {environment : Environment} {rest : List String} :
    expandRequest environment rest = .help ↔ readOptions ⟨[], []⟩ none rest = .help := by
  rw [expandRequest]
  constructor
  · intro parsed
    split at parsed
    case h_1 => cases parsed
    case h_2 reads => exact reads
    case h_3 =>
      split at parsed
      case h_1 => cases parsed
      case h_2 => split at parsed <;> cases parsed
  · intro reads
    rw [reads]

theorem expandRequest_ne_version {environment : Environment} {rest : List String} :
    expandRequest environment rest ≠ .version := by
  intro parsed
  rw [expandRequest] at parsed
  split at parsed
  case h_1 => cases parsed
  case h_2 => cases parsed
  case h_3 =>
    split at parsed
    case h_1 => cases parsed
    case h_2 => split at parsed <;> cases parsed

theorem help_of_flag {environment : Environment} {before after : List String}
    (parsed : expandRequest environment (before ++ flag.argument :: after) = .help) :
    expandRequest environment (before ++ after) = .help := by
  have both := gains_of_readOptions (expandRequest_eq_help_iff.mp parsed) nofun
  rw [expandRequest_eq_help_iff]
  cases all : readOptions ⟨[], []⟩ none (before ++ after) with
  | help => rfl
  | given | misuse =>
    rw [all] at both
    cases both

end Stencil.CommandLine
