import BatchExec.CommandLine
import BatchExec.Proofs.Numerals

/-!
# Command lines and their configurations

The escapes of the delimiter are decoded first. Then the settings are checked: the two numbers, the
time limit, and the delimiter.

* `Settings.validateIn_eq`: the checks, one after the other.
* `Arguments.configured_iff`: **which command lines have a configuration**, or an error that says
  why they have none.
* `CommandLine.Opens`: the program has all that it needs to run commands.
* `CommandLine.configuration_reported`: **what becomes of a command line without a configuration.**
-/

namespace BatchExec

/-! ## The checks -/

/-- A value that can be shown is reported. -/
theorem SettingsError.ofInvalid_eq {e : ConfigError} (shown : e.value.showable = true) :
    ofInvalid e = .invalid e := if_pos shown

@[simp]
theorem SettingsError.ofInvalid_ne_timeoutNotNumber (e : ConfigError) (value : Value) :
    ofInvalid e ≠ .timeoutNotNumber value := by
  unfold ofInvalid
  split <;> exact nofun

namespace Settings

/-- The number of arguments and the number of commands at a time in an environment, or what is wrong
with them. -/
def numbers (environment : Environment) (maxArgs maxProcs : Option Value) :
    Except ConfigError (Nat × Nat) := do
  let maxArgs ← fromVariable environment maxArgsVariable "max_args" maxArgs
  let maxProcs ← fromVariable environment maxProcsVariable "max_procs" maxProcs
  pure (← checkMaxArgs maxArgs, ← checkMaxProcs maxProcs)

section

variable {environment : Environment} {name setting : Text} {value : Option Value} {e : ConfigError}

/-- A variable that is no integer can be shown. -/
theorem showable_of_fromVariable (faulty : fromVariable environment name setting value = .error e) :
    e.value.showable = true := by
  unfold fromVariable at faulty
  split at faulty
  · contradiction
  · split at faulty
    · contradiction
    · split at faulty <;> cases faulty
      rfl

/-- A variable brings nothing that cannot be shown. -/
theorem showable_fromVariable (shown : ∀ v ∈ value, v.showable = true) {found : Option Value}
    (taken : fromVariable environment name setting value = .ok found) :
    ∀ v ∈ found, v.showable = true := by
  unfold fromVariable at taken
  split at taken
  · cases taken
    exact shown
  · split at taken
    · cases taken
      exact nofun
    · split at taken <;> cases taken
      rename_i integer
      rintro v ⟨⟩
      exact Text.showable_of_toInt? integer

/-- The value of a field is what its check blames. -/
theorem showable_of_checkMaxArgs (shown : ∀ v ∈ value, v.showable = true)
    (faulty : checkMaxArgs value = .error e) : e.value.showable = true := by
  unfold checkMaxArgs at faulty
  split at faulty
  · contradiction
  · split at faulty <;> cases faulty
    exact shown _ rfl
  · cases faulty
    exact shown _ rfl

theorem showable_of_checkMaxProcs (shown : ∀ v ∈ value, v.showable = true)
    (faulty : checkMaxProcs value = .error e) : e.value.showable = true := by
  unfold checkMaxProcs at faulty
  split at faulty
  · contradiction
  · split at faulty <;> cases faulty
    exact shown _ rfl
  · cases faulty
    exact shown _ rfl

theorem showable_of_checkDelimiter {mode : InputMode} {delimiter : Option Text}
    (faulty : checkDelimiter mode delimiter = .error e) : e.value.showable = true := by
  unfold checkDelimiter at faulty
  split at faulty <;> cases faulty
  · cases delimiter <;> rfl
  · rfl

/-- What is wrong with the numbers can be shown if they can. -/
theorem showable_of_numbers {maxArgs maxProcs : Option Value}
    (args : ∀ v ∈ maxArgs, v.showable = true) (procs : ∀ v ∈ maxProcs, v.showable = true)
    (faulty : numbers environment maxArgs maxProcs = .error e) : e.value.showable = true := by
  unfold numbers at faulty
  dsimp only [bind, Except.bind, pure, Except.pure] at faulty
  cases first : fromVariable environment maxArgsVariable "max_args" maxArgs with
  | error e' =>
    rw [first] at faulty
    cases faulty
    exact showable_of_fromVariable first
  | ok maxArgs' =>
    cases second : fromVariable environment maxProcsVariable "max_procs" maxProcs with
    | error e' =>
      rw [first, second] at faulty
      cases faulty
      exact showable_of_fromVariable second
    | ok maxProcs' =>
      rw [first, second] at faulty
      dsimp only at faulty
      split at faulty
      · rename_i refused
        cases faulty
        exact showable_of_checkMaxArgs (showable_fromVariable args first) refused
      · split at faulty
        · rename_i refused
          cases faulty
          exact showable_of_checkMaxProcs (showable_fromVariable procs second) refused
        · contradiction

end

/-- Settings are checked in this order. -/
theorem validateIn_eq (s : Settings) (environment : Environment) : s.validateIn environment = (do
    let (maxArgs, maxProcs) ← (numbers environment s.maxArgs s.maxProcs).mapError .ofInvalid
    let timeout ← checkTimeout s.timeout
    (checkDelimiter s.inputMode s.delimiter).mapError .ofInvalid
    pure {
      maxArgs, maxProcs, timeout
      command := s.command
      stopOnError := s.stopOnError
      trace := s.trace
      inputMode := s.inputMode
      delimiter := s.delimiter
      eof := s.eof }) := by
  unfold validateIn numbers withEnvironment
  cases args : fromVariable environment maxArgsVariable "max_args" s.maxArgs with
  | error e =>
    exact congrArg Except.error (SettingsError.ofInvalid_eq (showable_of_fromVariable args)).symm
  | ok maxArgs =>
    cases procs : fromVariable environment maxProcsVariable "max_procs" s.maxProcs with
    | error e =>
      exact congrArg Except.error (SettingsError.ofInvalid_eq (showable_of_fromVariable procs)).symm
    | ok maxProcs =>
      dsimp only [bind, Except.bind, pure, Except.pure, mapError_ok]
      unfold validate
      dsimp only [bind, Except.bind]
      cases checkMaxArgs maxArgs with
      | error e => rfl
      | ok n => cases checkMaxProcs maxProcs <;> rfl

/-- A time limit that is no number is reached only if nothing is wrong with the numbers. -/
theorem validateIn_notNumber_iff {s : Settings} {environment : Environment} :
    (∃ value, s.validateIn environment = .error (.timeoutNotNumber value)) ↔
      (∃ value, checkTimeout s.timeout = .error (.timeoutNotNumber value)) ∧
        ∃ both, numbers environment s.maxArgs s.maxProcs = .ok both := by
  rw [validateIn_eq]
  dsimp only [bind, Except.bind, pure, Except.pure]
  cases numbers environment s.maxArgs s.maxProcs with
  | error e => simp
  | ok both =>
    cases checkTimeout s.timeout with
    | error e => simp
    | ok limit => cases checkDelimiter s.inputMode s.delimiter <;> simp

theorem showable_of_checkTimeout {value : Option Value} (shown : ∀ v ∈ value, v.showable = true) :
    checkTimeout value ≠ .error .unwritable := by
  cases value with
  | none => exact nofun
  | some value =>
    have reported (limit : Seconds) (shown : limit.toValue.showable = true) :
        (if limit.nonpositive then .error (.ofInvalid (.timeoutNotPositive limit))
          else .ok (some limit) : Except SettingsError (Option Seconds)) ≠ .error .unwritable := by
      rw [SettingsError.ofInvalid_eq (e := .timeoutNotPositive limit) shown]
      split <;> exact nofun
    cases value with
    | none | text | list => exact nofun
    | int n => exact reported (.int n) (shown (.int n) rfl)
    | float x => exact reported (.float x) rfl
    | bool b => exact reported (.bool b) rfl

/-- What is wrong with settings can be said if their values can be shown. -/
theorem validateIn_ne_unwritable {s : Settings} (args : ∀ v ∈ s.maxArgs, v.showable = true)
    (procs : ∀ v ∈ s.maxProcs, v.showable = true) (limit : ∀ v ∈ s.timeout, v.showable = true)
    (environment : Environment) : s.validateIn environment ≠ .error .unwritable := by
  rw [validateIn_eq]
  dsimp only [bind, Except.bind, pure, Except.pure]
  cases numbers : numbers environment s.maxArgs s.maxProcs with
  | error e =>
    rw [mapError_error, SettingsError.ofInvalid_eq (showable_of_numbers args procs numbers)]
    exact nofun
  | ok both =>
    have said := showable_of_checkTimeout limit
    cases checked : checkTimeout s.timeout with
    | error e =>
      exact fun same => said (checked.trans (congrArg Except.error (Except.error.inj same)))
    | ok limit =>
      cases fits : checkDelimiter s.inputMode s.delimiter with
      | error e =>
        simp only [mapError_ok, mapError_error,
          SettingsError.ofInvalid_eq (showable_of_checkDelimiter fits)]
        exact nofun
      | ok fits => exact nofun

end Settings

/-! ## Command lines -/

namespace Arguments

/-- A delimiter that is put to use is a text, and its escapes can be decoded. -/
def Decodes (a : Arguments) : Prop :=
  a.null = true ∨
    ∀ d ∈ a.delimiter, ∃ text decoded, d = .given text ∧ text.unescape = .ok decoded

/-- A command line has a configuration, or an error of the configuration says why not. -/
def Configured (a : Arguments) (environment : Environment) : Prop :=
  (∃ config, a.config environment = .ok config) ∨
    ∃ e, a.config environment = .error (.settings (.invalid e))

variable {a : Arguments} {environment : Environment}

theorem decodes_iff : a.Decodes ↔ ∃ delimiter, a.decodedDelimiter = .ok delimiter := by
  unfold Decodes decodedDelimiter
  cases a.null with
  | true => exact ⟨fun _ => ⟨none, rfl⟩, fun _ => .inl rfl⟩
  | false =>
    cases a.delimiter with
    | none => simp
    | some d =>
      cases d with
      | empty => simp
      | given text => cases decoded : text.unescape <;> simp [decoded, Except.map]

/-- An error of the configuration does not come from the escapes of a delimiter. -/
theorem decodedDelimiter_ne_settings {error : SettingsError} :
    a.decodedDelimiter ≠ .error (.settings error) := by
  unfold decodedDelimiter
  split
  · exact nofun
  · split
    · rename_i text _
      cases text.unescape <;> exact nofun
    · exact nofun
    · exact nofun

/-- The only time limit of a command line that is no number is an empty list. -/
theorem notNumber_iff {timeout : Option (OptionValue Float)} :
    (∃ value, Settings.checkTimeout (timeout.map (setting .float)) =
      .error (.timeoutNotNumber value)) ↔ timeout = some .empty := by
  cases timeout with
  | none => exact ⟨fun ⟨_, h⟩ => (nomatch h), nofun⟩
  | some limit =>
    cases limit with
    | empty => exact ⟨fun _ => rfl, fun _ => ⟨_, rfl⟩⟩
    | given x =>
      refine ⟨fun ⟨value, h⟩ => ?_, nofun⟩
      change (if (Seconds.float x).nonpositive then _ else _) = _ at h
      split at h <;> cases h

/-- Once the delimiter is decoded, a command line is as good as its settings. -/
theorem config_of_decoded {delimiter : Option Text} (decoded : a.decodedDelimiter = .ok delimiter)
    (environment : Environment) :
    ∃ s : Settings, a.config environment = (s.validateIn environment).mapError .settings ∧
      s.maxArgs = a.maxArgs.map (setting .int) ∧ s.maxProcs = a.maxProcs.map (setting .int) ∧
      s.timeout = a.timeout.map (setting .float) := by
  rw [config, settings, decoded]
  exact ⟨_, rfl, rfl, rfl, rfl⟩

theorem config_of_not_decoded {e : ArgumentsError} (faulty : a.decodedDelimiter = .error e) :
    a.config environment = .error e := by
  rw [config, settings, faulty]
  rfl

/-- What is wrong with the settings of a command line can be said. -/
theorem validateIn_ne_unwritable_of_showable (showable : a.Showable) {s : Settings}
    (args : s.maxArgs = a.maxArgs.map (setting .int))
    (procs : s.maxProcs = a.maxProcs.map (setting .int))
    (limit : s.timeout = a.timeout.map (setting .float)) (environment : Environment) :
    s.validateIn environment ≠ .error .unwritable := by
  refine Settings.validateIn_ne_unwritable ?_ ?_ ?_ environment
  · rw [args]
    cases given : a.maxArgs with
    | none => exact nofun
    | some value =>
      rintro v ⟨⟩
      cases value with
      | empty => rfl
      | given n => exact showable.maxArgs n given
  · rw [procs]
    cases given : a.maxProcs with
    | none => exact nofun
    | some value =>
      rintro v ⟨⟩
      cases value with
      | empty => rfl
      | given n => exact showable.maxProcs n given
  · rw [limit]
    cases a.timeout with
    | none => exact nofun
    | some value =>
      rintro v ⟨⟩
      cases value <;> rfl

/-- **Which command lines have a configuration, or an error that says why not**: the delimiter has
to be a text whose escapes can be decoded, and the time limit has to be a number, unless the numbers
of arguments and of commands at a time are refused before it is looked at. -/
theorem configured_iff (showable : a.Showable) : a.Configured environment ↔
    a.Decodes ∧ (a.timeout = some .empty → ∃ e, Settings.numbers environment
      (a.maxArgs.map (setting .int)) (a.maxProcs.map (setting .int)) = .error e) := by
  rw [decodes_iff, ← notNumber_iff]
  cases decoded : a.decodedDelimiter with
  | error e =>
    refine ⟨fun configured => ?_, fun h => nomatch h.1⟩
    rw [Configured, config_of_not_decoded decoded] at configured
    rcases configured with ⟨config, h⟩ | ⟨refusal, h⟩ <;> cases h
    exact absurd decoded decodedDelimiter_ne_settings
  | ok delimiter =>
    obtain ⟨s, checked, args, procs, limit⟩ := config_of_decoded decoded environment
    have said := validateIn_ne_unwritable_of_showable showable args procs limit environment
    rw [← args, ← procs, ← limit]
    have reached := @Settings.validateIn_notNumber_iff s environment
    have escapes : a.Configured environment ↔
        ¬∃ value, s.validateIn environment = .error (.timeoutNotNumber value) := by
      rw [Configured, checked]
      cases outcome : s.validateIn environment with
      | ok config => simp
      | error e =>
        cases e with
        | unwritable => exact absurd outcome said
        | invalid | timeoutNotNumber => simp
    rw [escapes, reached, not_and]
    refine ⟨fun h => ⟨⟨_, rfl⟩, fun empty => ?_⟩, fun h empty => ?_⟩
    · cases numbers : Settings.numbers environment s.maxArgs s.maxProcs with
      | error e => exact ⟨e, rfl⟩
      | ok both => exact absurd ⟨both, numbers⟩ (h empty)
    · obtain ⟨e, refused⟩ := h.2 empty
      rintro ⟨both, numbers⟩
      rw [refused] at numbers
      cases numbers

end Arguments

/-! ## The program -/

namespace CommandLine

variable {words : List Text} {a : Arguments} {level : Level}

/-- Once the log is set up, the program goes by what its command line asks for. -/
theorem runUntil_of_read (read : Arguments.read words = .ok a) (leveled : a.logLevel = .given level)
    (w : Surroundings) (breakdown : Option Breakdown) :
    runUntil w breakdown words = runArguments w breakdown level a := by
  rw [runUntil, read]
  simp only [leveled]

/-- The program has a configuration and an input, and can draw the progress bar if one is asked for.
-/
structure Opens (w : Surroundings) (a : Arguments) (config : Config) (input : Text) : Prop where
  accepted : a.config w.environment = .ok config
  bar : a.progress = true → w.barLibrary = true
  input : inputText w a.argFile = .ok input

/-- What is done with each result of a command line. -/
def handlerOf (a : Arguments) : ResultHandler := if a.progress then .bar else .silent

/-- The run of the commands of a configuration on an input. -/
def viewOf (w : Surroundings) (a : Arguments) (config : Config) (input : Text)
    (breakdown : Option Breakdown) : Pipeline.View :=
  Pipeline.view .blocking w.threads config (sourceOf config input breakdown) w.children
    (handlerOf a) {}

theorem enter_handlerOf {present : Bool} (bar : a.progress = true → present = true) :
    (handlerOf a).enter present = .ok () := by
  unfold handlerOf
  cases asked : a.progress with
  | false => rfl
  | true => rw [bar asked]; rfl

/-- A program that has all that it needs runs the commands of its configuration. -/
theorem runArguments_of_opens {w : Surroundings} {config : Config} {input : Text}
    (opens : Opens w a config input) (breakdown : Option Breakdown) (level : Level) :
    runArguments w breakdown level a =
      runItems w level (handlerOf a) config (sourceOf config input breakdown) := by
  have entered : (if a.progress then ResultHandler.bar else .silent).enter w.barLibrary = .ok () :=
    enter_handlerOf opens.bar
  simp only [runArguments, opens.accepted, runConfig, entered, opens.input]
  rfl

theorem errorText_printed (level : Level) (line : Text) :
    errorText level [.printed line] = (line ++ "\n").escapeSurrogates := by
  rw [errorText, List.filterMap_cons]
  simp only [visible?, List.filterMap_nil]
  rw [Text.unlines, List.flatMap_singleton]

/-- **What becomes of a command line without a configuration.** Either the program says what is
wrong with the configuration and returns one, or an error that nobody catches ends it; in both cases
it does nothing else. The latter is so only if the delimiter cannot be decoded or the time limit is
no number, and no setting that is looked at earlier is refused. -/
theorem configuration_reported (read : Arguments.read words = .ok a)
    (leveled : a.logLevel = .given level) (w : Surroundings) :
    (a.Configured w.environment ↔
      a.Decodes ∧ (a.timeout = some .empty → ∃ e, Settings.numbers w.environment
        (a.maxArgs.map (Arguments.setting .int)) (a.maxProcs.map (Arguments.setting .int)) =
          .error e)) ∧
    (∀ e, a.config w.environment = .error (.settings (.invalid e)) → run w words =
      { ending := .returned 1, stderr := (message e.message ++ "\n").escapeSurrogates }) ∧
    (¬ a.Configured w.environment →
      ∃ ending, run w words = { ending } ∧ ∀ code, ending ≠ .returned code) := by
  rw [run, runUntil_of_read read leveled]
  have showable := Arguments.showable_of_read read
  refine ⟨Arguments.configured_iff showable, fun e refused => ?_, fun faulty => ?_⟩
  · rw [runArguments, refused]
    simp only [errorText_printed]
    rfl
  · unfold runArguments
    cases outcome : a.config w.environment with
    | ok config => exact absurd (.inl ⟨config, outcome⟩) faulty
    | error e =>
      cases e with
      | escape e => exact ⟨_, rfl, nofun⟩
      | delimiterEmpty => exact ⟨_, rfl, nofun⟩
      | settings e =>
        cases e with
        | invalid e => exact absurd (.inr ⟨e, outcome⟩) faulty
        | unwritable => exact ⟨_, rfl, nofun⟩
        | timeoutNotNumber value => exact ⟨_, rfl, nofun⟩

/-- No argument per command line is too few, and then nobody looks at a limit that is no number. -/
theorem none_too_small : ∃ a, Arguments.read ["-n", "0", "--timeout=--"] = .ok a ∧
    a.logLevel = .given .warning ∧ a.Configured [] ∧
    run { children := fun _ => { lifetime := 0 } } ["-n", "0", "--timeout=--"] =
      { ending := .returned 1, stderr := "cargs: -n 0: too small\n" } := by
  obtain ⟨a, asked⟩ : ∃ a : Arguments, a = { maxArgs := some (.given 0), timeout := some .empty } :=
    ⟨_, rfl⟩
  have read : Arguments.read ["-n", "0", "--timeout=--"] = .ok a := by
    rw [asked]
    rfl
  have leveled : a.logLevel = .given .warning := by rw [asked]
  obtain ⟨configured, reported, -⟩ :=
    configuration_reported read leveled { children := fun _ => { lifetime := 0 } }
  refine ⟨a, read, leveled, configured.mpr ?_, (reported (.maxArgsTooSmall 0) ?_).trans ?_⟩
  · rw [asked]
    exact ⟨.inr nofun, fun _ => ⟨.maxArgsTooSmall 0, rfl⟩⟩
  · rw [asked]
    rfl
  · exact congrArg (Report.mk (.returned 1) [] · [] [] 0) (by decide)

/-- A hexadecimal escape without digits in a delimiter ends the program with an error that nobody
catches. -/
theorem bare_escape_uncaught : ∃ a, Arguments.read ["-d", "\\x"] = .ok a ∧
    a.config [] = .error (.escape ⟨0, 2, .truncated (CodePoint.ofChar 'x') 2⟩) ∧
    ¬ a.Configured [] ∧
    (run { children := fun _ => { lifetime := 0 } } ["-d", "\\x"]).ending =
      .escape ⟨0, 2, .truncated (CodePoint.ofChar 'x') 2⟩ := by
  refine ⟨{ delimiter := some (.given "\\x") }, rfl, rfl, ?_, rfl⟩
  rintro (⟨config, accepted⟩ | ⟨e, refused⟩)
  · cases accepted
  · cases refused

end CommandLine

end BatchExec
