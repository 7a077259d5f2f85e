import BatchExec.Proofs.Grouping
import BatchExec.Proofs.Literal
import BatchExec.Proofs.Program

/-!
# Checked configurations

What the checks of settings accept, every later part of a run accepts as well: the schedules, the
reading of items, the grouping into batches, and the making of command lines. So what is wrong with
a configuration is reported before anything is read.

* `Reading.inPieces`: reads the pieces of an input, however it is divided.
* `Settings.Describes`: a configuration with the values of settings.
* `Config.Ready`: no later part turns a configuration down.
* `Settings.ready_of_validate`: **an accepted configuration is ready.**
* `CommandLine.Settled`: the program does not look at anything but its environment.
* `CommandLine.accepted_ready_or_refused`: **a configuration is ready, or refused unread.**
-/

namespace BatchExec

/-! ## Reading in pieces -/

namespace Reading

/-- Reads items from the pieces of an input, lines or chunks of any size. -/
def inPieces (mode : InputMode) (delimiter eof : Option Text) (pieces : List Text) (unread : Text) :
    Except ItemError Reading :=
  match mode, delimiter with
  | .whitespace, _ => .ok (wordsFrom eof pieces unread)
  | .null, _ => .ok (terminatedFrom [CodePoint.null] [] pieces unread)
  | .delimiter, some separator => .ok (terminatedFrom separator [] pieces unread)
  | .delimiter, none => .error .missingDelimiter

/-- If nothing is wrong at the end, nothing is wrong before. -/
theorem error_take {r : Reading} (sound : r.error = none) (input : Text) (count : Option Nat) :
    (r.take input count).error = none := by
  unfold take
  split
  · exact sound
  · rfl
  · split
    · rfl
    · exact sound

end Reading

/-! ## Ready configurations -/

/-- A configuration has the values of settings, and one for a number that is not set. -/
structure Settings.Describes (s : Settings) (config : Config) : Prop where
  maxArgs : s.maxArgs.getD (.int 1) = .int config.maxArgs
  maxProcs : s.maxProcs.getD (.int 1) = .int config.maxProcs
  command : config.command = s.command
  timeout : config.timeout = s.timeout.bind Seconds.ofValue?
  stopOnError : config.stopOnError = s.stopOnError
  trace : config.trace = s.trace
  inputMode : config.inputMode = s.inputMode
  delimiter : config.delimiter = s.delimiter
  eof : config.eof = s.eof

/-- No later part of a run turns a configuration down. -/
structure Config.Ready (config : Config) : Prop where
  /-- A blocking schedule can be made for it, and it runs. -/
  blocking : ∀ threads source children listener interruption,
    (Scheduler.ofLimit? config.maxProcs config.stopOnError >>= fun scheduler => scheduler.run
      threads listener (Pipeline.launch .blocking config children) (Pipeline.feed config source)
      interruption) = .ok (Pipeline.run threads config source children listener interruption)
  /-- An event-driven schedule can be made for it, and it runs. -/
  events : ∀ source children listener interruption,
    (Tally.ofLimit? config.maxProcs config.stopOnError).map (fun tally =>
      (Stream.initial tally true interruption).run { listener }
        (Pipeline.launch .async config children) true (Pipeline.feed config source)) =
      .ok (Pipeline.runAsync config source children listener interruption)
  /-- Items are read from all pieces, however many are taken. -/
  reads : ∀ pieces unread, ∃ r,
    Reading.inPieces config.inputMode config.delimiter config.eof pieces unread = .ok r ∧
      r.error = none ∧ ∀ input count, (r.take input count).error = none
  /-- The items of an input fail only as reading does. -/
  source : ∀ input breakdown failure,
    (CommandLine.sourceOf config input breakdown).failure = some failure →
      ∃ b ∈ breakdown, failure = b.failure
  /-- Items are grouped into batches, however many are asked for. -/
  batches : ∀ (source : ItemSource) count,
    source.pull? config.maxArgs count = .ok (source.pull config.maxArgs count)
  /-- Each batch is launched with a program, which does not come from the items. -/
  program : ∃ program arguments,
    (Template.ofWords config.command).base = program :: arguments ∧
      ∀ runner children ordinal time (b : Batch),
        (Pipeline.launch runner config children ordinal time b).attempt.map Attempt.argv =
          some (program :: arguments ++ b.items)

namespace Settings

theorem eq_of_checkMaxArgs {value : Option Value} {n : Nat}
    (checked : checkMaxArgs value = .ok n) : value.getD (.int 1) = .int n := by
  unfold checkMaxArgs at checked
  split at checked
  · cases checked
    rfl
  · split at checked
    · contradiction
    · rename_i m large
      cases checked
      exact congrArg Value.int (Int.toNat_of_nonneg (by omega)).symm
  · contradiction

theorem eq_of_checkMaxProcs {value : Option Value} {n : Nat}
    (checked : checkMaxProcs value = .ok n) : value.getD (.int 1) = .int n := by
  unfold checkMaxProcs at checked
  split at checked
  · cases checked
    rfl
  · split at checked
    · contradiction
    · rename_i m natural
      cases checked
      exact congrArg Value.int (Int.toNat_of_nonneg (by omega)).symm
  · contradiction

theorem eq_of_checkTimeout {value : Option Value} {limit : Option Seconds}
    (checked : checkTimeout value = .ok limit) : limit = value.bind Seconds.ofValue? := by
  unfold checkTimeout at checked
  split at checked
  · cases checked
    rfl
  · cases checked
    rfl
  · split at checked
    · contradiction
    · rename_i number
      split at checked
      · contradiction
      · cases checked
        exact number.symm

variable {s : Settings} {config : Config}

theorem describes_of_validate (accepted : s.validate = .ok config) : s.Describes config := by
  obtain ⟨maxArgs, args, accepted⟩ := ok_of_bind accepted
  obtain ⟨maxProcs, procs, accepted⟩ := ok_of_bind accepted
  obtain ⟨timeout, limit, accepted⟩ := ok_of_bind accepted
  obtain ⟨-, -, accepted⟩ := ok_of_bind accepted
  cases accepted
  exact ⟨eq_of_checkMaxArgs (ok_of_mapError args), eq_of_checkMaxProcs (ok_of_mapError procs), rfl,
    eq_of_checkTimeout limit, rfl, rfl, rfl, rfl, rfl⟩

end Settings

namespace Config

variable {config : Config}

/-- A delimiter is there if it is needed, and it is no empty text. -/
theorem exists_inPieces (single : config.inputMode = .delimiter → ∃ c, config.delimiter = some [c])
    (pieces : List Text) (unread : Text) : ∃ r,
      Reading.inPieces config.inputMode config.delimiter config.eof pieces unread = .ok r ∧
        r.error = none := by
  have ended (c : CodePoint) : (Reading.terminatedFrom [c] [] pieces unread).error = none :=
    Reading.error_terminatedFrom (List.cons_ne_nil _ _) _ _ _
  unfold Reading.inPieces
  cases mode : config.inputMode with
  | whitespace => exact ⟨_, rfl, Reading.error_wordsFrom _ _ _⟩
  | null => exact ⟨_, rfl, ended _⟩
  | delimiter =>
    obtain ⟨c, given⟩ := single mode
    rw [given]
    exact ⟨_, rfl, ended c⟩

theorem exists_program (config : Config) : ∃ program arguments,
    (Template.ofWords config.command).base = program :: arguments := by
  unfold Template.ofWords
  split
  · exact ⟨_, _, rfl⟩
  · rename_i some
    exact List.exists_cons_of_ne_nil some

end Config

/-- **An accepted configuration is ready.** -/
theorem Settings.ready_of_validate {s : Settings} {config : Config}
    (accepted : s.validate = .ok config) : config.Ready where
  blocking := fun threads source children listener interruption => by
    rw [Scheduler.ofLimit?, slotBound?_natCast]
    rfl
  events := fun source children listener interruption => by
    rw [Tally.ofLimit?, slotBound?_natCast]
    rfl
  reads := fun pieces unread => by
    obtain ⟨r, read, sound⟩ := Config.exists_inPieces (single_of_validate accepted) pieces unread
    exact ⟨r, read, sound, Reading.error_take sound⟩
  source := fun _ _ _ => CommandLine.failure_sourceOf (single_of_validate accepted)
  batches := fun source count => ItemSource.pull?_of_pos (pos_of_validate accepted) source count
  program := by
    obtain ⟨program, arguments, base⟩ := config.exists_program
    refine ⟨program, arguments, base, fun runner children ordinal time b => ?_⟩
    rw [Pipeline.argv_of_attempt_launch, Template.instantiate, base]

/-! ## Refused configurations -/

namespace CommandLine

/-- What the program does is settled by its command line and its environment: at most it writes to
standard error, and that is the same whatever there is to read. -/
def Settled (environment : Environment) (words : List Text) : Prop :=
  ∃ (ending : ProgramEnd) (stderr : Text), ∀ (w : Surroundings) (breakdown : Option Breakdown),
    w.environment = environment → runUntil w breakdown words = { ending, stderr }

variable {words : List Text} {a : Arguments} {environment : Environment}

theorem exists_runArguments_of_refused {e : ArgumentsError}
    (refused : a.config environment = .error e) (level : Level) :
    ∃ (ending : ProgramEnd) (stderr : Text), ∀ (w : Surroundings) (breakdown : Option Breakdown),
      w.environment = environment → runArguments w breakdown level a = { ending, stderr } := by
  have told {w : Surroundings} (same : w.environment = environment) :
      a.config w.environment = .error e := same ▸ refused
  cases e with
  | escape e =>
    refine ⟨.escape e, [], fun w breakdown same => ?_⟩
    rw [runArguments, told same]
  | delimiterEmpty =>
    refine ⟨.failed delimiterFailure, [], fun w breakdown same => ?_⟩
    rw [runArguments, told same]
  | settings e =>
    cases e with
    | invalid e =>
      refine ⟨.returned ExitStatus.usage.code, errorText level [.printed (message e.message)],
        fun w breakdown same => ?_⟩
      rw [runArguments, told same]
    | unwritable =>
      refine ⟨.failed (.badValue Value.tooManyDigits), [], fun w breakdown same => ?_⟩
      rw [runArguments, told same]
    | timeoutNotNumber value =>
      refine ⟨.failed (.saying "TypeError" (SettingsError.notComparable value)), [],
        fun w breakdown same => ?_⟩
      rw [runArguments, told same]

theorem settled_of_refused (read : Arguments.read words = .ok a) {e : ArgumentsError}
    (refused : a.config environment = .error e) : Settled environment words := by
  cases leveled : a.logLevel with
  | empty =>
    refine ⟨.failed levelFailure, [], fun w breakdown same => ?_⟩
    rw [runUntil, read]
    simp only [leveled]
  | given level =>
    obtain ⟨ending, stderr, told⟩ := exists_runArguments_of_refused refused level
    refine ⟨ending, stderr, fun w breakdown same => ?_⟩
    rw [runUntil_of_read read leveled, told w breakdown same]

theorem runUntil_of_invalid (read : Arguments.read words = .ok a) {level : Level}
    (leveled : a.logLevel = .given level) {e : ConfigError}
    {w : Surroundings} (refused : a.config w.environment = .error (.settings (.invalid e)))
    (breakdown : Option Breakdown) : runUntil w breakdown words =
      { ending := .returned 1, stderr := (message e.message ++ "\n").escapeSurrogates } := by
  rw [runUntil_of_read read leveled, runArguments, refused]
  simp only [errorText_printed]
  rfl

/-- **A configuration is ready, or it is refused before anything is read.** What the checks accept
has the values of the settings, and no later part of a run turns it down. If a command line has no
configuration, nothing that could be read matters; what is wrong with a setting is reported. -/
theorem accepted_ready_or_refused :
    (∀ (s : Settings) (config : Config), s.validate = .ok config →
      s.Describes config ∧ config.Ready) ∧
    (∀ (s : Settings) (environment : Environment) (config : Config),
      s.validateIn environment = .ok config → config.Ready) ∧
    ∀ (words : List Text) (a : Arguments) (w : Surroundings), Arguments.read words = .ok a →
      (∀ config, a.config w.environment = .ok config → config.Ready) ∧
      (∀ e, a.config w.environment = .error e → Settled w.environment words) ∧
      ∀ e level, a.config w.environment = .error (.settings (.invalid e)) →
        a.logLevel = .given level → ∀ breakdown, runUntil w breakdown words =
          { ending := .returned 1, stderr := (message e.message ++ "\n").escapeSurrogates } := by
  refine ⟨fun s config accepted => ?_, fun s environment config accepted => ?_,
    fun words a w read => ⟨fun config accepted => ?_, fun e refused => ?_,
      fun e level refused leveled => ?_⟩⟩
  · exact ⟨Settings.describes_of_validate accepted, Settings.ready_of_validate accepted⟩
  · obtain ⟨completed, -, accepted⟩ := ok_of_bind accepted
    exact Settings.ready_of_validate accepted
  · obtain ⟨settings, accepted⟩ := Arguments.exists_validate accepted
    exact Settings.ready_of_validate accepted
  · exact settled_of_refused read refused
  · exact runUntil_of_invalid read leveled refused

/-- Any number of commands at a time, and items that end at semicolons. -/
def semicolons : Settings :=
  { maxProcs := some (.int 0), command := [], inputMode := .delimiter
    delimiter := some [(';' : Char)] }

/-- The settings above are ready; a command line with no argument per batch is refused unread. -/
theorem semicolons_ready : (∃ config, semicolons.validate = .ok config ∧ config.Ready) ∧
    Settled [] ["-n", "0"] := by
  obtain ⟨ready, -, refused⟩ := accepted_ready_or_refused
  have accepted : semicolons.validate = .ok
      { maxProcs := 0, command := [], inputMode := .delimiter, delimiter := some [(';' : Char)] } :=
    rfl
  have read : Arguments.read ["-n", "0"] = .ok { maxArgs := some (.given 0) } := rfl
  obtain ⟨-, settled, -⟩ := refused _ _ { children := fun _ => { lifetime := 0 } } read
  exact ⟨⟨_, accepted, (ready _ _ accepted).2⟩,
    settled (.settings (.invalid (.maxArgsTooSmall 0))) rfl⟩

end CommandLine

end BatchExec
