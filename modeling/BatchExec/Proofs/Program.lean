import BatchExec.Proofs.Attempts
import BatchExec.Proofs.Configuration
import BatchExec.Proofs.Pieces
import BatchExec.Proofs.Pool.Printed
import BatchExec.Proofs.Words

/-!
# What the program returns and reports

The program refuses to begin, or it runs commands on what it reads. Its exit status and its report
follow from what the children did, unless reading on fails on the way.

* `CommandLine.items_brokenSource_prefix`: **a breakdown only cuts the items of an input off.**
* `CommandLine.failure_sourceOf`: **the items of an accepted configuration never fail**, unless
  reading breaks down.
* `CommandLine.Refusal`, `CommandLine.Opens`: the program refuses to begin, or begins.
* `CommandLine.Performs`: what it returns and reports once it has begun.
* `CommandLine.program_ends`: **how the program ends.**
-/

namespace BatchExec

/-! ## Accepted configurations -/

theorem Settings.single_of_checkDelimiter : ∀ {delimiter : Option Text},
    checkDelimiter .delimiter delimiter = .ok () → ∃ c, delimiter = some [c]
  | some [c], _ => ⟨c, rfl⟩
  | none, checked | some [], checked | some (_ :: _ :: _), checked => nomatch checked

/-- The delimiter of an accepted configuration is one character. -/
theorem Settings.single_of_validate {settings : Settings} {config : Config}
    (accepted : settings.validate = .ok config) (mode : config.inputMode = .delimiter) :
    ∃ c, config.delimiter = some [c] := by
  obtain ⟨maxArgs, -, accepted⟩ := ok_of_bind accepted
  obtain ⟨maxProcs, -, accepted⟩ := ok_of_bind accepted
  obtain ⟨timeout, -, accepted⟩ := ok_of_bind accepted
  obtain ⟨checked, fits, accepted⟩ := ok_of_bind accepted
  cases accepted
  have fits := ok_of_mapError fits
  rw [show settings.inputMode = .delimiter from mode] at fits
  exact single_of_checkDelimiter fits

namespace Arguments

variable {a : Arguments} {environment : Environment} {config : Config}

/-- The configuration of a command line is one of settings. -/
theorem exists_validate (accepted : a.config environment = .ok config) :
    ∃ settings : Settings, settings.validate = .ok config := by
  obtain ⟨settings, -, accepted⟩ := ok_of_bind accepted
  obtain ⟨completed, -, accepted⟩ := ok_of_bind (ok_of_mapError accepted)
  exact ⟨completed, accepted⟩

/-- A time limit of a command line is a floating-point number, so it can be set. -/
theorem not_abandons_of_config (accepted : a.config environment = .ok config) :
    ¬ config.Abandons := by
  obtain ⟨settings, asked, accepted⟩ := ok_of_bind accepted
  obtain ⟨settings', completed, accepted⟩ := ok_of_bind (ok_of_mapError accepted)
  obtain ⟨maxArgs, -, completed⟩ := ok_of_bind (ok_of_mapError completed)
  obtain ⟨maxProcs, -, completed⟩ := ok_of_bind completed
  obtain ⟨maxArgs, -, accepted⟩ := ok_of_bind accepted
  obtain ⟨maxProcs, -, accepted⟩ := ok_of_bind accepted
  obtain ⟨timeout, limit, accepted⟩ := ok_of_bind accepted
  obtain ⟨-, -, accepted⟩ := ok_of_bind accepted
  cases completed
  cases accepted
  unfold Arguments.settings at asked
  cases decoded : a.decodedDelimiter with
  | error e =>
    rw [decoded] at asked
    cases asked
  | ok delimiter =>
    rw [decoded] at asked
    cases asked
    rintro ⟨unbounded, -⟩
    dsimp only at limit unbounded
    cases given : a.timeout with
    | none =>
      rw [given] at limit
      cases limit
      contradiction
    | some value =>
      rw [given] at limit
      cases value with
      | empty => cases limit
      | given x =>
        change (if (Seconds.float x).nonpositive then _ else _) = _ at limit
        split at limit <;> cases limit
        contradiction

/-- The delimiter of the configuration of a command line is one character. -/
theorem single_of_config (accepted : a.config environment = .ok config)
    (mode : config.inputMode = .delimiter) : ∃ c, config.delimiter = some [c] := by
  obtain ⟨settings, accepted⟩ := exists_validate accepted
  exact Settings.single_of_validate accepted mode

end Arguments

/-! ## Lines -/

namespace Runner

variable {runner : Runner} {limit : Option Seconds} {trace : Bool} {c : Behaviour} {pid time : Nat}
  {i : Invocation}

theorem opening_plan : (runner.plan limit trace c pid time i).opening =
    runner.opening trace pid i (runner.execute i limit c) := by
  unfold plan
  dsimp only
  split <;> rfl

/-- A launch prints its command line as it starts, if it is traced, and nothing else. -/
theorem display_of_printed {line : Text}
    (printed : .printed line ∈ (runner.plan limit trace c pid time i).opening) :
    trace = true ∧ line = i.display := by
  rw [opening_plan] at printed
  unfold opening at printed
  rcases List.mem_append.mp printed with traced | logged
  · split at traced
    · rename_i asked
      exact ⟨asked, Remark.printed.inj (List.mem_singleton.mp traced)⟩
    · exact absurd traced List.not_mem_nil
  · split at logged <;> simp at logged

theorem silent_plan :
    ∀ remark ∈ (runner.plan limit trace c pid time i).closing, remark.line? = none := by
  intro remark mem
  unfold plan at mem
  dsimp only at mem
  split at mem
  · exact absurd mem List.not_mem_nil
  · rw [List.mem_singleton.mp mem]
    rfl

end Runner

/-- A run prints command lines at most, if it is asked to. -/
theorem Pipeline.traced_of_view {config : Config} {source : ItemSource} {children : Children}
    {threads : Threads} {handler : ResultHandler} {line : Text}
    (printed : line ∈ (view .blocking threads config source children handler {}).history.printed) :
    config.trace = true ∧
      ∃ b, line = ((Template.ofWords config.command).instantiate b).display := by
  obtain ⟨s, hs⟩ :
      ∃ s, s = setting config source children (listener handler) {} .blocking threads := ⟨_, rfl⟩
  have passes : s.Passes (s.pool.run s.threads s.listener s.launch s.feed).pool :=
    (Pool.run_passes _ _ _ _ _).1
  have silent : (s.poolRules True True).launch.EndsSilently := by
    rw [hs]
    exact fun ordinal time b => Runner.silent_plan
  obtain ⟨ordinal, time, b, opening⟩ := Pool.opening_of_printed (Setting.pool_allow s.allow_all) id
    (.inr trivial) silent passes line (hs ▸ printed)
  rw [hs] at opening
  obtain ⟨traced, display⟩ := Runner.display_of_printed opening
  exact ⟨traced, b, display⟩

/-! ## Results -/

namespace Result

variable {r : Result}

/-- Whether the program says something of a result: that the command did not start, or that it ran
too long. -/
def complains (r : Result) : Bool := r.spawnFailed || r.outcome = .timedOut

theorem failed_of_complains (complains : r.complains = true) : r.success = false := by
  unfold Result.complains spawnFailed at complains
  unfold success
  cases outcome : r.outcome <;> simp_all

/-- Nothing is said of a success, so it does not matter whether successes are left out. -/
theorem filterMap_failed {α : Type} (results : List Result) (say : Result → α) :
    (results.filter fun r => !r.success).filterMap
        (fun r => if r.complains then some (say r) else none) =
      (results.filter complains).map say := by
  rw [List.filterMap_filter, ← List.filterMap_eq_map, List.filterMap_filter]
  refine List.filterMap_congr fun r _ => ?_
  cases complains : r.complains with
  | false => simp
  | true => simp [failed_of_complains complains]

theorem Consistent.error_of_complains (consistent : r.Consistent) (complains : r.complains = true) :
    r.error.isSome = true := by
  rw [consistent.error]
  simpa [Result.complains, spawnFailed, or_assoc] using complains

end Result

/-! ## Sources -/

namespace Reading

theorem error_endedFrom (c : CodePoint) (pending : Text) (chunks : List Text) (unread : Text) :
    (endedFrom [c] pending chunks unread).error = none := by
  induction chunks generalizing pending unread with
  | nil => rfl
  | cons chunk later ih =>
    rw [endedFrom, if_neg (List.cons_ne_nil _ _)]
    exact ih _ _

/-- The words of some first lines are the first words. -/
theorem texts_wordsFrom_prefix (eof : Option Text) (lines later : List Text)
    (unread unread' : Text) :
    (wordsFrom eof lines unread).texts <+: (wordsFrom eof (lines ++ later) unread').texts := by
  induction lines generalizing unread unread' with
  | nil => exact List.nil_prefix
  | cons line lines ih =>
    simp only [List.cons_append, wordsFrom]
    split
    · simp only [texts, List.map_map]
      exact List.prefix_rfl
    · rw [texts_prepend, texts_prepend, List.map_map, List.map_map]
      exact (List.prefix_append_right_inj _).mpr (ih _ _)

/-- The items that end in some first chunks are the first items. -/
theorem texts_endedFrom_prefix (separator pending : Text) (chunks later : List Text)
    (unread unread' : Text) :
    (endedFrom separator pending chunks unread).texts <+:
      (terminatedFrom separator pending (chunks ++ later) unread').texts := by
  induction chunks generalizing pending unread unread' with
  | nil => exact List.nil_prefix
  | cons chunk chunks ih =>
    simp only [List.cons_append, endedFrom, terminatedFrom]
    split
    · exact List.prefix_rfl
    · rw [texts_prepend, texts_prepend, List.map_map, List.map_map]
      exact (List.prefix_append_right_inj _).mpr (ih _ _ _)

end Reading

/-- What could be read of an input are its first lines if items are words, and its first chunks if
they are not. -/
def Breakdown.Begins (b : Breakdown) (config : Config) (input : Text) : Prop :=
  match config.inputMode with
  | .whitespace => b.pieces <+: input.lines
  | _ => b.pieces <+: Text.chunks Reading.chunkSize input

namespace CommandLine

/-- **A breakdown only cuts the items of an input off.** -/
theorem items_brokenSource_prefix {config : Config} {input : Text} {b : Breakdown}
    (begins : b.Begins config input) :
    (brokenSource config b).items <+: (itemSource config input).items := by
  unfold Breakdown.Begins at begins
  unfold brokenSource itemSource Config.readItems Reading.inMode endedSource
  cases mode : config.inputMode with
  | whitespace =>
    simp only [mode] at begins
    obtain ⟨later, lines⟩ := begins
    dsimp only
    rw [Reading.words, ← lines]
    exact Reading.texts_wordsFrom_prefix _ _ _ _ _
  | null =>
    simp only [mode] at begins
    obtain ⟨later, chunks⟩ := begins
    dsimp only
    rw [Reading.terminated, ← chunks]
    exact Reading.texts_endedFrom_prefix _ _ _ _ _ _
  | delimiter =>
    simp only [mode] at begins
    obtain ⟨later, chunks⟩ := begins
    cases config.delimiter with
    | none => exact List.nil_prefix
    | some separator =>
      dsimp only
      rw [Reading.terminated, ← chunks]
      exact Reading.texts_endedFrom_prefix _ _ _ _ _ _

section Sources

variable {config : Config}
  (single : config.inputMode = .delimiter → ∃ c, config.delimiter = some [c])
include single

/-- An input that can be read to its end can be divided into items. -/
theorem failure_itemSource (input : Text) : (itemSource config input).failure = none := by
  have ended (c : CodePoint) : (Reading.terminated [c] Reading.chunkSize input).error = none :=
    Reading.error_terminatedFrom (List.cons_ne_nil _ _) _ _ _
  unfold itemSource Config.readItems
  cases mode : config.inputMode with
  | whitespace =>
    exact congrArg (Option.map _) (Reading.error_wordsFrom config.eof input.lines input)
  | null => exact congrArg (Option.map _) (ended CodePoint.null)
  | delimiter =>
    obtain ⟨c, separator⟩ := single mode
    rw [separator]
    exact congrArg (Option.map _) (ended c)

/-- The items of an accepted configuration fail only as reading does. -/
theorem failure_brokenSource {b : Breakdown} {f : Failure}
    (fails : (brokenSource config b).failure = some f) : f = b.failure := by
  have ended (c : CodePoint) (fails : (endedSource [c] b).failure = some f) : f = b.failure := by
    unfold endedSource at fails
    dsimp only at fails
    rw [Reading.error_endedFrom] at fails
    exact (Option.some.inj fails).symm
  unfold brokenSource at fails
  cases mode : config.inputMode with
  | whitespace =>
    simp only [mode] at fails
    split at fails
    · contradiction
    · exact (Option.some.inj fails).symm
  | null =>
    simp only [mode] at fails
    exact ended CodePoint.null fails
  | delimiter =>
    obtain ⟨c, separator⟩ := single mode
    simp only [mode, separator] at fails
    exact ended c fails

/-- **The items of an accepted configuration never fail**, unless reading breaks down. -/
theorem failure_sourceOf {input : Text} {breakdown : Option Breakdown} {f : Failure}
    (fails : (sourceOf config input breakdown).failure = some f) :
    ∃ b ∈ breakdown, f = b.failure := by
  cases breakdown with
  | none =>
    rw [sourceOf, failure_itemSource single] at fails
    contradiction
  | some b => exact ⟨b, rfl, failure_brokenSource single fails⟩

end Sources

/-! ## Reports -/

/-- **One line is reported of each result whose command did not start or ran too long**, in the
order of the results. -/
theorem closingRemarks_eq {s : Summary} (consistent : ∀ x ∈ s.results, x.Consistent) :
    ∃ lines : List Text,
      lines.map some = (s.results.filter Result.complains).map (·.error.map message) ∧
      closingRemarks s =
        lines.map .printed ++ if s.cancelled then [.logged (stoppedRecord s.size)] else [] := by
  obtain ⟨line, hline⟩ : ∃ line : Result → Text, line = fun r => message (r.error.getD "None") :=
    ⟨_, rfl⟩
  refine ⟨(s.results.filter Result.complains).map line, ?_, ?_⟩
  · rw [List.map_map]
    refine List.map_congr_left fun r mem => ?_
    obtain ⟨listed, complains⟩ := List.mem_filter.mp mem
    obtain ⟨reason, error⟩ :=
      Option.isSome_iff_exists.mp ((consistent r listed).error_of_complains complains)
    simp only [Function.comp_apply, hline, error, Option.getD_some, Option.map_some]
  · rw [List.map_map, hline]
    exact congrArg (· ++ _) (Result.filterMap_failed s.results _)

/-! ## The program -/

/-- Why the program does not begin to run commands, in its own words. -/
inductive Refusal (w : Surroundings) (a : Arguments) : Text → Prop where
  /-- The configuration is invalid. -/
  | settings (e : ConfigError)
    (invalid : a.config w.environment = .error (.settings (.invalid e))) : Refusal w a e.message
  /-- There is no library to draw the progress bar that is asked for. -/
  | bar (config : Config) (accepted : a.config w.environment = .ok config)
    (asked : a.progress = true) (missing : w.barLibrary = false) :
    Refusal w a HandlerError.libraryMissing.message
  /-- The system does not open the input. -/
  | input (config : Config) (f : Failure) (accepted : a.config w.environment = .ok config)
    (bar : a.progress = true → w.barLibrary = true) (fails : inputText w a.argFile = .error f)
    (system : f.isSystem = true) : Refusal w a f.text

/-- What the program does once it has begun: this is its run of the commands of a configuration on
the items of a source, and this is its report. -/
structure Performs (level : Level) (overtakes : Prop) (config : Config) (source : ItemSource)
    (children : Pipeline.Children) (v : Pipeline.View) (report : Report) : Prop where
  attempts : report.attempts = v.history.attempts
  /-- On the way it prints command lines at most, if it is asked to. -/
  traced : ∀ line ∈ v.history.printed, config.trace = true ∧
    ∃ b, line = ((Template.ofWords config.command).instantiate b).display
  /-- If reading on fails when a batch more is asked for than there are, it says so. -/
  failed : ∀ f, source.failure = some f →
    (Pipeline.feed config source).batches.length < v.history.requests →
    report.ending = .returned 1 ∧
      report.stderr = errorText level (v.history.remarks v.logger ++ [.printed (message f.text)])
  /-- Otherwise its exit status goes by what it has tried, and it reports the results whose commands
  did not start or ran too long, one line each, in the order of their batches. -/
  ended : (∀ f, source.failure = some f →
      v.history.requests ≤ (Pipeline.feed config source).batches.length) →
    ∃ (s : Summary) (lines : List Text), v.result = .ok s ∧
      TriesFirst overtakes config children (Pipeline.feed config source).batches v.history s ∧
      report.ending = .returned s.exitCode ∧ s.exitCode ∈ [0, 123, 124, 126, 127] ∧
      lines.map some = (s.results.filter Result.complains).map (·.error.map message) ∧
      report.stderr = errorText level (v.history.remarks v.logger ++
        (lines.map .printed ++ if s.cancelled then [.logged (stoppedRecord s.size)] else []))

section

variable {words : List Text} {a : Arguments} {level : Level} {w : Surroundings}
  {breakdown : Option Breakdown}

/-- A program that is refused returns one and does nothing else. -/
theorem runArguments_of_refusal {text : Text} (refusal : Refusal w a text) :
    (runArguments w breakdown level a).ending = .returned 1 ∧
      (runArguments w breakdown level a).attempts = [] ∧
      (runArguments w breakdown level a).stderr = (message text ++ "\n").escapeSurrogates := by
  cases refusal with
  | settings e invalid =>
    rw [runArguments, invalid]
    exact ⟨rfl, rfl, errorText_printed level _⟩
  | bar config accepted asked missing =>
    have shut : (ResultHandler.bar).enter w.barLibrary = .error .libraryMissing := by
      rw [missing]
      rfl
    have report : runArguments w breakdown level a =
        { ending := .returned 1
          stderr := errorText level [.printed (message HandlerError.libraryMissing.message)] } := by
      simp only [runArguments, accepted, runConfig, asked, if_true, shut]
      rfl
    rw [report]
    exact ⟨rfl, rfl, errorText_printed level _⟩
  | input config f accepted bar fails system =>
    have entered :
        (if a.progress then ResultHandler.bar else .silent).enter w.barLibrary = .ok () :=
      enter_handlerOf bar
    have report : runArguments w breakdown level a =
        { ending := .returned 1
          stderr := errorText level [.printed (message f.text)]
          bar := (handlerOf a).barCalls [] [] } := by
      simp only [runArguments, accepted, runConfig, entered, fails, conclude, system, if_true]
      rfl
    rw [report]
    exact ⟨rfl, rfl, errorText_printed level _⟩

/-- A program that has all that it needs performs its run. -/
theorem performs_of_opens (understood : ∀ k, (w.children k).Understood)
    (system : ∀ b ∈ breakdown, b.failure.isSystem = true) {config : Config} {input : Text}
    (opens : Opens w a config input) :
    Performs level (w.threads.overtakes = true) config (sourceOf config input breakdown) w.children
      (viewOf w a config input breakdown) (runArguments w breakdown level a) := by
  have attends := Arguments.not_abandons_of_config opens.accepted
  have single := Arguments.single_of_config opens.accepted
  rw [runArguments_of_opens opens]
  obtain ⟨v, viewed⟩ : ∃ v, v = viewOf w a config input breakdown := ⟨_, rfl⟩
  have report : runItems w level (handlerOf a) config (sourceOf config input breakdown) =
      { ending := (conclude v.result).1
        stderr := errorText level (v.history.remarks v.logger ++ (conclude v.result).2)
        attempts := v.history.attempts
        bar := v.barCalls
        time := v.time } := by
    rw [viewed]
    rfl
  rw [report, ← viewed]
  have ways := Pipeline.view_ends understood attends (sourceOf config input breakdown) w.threads
    (handlerOf a) viewed rfl
  refine ⟨rfl, fun line mem => Pipeline.traced_of_view (viewed ▸ mem), fun f fails late => ?_,
    fun whole => ?_⟩
  · rcases ways with ⟨f', fails', -, result⟩ | ⟨whole, -⟩
    · obtain rfl : f = f' := Option.some.inj (fails.symm.trans fails')
      obtain ⟨b, breaks, same⟩ := failure_sourceOf single fails
      have system : f.isSystem = true := same ▸ system b breaks
      have ends : conclude v.result = (.returned 1, [.printed (message f.text)]) := by
        rw [result]
        simp only [conclude, system, if_true]
        rfl
      rw [ends]
      exact ⟨rfl, rfl⟩
    · exact absurd late (Nat.not_lt.mpr (whole f fails))
  · rcases ways with ⟨f, fails, late, -⟩ | ⟨-, s, result, tries⟩
    · exact absurd late (Nat.not_lt.mpr (whole f fails))
    · obtain ⟨lines, reasons, remarks⟩ := closingRemarks_eq tries.consistent
      refine ⟨s, lines, result, tries, ?_, Status.code_exitOf_mem s.results, reasons, ?_⟩
      · rw [result]
        rfl
      · rw [result, ← remarks]
        rfl

/-- **How the program ends**, if its command line has a configuration or an invalid one, and reading
the input breaks down only by an error of the system. It is refused, or it runs commands and ends as
these call for; only an input that is not opened for another reason ends it with an error that
nobody catches. -/
theorem program_ends (read : Arguments.read words = .ok a) (leveled : a.logLevel = .given level)
    (configured : a.Configured w.environment) (understood : ∀ k, (w.children k).Understood)
    (system : ∀ b ∈ breakdown, b.failure.isSystem = true) :
    (∀ text, Refusal w a text →
      (runUntil w breakdown words).ending = .returned 1 ∧
        (runUntil w breakdown words).attempts = [] ∧
        (runUntil w breakdown words).stderr = (message text ++ "\n").escapeSurrogates) ∧
    (∀ config input, Opens w a config input →
      Performs level (w.threads.overtakes = true) config (sourceOf config input breakdown)
        w.children (viewOf w a config input breakdown) (runUntil w breakdown words) ∧
      ∀ f, (sourceOf config input breakdown).failure = some f → ∃ b ∈ breakdown, f = b.failure) ∧
    ((∃ text, Refusal w a text) ∨ (∃ config input, Opens w a config input) ∨
      ∃ f, inputText w a.argFile = .error f ∧ f.isSystem = false ∧
        (runUntil w breakdown words).ending = .failed f) := by
  rw [runUntil_of_read read leveled]
  refine ⟨fun text refusal => runArguments_of_refusal refusal,
    fun config input opens => ⟨?_, ?_⟩, ?_⟩
  · exact performs_of_opens understood system opens
  · exact fun f => failure_sourceOf (Arguments.single_of_config opens.accepted)
  · rcases configured with ⟨config, accepted⟩ | ⟨e, invalid⟩
    · by_cases bar : a.progress = true → w.barLibrary = true
      · cases found : inputText w a.argFile with
        | ok input => exact .inr (.inl ⟨config, input, accepted, bar, found⟩)
        | error f =>
          cases system : f.isSystem with
          | true => exact .inl ⟨f.text, .input config f accepted bar found system⟩
          | false =>
            have entered :
                (if a.progress then ResultHandler.bar else .silent).enter w.barLibrary = .ok () :=
              enter_handlerOf bar
            refine .inr (.inr ⟨f, rfl, system, ?_⟩)
            simp only [runArguments, accepted, runConfig, entered, found, conclude, system,
              Bool.false_eq_true, if_false]
      · obtain ⟨asked, missing⟩ := Classical.not_imp.mp bar
        exact .inl ⟨_, .bar config accepted asked (eq_false_of_ne_true missing)⟩
    · exact .inl ⟨_, .settings e invalid⟩

/-- The first command fails, the second is not found, and the third takes a while. -/
def threeCommands : Surroundings where
  input := "a b c"
  children
    | 0 => { lifetime := 5, exitCode := 3 }
    | 1 => { lifetime := 0, failure := some (.system Failure.noEntry "No such file or directory") }
    | _ + 2 => { lifetime := 9 }

/-- Of three commands one is not found, which is reported and outweighs the failure of another. -/
theorem threeCommands_ends : ∃ a config, Arguments.read ["-n", "1", "-P", "2", "p"] = .ok a ∧
    Opens threeCommands a config "a b c" ∧
    Performs .warning (threeCommands.threads.overtakes = true) config
      (sourceOf config "a b c" none) threeCommands.children
      (viewOf threeCommands a config "a b c" none)
      (runUntil threeCommands none ["-n", "1", "-P", "2", "p"]) ∧
    (run threeCommands ["-n", "1", "-P", "2", "p"]).ending = .returned 127 := by
  obtain ⟨a, asked⟩ : ∃ a : Arguments,
      a = { maxArgs := some (.given 1), maxProcs := some (.given 2), command := ["p"] } := ⟨_, rfl⟩
  obtain ⟨config, set⟩ : ∃ config : Config,
      config = { maxArgs := 1, maxProcs := 2, command := ["p"] } := ⟨_, rfl⟩
  have read : Arguments.read ["-n", "1", "-P", "2", "p"] = .ok a := by
    rw [asked]
    rfl
  have accepted : a.config threeCommands.environment = .ok config := by
    rw [asked, set]
    rfl
  have understood (k : Nat) : (threeCommands.children k).Understood := by
    intro f fails
    rcases k with _ | _ | k <;> cases fails
    decide
  have opens : Opens threeCommands a config "a b c" := by
    refine ⟨accepted, ?_, ?_⟩ <;> rw [asked]
    · exact nofun
    · rfl
  have leveled : a.logLevel = .given .warning := by rw [asked]
  obtain ⟨-, performs, -⟩ := program_ends read leveled (.inl ⟨config, accepted⟩) understood
    (fun b broken => absurd broken (Option.not_mem_none b))
  exact ⟨a, config, read, opens, (performs config "a b c" opens).1, rfl⟩

/-- A log level that is no level ends the program with an error that nobody catches, although it has
a configuration. -/
theorem level_uncaught : ∃ a config, Arguments.read ["--log-level=--", "x"] = .ok a ∧
    a.config [] = .ok config ∧
    (run { input := "a", children := fun _ => { lifetime := 0 } } ["--log-level=--", "x"]).ending =
      .failed levelFailure :=
  ⟨_, _, rfl, rfl, rfl⟩

end

end CommandLine

end BatchExec
