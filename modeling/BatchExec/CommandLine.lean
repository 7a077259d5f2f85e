import BatchExec.Files
import BatchExec.Items
import BatchExec.Options.Parser
import BatchExec.Pipeline
import BatchExec.Text.Escape

/-!
# The program

* `Arguments.config`: the configuration that a command line asks for.
* `CommandLine.run`: what the program does with a command line in some surroundings.
* `CommandLine.runUntil`: the same if its input cannot be read to the end.
-/

namespace BatchExec

/-- Why a command line has no configuration. -/
inductive ArgumentsError where
  /-- The delimiter has a faulty escape. -/
  | escape (error : EscapeError)
  /-- The delimiter is an empty list. -/
  | delimiterEmpty
  /-- The settings are refused. -/
  | settings (error : SettingsError)
  deriving Repr

namespace Arguments

/-- The delimiter with its escapes decoded, unless items end at null characters. -/
def decodedDelimiter (a : Arguments) : Except ArgumentsError (Option Text) :=
  if a.null then .ok none
  else match a.delimiter with
    | some (.given delimiter) => (delimiter.unescape.map some).mapError .escape
    | some .empty => .error .delimiterEmpty
    | none => .ok none

/-- How a command line wants input to be divided into items. -/
def inputMode (a : Arguments) : InputMode :=
  if a.null then .null else if a.delimiter.isSome then .delimiter else .whitespace

/-- The value of an option as a setting. -/
def setting {α : Type} (ofGiven : α → Value) : OptionValue α → Value
  | .given value => ofGiven value
  | .empty => .list []

/-- The settings that a command line asks for. An empty list in place of the word that ends the
input is equal to no item, so it ends nothing. -/
def settings (a : Arguments) : Except ArgumentsError Settings :=
  a.decodedDelimiter.map fun delimiter => {
    maxArgs := a.maxArgs.map (setting .int)
    maxProcs := a.maxProcs.map (setting .int)
    command := if a.command = [] then ["echo"] else a.command
    timeout := a.timeout.map (setting .float)
    stopOnError := a.stopOnError
    trace := a.verbose
    inputMode := a.inputMode
    delimiter
    eof := a.eof.bind OptionValue.given? }

/-- The configuration that a command line asks for in an environment. -/
def config (a : Arguments) (environment : Environment) : Except ArgumentsError Config := do
  ((← a.settings).validateIn environment).mapError .settings

end Arguments

/-- What the program finds when it is called. -/
structure Surroundings where
  environment : Environment := []
  /-- The text on standard input. -/
  input : Text := []
  /-- The bytes of a file, or why it cannot be opened. -/
  file : Text → Except Failure (List UInt8) := Directory.read []
  /-- How the commands behave that it runs. -/
  children : Pipeline.Children
  /-- Whether there is a library to draw progress bars. -/
  barLibrary : Bool := false
  /-- How the threads of the program take turns. -/
  threads : Threads := {}

/-- How reading an input breaks down. -/
structure Breakdown where
  /-- What could be read until then: lines if items are words, and chunks if they are not. -/
  pieces : List Text
  /-- Why reading on fails. -/
  failure : Failure
  deriving Repr

/-- How the program ends. -/
inductive ProgramEnd where
  /-- With an exit status. -/
  | returned (code : Nat)
  /-- With an exit status, because of its command line alone. -/
  | exited (code : Nat)
  /-- With a faulty escape that nobody caught. -/
  | escape (error : EscapeError)
  /-- With an error that nobody caught. -/
  | failed (failure : Failure)
  deriving Repr

/-- What the program does. -/
structure Report where
  ending : ProgramEnd
  stdout : Text := []
  stderr : Text := []
  /-- The commands that it tried to start. -/
  attempts : List Attempt := []
  /-- What the progress bar was told, if there was one. -/
  bar : List BarCall := []
  /-- The time that it took, in milliseconds. -/
  time : Nat := 0
  deriving Repr

namespace CommandLine

/-- A message of the program itself. -/
def message (text : Text) : Text := Usage.program ++ ": " ++ text

/-- What of a remark is shown at a log level. -/
def visible? (level : Level) : Remark → Option Text
  | .logged record => if level.rank ≤ record.level.rank then some record.line else none
  | .printed line => some line

/-- The lines on standard error. -/
def errorText (level : Level) (remarks : List Remark) : Text :=
  (Text.unlines (remarks.filterMap (visible? level))).escapeSurrogates

/-- The remark that a run left batches out. -/
def stoppedRecord (count : Nat) : LogRecord :=
  ⟨.commandLine, .warning, "run stopped early after " ++ Text.ofNat count ++ " command(s)"⟩

/-- What is said at the end of a run: why commands did not start or ran too long, in the order of
their batches, and that the run was stopped, if it was. -/
def closingRemarks (s : Summary) : List Remark :=
  (s.failed.filterMap fun r =>
    if r.spawnFailed || r.outcome = .timedOut then some (.printed (message (r.error.getD "None")))
    else none) ++
  if s.cancelled then [.logged (stoppedRecord s.size)] else []

/-- The end of a run, and what is said of it. -/
def conclude : Except RunError Summary → ProgramEnd × List Remark
  | .ok s => (.returned s.exitCode, closingRemarks s)
  | .error (.fault fault) =>
    (.returned ExitStatus.schedulerFault.code, [.printed (message fault.message)])
  | .error (.source failure) | .error (.receiver failure) =>
    if failure.isSystem then (.returned ExitStatus.usage.code, [.printed (message failure.text)])
    else (.failed failure, [])

/-- A delimiter that cannot be decoded because it is no text. -/
def delimiterFailure : Failure :=
  .saying "AttributeError" "'list' object has no attribute 'startswith'"

/-- A log level that is none. -/
def levelFailure : Failure := .saying "TypeError" "Level not an integer or a valid string: []"

/-- A file that cannot be opened because its name is no text. -/
def pathFailure : Failure :=
  .saying "TypeError" "expected str, bytes or os.PathLike object, not list"

/-- The text that items are read from: a file, or standard input. -/
def inputText (w : Surroundings) : Option (OptionValue Text) → Except Failure Text
  | none => .ok w.input
  | some (.given path) => (w.file path).map readText
  | some .empty => .error pathFailure

/-- The items of an input; an input that cannot be divided fails. -/
def itemSource (config : Config) (input : Text) : ItemSource :=
  match config.readItems input with
  | .ok reading =>
    { items := reading.texts, failure := reading.error.map fun e => .badValue e.message }
  | .error e => { items := [], failure := some (.badValue e.message) }

/-- The items that end before the input cannot be read on. -/
def endedSource (separator : Text) (b : Breakdown) : ItemSource :=
  let reading := Reading.endedFrom separator [] b.pieces []
  { items := reading.texts
    failure := (reading.error.map fun e => .badValue e.message).or (some b.failure) }

/-- The items of an input that cannot be read to its end; a word that ends the input may come before
that. -/
def brokenSource (config : Config) (b : Breakdown) : ItemSource :=
  match config.inputMode, config.delimiter with
  | .whitespace, _ =>
    let ends := (b.pieces.flatMap Text.words).any fun word => some word == config.eof
    { items := (Reading.wordsFrom config.eof b.pieces []).texts
      failure := if ends then none else some b.failure }
  | .null, _ => endedSource [CodePoint.null] b
  | .delimiter, some separator => endedSource separator b
  | .delimiter, none =>
    { items := [], failure := some (.badValue ItemError.missingDelimiter.message) }

/-- The items of an input that may break down while it is read. -/
def sourceOf (config : Config) (input : Text) : Option Breakdown → ItemSource
  | none => itemSource config input
  | some b => brokenSource config b

/-- Runs the commands of a configuration on the items of a source. -/
def runItems (w : Surroundings) (level : Level) (handler : ResultHandler) (config : Config)
    (source : ItemSource) : Report :=
  let view := Pipeline.view .blocking w.threads config source w.children handler {}
  let (ending, remarks) := conclude view.result
  { ending
    stderr := errorText level (view.history.remarks view.logger ++ remarks)
    attempts := view.history.attempts
    bar := view.barCalls
    time := view.time }

/-- Runs the commands of a configuration on the input. -/
def runConfig (w : Surroundings) (breakdown : Option Breakdown) (level : Level) (a : Arguments)
    (config : Config) : Report :=
  let handler : ResultHandler := if a.progress then .bar else .silent
  match handler.enter w.barLibrary with
  | .error e =>
    { ending := .returned ExitStatus.usage.code
      stderr := errorText level [.printed (message e.message)] }
  | .ok () =>
    match inputText w a.argFile with
    | .error failure =>
      let (ending, remarks) := conclude (.error (.source failure))
      { ending, stderr := errorText level remarks, bar := handler.barCalls [] [] }
    | .ok input => runItems w level handler config (sourceOf config input breakdown)

/-- What the program does if it ends with its command line. -/
def endWith : Stop → Report
  | .help => { ending := .exited 0, stdout := Usage.help }
  | .version => { ending := .exited 0, stdout := Usage.version }
  | .wrong e =>
    let complaint : Text := Usage.usage ++ message ("error: " ++ e.message ++ "\n")
    { ending := .exited 2, stderr := complaint.escapeSurrogates }

/-- What the program does with what its command line asks for, once the log is set up. -/
def runArguments (w : Surroundings) (breakdown : Option Breakdown) (level : Level)
    (a : Arguments) : Report :=
  match a.config w.environment with
  | .error (.escape e) => { ending := .escape e }
  | .error .delimiterEmpty => { ending := .failed delimiterFailure }
  | .error (.settings (.timeoutNotNumber value)) =>
    { ending := .failed (.saying "TypeError" (SettingsError.notComparable value)) }
  | .error (.settings .unwritable) => { ending := .failed (.badValue Value.tooManyDigits) }
  | .error (.settings (.invalid e)) =>
    { ending := .returned ExitStatus.usage.code
      stderr := errorText level [.printed (message e.message)] }
  | .ok config => runConfig w breakdown level a config

/-- What the program does with the words of its command line if reading its input breaks down. -/
def runUntil (w : Surroundings) (breakdown : Option Breakdown) (words : List Text) : Report :=
  match Arguments.read words with
  | .error stop => endWith stop
  | .ok a =>
    match a.logLevel with
    | .given level => runArguments w breakdown level a
    | .empty => { ending := .failed levelFailure }

/-- What the program does with the words of its command line. -/
def run (w : Surroundings) (words : List Text) : Report := runUntil w none words

end CommandLine

end BatchExec
