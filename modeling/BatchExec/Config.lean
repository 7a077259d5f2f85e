import BatchExec.Number.Integer
import BatchExec.Seconds

/-!
# Configuration of a run

* `Settings`: what a caller asks for, not yet checked.
* `Settings.validate`: the configuration that the settings describe, or what is wrong with them.
* `Settings.withEnvironment`: the settings with missing ones taken from environment variables.
-/

namespace BatchExec

/-- How input is divided into items. -/
inductive InputMode where
  /-- Items are words, divided by blanks. -/
  | whitespace
  /-- Items end at null characters. -/
  | null
  /-- Items end at a delimiter. -/
  | delimiter
  deriving DecidableEq, Repr

/-- What is wrong with a configuration. -/
inductive ConfigError where
  /-- The number of arguments per command line is not an integer. -/
  | maxArgsNotInteger (value : Value)
  /-- The number of arguments per command line is not positive. -/
  | maxArgsTooSmall (n : Int)
  /-- The number of commands at a time is not an integer. -/
  | maxProcsNotInteger (value : Value)
  /-- The number of commands at a time is negative. -/
  | maxProcsNegative (n : Int)
  /-- The time limit is zero or less. -/
  | timeoutNotPositive (limit : Seconds)
  /-- The delimiter is missing or not one character. -/
  | delimiterNotSingle (delimiter : Option Text)
  /-- A delimiter is given although the input mode has no use for it. -/
  | delimiterUnused (delimiter : Text)
  /-- An environment variable that stands for a setting is not an integer. -/
  | environmentNotInteger (name setting value : Text)
  /-- An error in somebody else's words. -/
  | stated (message : Text) (setting : Option Text) (value : Value)
  deriving Repr

namespace ConfigError

/-- The wording of a configuration error. -/
def message : ConfigError → Text
  | maxArgsNotInteger value => "max-args must be an integer, got " ++ value.shown
  | maxArgsTooSmall n => "-n " ++ Text.ofInt n ++ ": too small"
  | maxProcsNotInteger value => "max-procs must be an integer, got " ++ value.shown
  | maxProcsNegative n => "-P " ++ Text.ofInt n ++ ": must not be negative"
  | timeoutNotPositive limit => "timeout must be positive, got " ++ limit.shown
  | delimiterNotSingle delimiter =>
    "delimiter must be a single character, got " ++ (delimiter.elim Value.none .text).shown
  | delimiterUnused _ => "delimiter is only valid with InputMode.DELIMITER"
  | environmentNotInteger name _ value => name ++ "=" ++ value.quoted ++ " is not an integer"
  | stated message _ _ => message

/-- The setting at fault. -/
def setting : ConfigError → Option Text
  | maxArgsNotInteger _ | maxArgsTooSmall _ => some "max_args"
  | maxProcsNotInteger _ | maxProcsNegative _ => some "max_procs"
  | timeoutNotPositive _ => some "timeout"
  | delimiterNotSingle _ | delimiterUnused _ => some "delimiter"
  | environmentNotInteger _ setting _ => some setting
  | stated _ setting _ => setting

/-- The value at fault. -/
def value : ConfigError → Value
  | maxArgsNotInteger value | maxProcsNotInteger value => value
  | maxArgsTooSmall n | maxProcsNegative n => .int n
  | timeoutNotPositive limit => limit.toValue
  | delimiterNotSingle delimiter => delimiter.elim .none .text
  | delimiterUnused delimiter => .text delimiter
  | environmentNotInteger _ _ value => .text value
  | stated _ _ value => value

end ConfigError

/-- Why settings are refused. -/
inductive SettingsError where
  /-- A setting has an unsuitable value. -/
  | invalid (error : ConfigError)
  /-- A setting has an unsuitable value, and the value cannot be shown in a message that says so. -/
  | unwritable
  /-- The time limit is no number, so it cannot be compared with zero. -/
  | timeoutNotNumber (value : Value)
  deriving Repr

/-- The refusal because of an unsuitable value. -/
def SettingsError.ofInvalid (error : ConfigError) : SettingsError :=
  if error.value.showable then .invalid error else .unwritable

/-- The wording of the refusal of a time limit that is no number. -/
def SettingsError.notComparable (value : Value) : Text :=
  "'<=' not supported between instances of '" ++ value.typeName ++ "' and 'int'"

/-- The settings of a run as a caller gives them; a missing one has a default. -/
structure Settings where
  /-- The most arguments per command line. -/
  maxArgs : Option Value := none
  /-- The most commands at a time; zero means no limit. -/
  maxProcs : Option Value := none
  /-- The command and its fixed leading arguments. -/
  command : List Text := ["echo"]
  /-- The time limit of a command in seconds. -/
  timeout : Option Value := none
  /-- Whether to start no further commands after the first failure. -/
  stopOnError : Bool := false
  /-- Whether to print each command line before running it. -/
  trace : Bool := false
  /-- How input is divided into items. -/
  inputMode : InputMode := .whitespace
  /-- What items end at, in the delimiter mode. -/
  delimiter : Option Text := none
  /-- The word that ends the input, in the whitespace mode. -/
  eof : Option Text := none
  deriving Repr

/-- A checked configuration. -/
structure Config where
  maxArgs : Nat := 1
  maxProcs : Nat := 1
  command : List Text := ["echo"]
  timeout : Option Seconds := none
  stopOnError : Bool := false
  trace : Bool := false
  inputMode : InputMode := .whitespace
  delimiter : Option Text := none
  eof : Option Text := none
  deriving Repr

/-- Whether a configuration sets no limit on the commands at a time. -/
def Config.unbounded (c : Config) : Bool := c.maxProcs == 0

/-- The environment variables that are looked at. -/
abbrev Environment := List (Text × Text)

namespace Settings

/-- The variable that stands for the number of arguments. -/
def maxArgsVariable : Text := "CARGS_MAX_ARGS"

/-- The variable that stands for the number of commands at a time. -/
def maxProcsVariable : Text := "CARGS_MAX_PROCS"

/-- A setting, or the integer that a variable holds if the setting is missing and the variable is
not. -/
def fromVariable (environment : Environment) (name setting : Text) :
    Option Value → Except ConfigError (Option Value)
  | some given => .ok (some given)
  | none =>
    match environment.lookup name with
    | none => .ok none
    | some raw =>
      match raw.toInt? with
      | some n => .ok (some (.int n))
      | none => .error (.environmentNotInteger name setting raw)

/-- The settings with missing numbers taken from the environment. -/
def withEnvironment (s : Settings) (environment : Environment) : Except ConfigError Settings := do
  let maxArgs ← fromVariable environment maxArgsVariable "max_args" s.maxArgs
  let maxProcs ← fromVariable environment maxProcsVariable "max_procs" s.maxProcs
  pure { s with maxArgs, maxProcs }

/-- The number of arguments, one if it is not set. -/
def checkMaxArgs : Option Value → Except ConfigError Nat
  | none => .ok 1
  | some (.int n) => if n < 1 then .error (.maxArgsTooSmall n) else .ok n.toNat
  | some value => .error (.maxArgsNotInteger value)

/-- The number of commands at a time, one if it is not set. -/
def checkMaxProcs : Option Value → Except ConfigError Nat
  | none => .ok 1
  | some (.int n) => if n < 0 then .error (.maxProcsNegative n) else .ok n.toNat
  | some value => .error (.maxProcsNotInteger value)

/-- The time limit, none if it is not set. -/
def checkTimeout : Option Value → Except SettingsError (Option Seconds)
  | none | some .none => .ok none
  | some value =>
    match Seconds.ofValue? value with
    | none => .error (.timeoutNotNumber value)
    | some limit =>
      if limit.nonpositive then .error (.ofInvalid (.timeoutNotPositive limit))
      else .ok (some limit)

/-- A delimiter fits its mode: one code point in the delimiter mode, and none in the others. -/
def checkDelimiter : InputMode → Option Text → Except ConfigError Unit
  | .delimiter, some [_] => .ok ()
  | .delimiter, delimiter => .error (.delimiterNotSingle delimiter)
  | _, some delimiter => .error (.delimiterUnused delimiter)
  | _, none => .ok ()

/-- The configuration that settings describe, or the first thing that is wrong with them. -/
def validate (s : Settings) : Except SettingsError Config := do
  let maxArgs ← (checkMaxArgs s.maxArgs).mapError .ofInvalid
  let maxProcs ← (checkMaxProcs s.maxProcs).mapError .ofInvalid
  let timeout ← checkTimeout s.timeout
  (checkDelimiter s.inputMode s.delimiter).mapError .ofInvalid
  pure {
    maxArgs, maxProcs, timeout
    command := s.command
    stopOnError := s.stopOnError
    trace := s.trace
    inputMode := s.inputMode
    delimiter := s.delimiter
    eof := s.eof }

/-- The configuration that settings describe in an environment. -/
def validateIn (s : Settings) (environment : Environment) : Except SettingsError Config := do
  (← (s.withEnvironment environment).mapError .invalid).validate

end Settings

end BatchExec
