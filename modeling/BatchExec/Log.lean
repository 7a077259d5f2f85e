import BatchExec.Text.Basic

/-!
# Log records
-/

namespace BatchExec

/-- How grave a log record is. -/
inductive Level where
  | debug
  | info
  | warning
  | error
  deriving DecidableEq, Repr

namespace Level

/-- The name of a level. -/
def name : Level → Text
  | .debug => "DEBUG"
  | .info => "INFO"
  | .warning => "WARNING"
  | .error => "ERROR"

/-- All levels, the lightest first. -/
def all : List Level := [.debug, .info, .warning, .error]

/-- The level of a name. -/
def ofName? (name : Text) : Option Level := all.find? fun level => level.name == name

/-- A number that grows with the gravity. -/
def rank : Level → Nat
  | .debug => 10
  | .info => 20
  | .warning => 30
  | .error => 40

end Level

/-- The parts of the program that write log records. -/
inductive Logger where
  | pool
  | stream
  | runner
  | asyncRunner
  | commandLine
  deriving DecidableEq, Repr

/-- What a log calls its writer. -/
def Logger.name : Logger → Text
  | .pool => "cargs.scheduler"
  | .stream => "cargs.async_scheduler"
  | .runner => "cargs.runner"
  | .asyncRunner => "cargs.async_runner"
  | .commandLine => "cargs.cli"

/-- One record of a log. -/
structure LogRecord where
  logger : Logger
  level : Level
  message : Text
  deriving DecidableEq, Repr

/-- A record as a line: writer, level and message. -/
def LogRecord.line (r : LogRecord) : Text :=
  r.logger.name ++ ": " ++ r.level.name ++ ": " ++ r.message

end BatchExec
