import BatchExec.Log

/-!
# Options of the command line

* `CommandOption.all`: the options in the order in which help lists them.
* `CommandOption.names`: how an option may be written.
-/

namespace BatchExec

/-- The options of the program. -/
inductive CommandOption where
  | help
  | maxArgs
  | maxProcs
  | null
  | delimiter
  | eof
  | argFile
  | verbose
  | timeout
  | stopOnError
  | progress
  | logLevel
  | version
  deriving DecidableEq, Repr

namespace CommandOption

/-- All options, in the order in which help lists them. -/
def all : List CommandOption := [
  .help, .maxArgs, .maxProcs, .null, .delimiter, .eof, .argFile, .verbose, .timeout, .stopOnError,
  .progress, .logLevel, .version]

/-- The letter of an option after one dash, if it has one. -/
def letter? : CommandOption → Option Char
  | .help => some 'h'
  | .maxArgs => some 'n'
  | .maxProcs => some 'P'
  | .null => some '0'
  | .delimiter => some 'd'
  | .eof => some 'E'
  | .argFile => some 'a'
  | .verbose => some 't'
  | _ => none

/-- The word of an option after two dashes. -/
def word : CommandOption → Text
  | .help => "help"
  | .maxArgs => "max-args"
  | .maxProcs => "max-procs"
  | .null => "null"
  | .delimiter => "delimiter"
  | .eof => "eof"
  | .argFile => "arg-file"
  | .verbose => "verbose"
  | .timeout => "timeout"
  | .stopOnError => "stop-on-error"
  | .progress => "progress"
  | .logLevel => "log-level"
  | .version => "version"

/-- What help calls the value of an option; none if the option takes no value. -/
def placeholder? : CommandOption → Option Text
  | .maxArgs => some "MAX_ARGS"
  | .maxProcs => some "MAX_PROCS"
  | .delimiter => some "CHAR"
  | .eof => some "EOF_STR"
  | .argFile => some "FILE"
  | .timeout => some "SECONDS"
  | .logLevel => some ("\x7b" ++ Text.join "," (Level.all.map Level.name) ++ "\x7d")
  | _ => none

/-- Whether an option takes a value. -/
def takesValue (o : CommandOption) : Bool := o.placeholder?.isSome

/-- The option's name with one dash, if it has one. -/
def shortName? (o : CommandOption) : Option Text := o.letter?.map fun c => ['-', CodePoint.ofChar c]

/-- The option's name with two dashes. -/
def longName (o : CommandOption) : Text := "--" ++ o.word

/-- The names of an option, the short one first. -/
def names (o : CommandOption) : List Text := o.shortName?.toList ++ [o.longName]

/-- What messages call an option: its names. -/
def label (o : CommandOption) : Text := Text.join "/" o.names

/-- The option of a letter. -/
def ofLetter? (c : CodePoint) : Option CommandOption :=
  all.find? fun o => o.letter?.map CodePoint.ofChar == some c

/-- The option with a name. -/
def ofName? (name : Text) : Option CommandOption := all.find? fun o => o.names.contains name

/-- The options whose long name starts with a text. -/
def withPrefix (start : Text) : List CommandOption :=
  all.filter fun o => start.isPrefixOf o.longName

/-- What help says of an option. -/
def explanation : CommandOption → Text
  | .help => "show this help message and exit"
  | .maxArgs => "Use at most MAX_ARGS arguments per command line (default: 1)."
  | .maxProcs =>
    "Run up to MAX_PROCS processes at a time (default: 1). 0 runs as many as possible."
  | .null =>
    "Input items are terminated by a null character; every character is taken literally."
  | .delimiter => "Input items are terminated by CHAR; every character is taken literally."
  | .eof => "Stop reading input at the first item equal to EOF_STR (whitespace mode only)."
  | .argFile => "Read items from FILE instead of standard input."
  | .verbose => "Print each command line on standard error before running it."
  | .timeout => "Kill a command that runs longer than SECONDS."
  | .stopOnError => "Start no further commands after the first one fails."
  | .progress => "Show a progress bar on standard error (requires tqdm)."
  | .logLevel => "Diagnostic logging level (default: WARNING)."
  | .version => "show program's version number and exit"

end CommandOption

end BatchExec
