import BatchExec.Number.Real
import BatchExec.Options.Usage
import BatchExec.Text.Quoted

/-!
# Reading the command line

Options come first; the first word that is none begins the command, which takes all that follows.

* `OptionWord.classify`: what a word stands for on its own.
* `Arguments.read`: what a whole command line asks for.
-/

namespace BatchExec

/-- What is wrong with a command line. -/
inductive UsageError where
  /-- A word could be short for several options. -/
  | ambiguous (word : Text) (options : List CommandOption)
  /-- An option lacks its value. -/
  | missingValue (option : CommandOption)
  /-- An option that takes no value has one. -/
  | unusedValue (option : CommandOption) (value : Text)
  /-- A value is not an integer. -/
  | notInteger (option : CommandOption) (value : Text)
  /-- A value is not a number. -/
  | notNumber (option : CommandOption) (value : Text)
  /-- A value is not one of those that an option knows. -/
  | notChoice (option : CommandOption) (value : Text) (choices : List Text)
  /-- Two options exclude each other. -/
  | conflict (option other : CommandOption)
  /-- Some words look like options and are none. -/
  | unrecognized (words : List Text)
  deriving DecidableEq, Repr

/-- What is said about an option. -/
def UsageError.about (o : CommandOption) (message : Text) : Text :=
  "argument " ++ o.label ++ ": " ++ message

/-- The wording of a usage error. -/
def UsageError.message : UsageError → Text
  | .ambiguous word options =>
    "ambiguous option: " ++ word ++ " could match " ++
      Text.join ", " (options.map CommandOption.longName)
  | .missingValue o => about o "expected one argument"
  | .unusedValue o value => about o ("ignored explicit argument " ++ value.quoted)
  | .notInteger o value => about o ("invalid int value: " ++ value.quoted)
  | .notNumber o value => about o ("invalid float value: " ++ value.quoted)
  | .notChoice o value choices =>
    about o ("invalid choice: " ++ value.quoted ++ " (choose from " ++
      Text.join ", " (choices.map Text.quoted) ++ ")")
  | .conflict o other => about o ("not allowed with argument " ++ other.label)
  | .unrecognized words => "unrecognized arguments: " ++ Text.join " " words

/-! ## Words -/

/-- What a word of the command line stands for on its own. -/
inductive OptionWord where
  /-- Two dashes. -/
  | dashes
  /-- No option. -/
  | plain
  /-- An option by its long name, perhaps with a value after an equals sign. -/
  | long (option : CommandOption) (value : Option Text)
  /-- An option by its letter, and what follows the letter. -/
  | short (option : CommandOption) (tail : Text)
  /-- Something like an option that is none. -/
  | unknown
  deriving DecidableEq, Repr

namespace OptionWord

/-- A text up to its first equals sign, and what follows the sign if there is one. -/
def splitValue (word : Text) : Text × Option Text :=
  let name := word.takeWhile (· ≠ CodePoint.ofChar '=')
  (name, if name.length < word.length then some (word.drop (name.length + 1)) else none)

/-- What a word stands for. A long name may be shortened as long as it fits one option only. -/
def classify (word : Text) : Except UsageError OptionWord :=
  match word with
  | [] | [_] => .ok .plain
  | dash :: c :: rest =>
    if dash ≠ '-' then .ok .plain
    else if c = '-' then
      if rest = [] then .ok .dashes
      else
        let (name, value) := splitValue word
        match CommandOption.ofName? name with
        | some o => .ok (.long o value)
        | none =>
          match CommandOption.withPrefix name with
          | [o] => .ok (.long o value)
          | [] => .ok (if word.contains (' ' : Char) then .plain else .unknown)
          | options => .error (.ambiguous word options)
    else match CommandOption.ofLetter? c with
      | some o => .ok (.short o rest)
      | none => .ok (if word.contains (' ' : Char) then .plain else .unknown)

/-- What the words of a command line stand for; after two dashes every word is plain. -/
def classifyAll : List Text → Except UsageError (List (Text × OptionWord))
  | [] => .ok []
  | word :: words => do
    match ← classify word with
    | .dashes => pure ((word, .dashes) :: words.map (·, .plain))
    | kind => pure ((word, kind) :: (← classifyAll words))

end OptionWord

/-! ## Options in one word -/

/-- The value of an option. -/
inductive OptionValue (α : Type) where
  /-- What its text stands for. -/
  | given (value : α)
  /-- An empty list. -/
  | empty
  deriving DecidableEq, Repr

namespace OptionValue

/-- The value that an option has within its own word. Two dashes mark the end of the options and
are no part of any list of values, so nothing is left of them. -/
def inWord (value : Text) : OptionValue Text :=
  if value = ("--" : Text) then .empty else .given value

/-- What was given, unless it is an empty list. -/
def given? {α : Type} : OptionValue α → Option α
  | .given value => some value
  | .empty => none

end OptionValue

/-- How the last option of a word gets its value. -/
inductive LastOption where
  /-- It takes none. -/
  | flag (option : CommandOption)
  /-- The value is in the word. -/
  | withValue (option : CommandOption) (value : OptionValue Text)
  /-- The value is the next word. -/
  | wanting (option : CommandOption)
  deriving DecidableEq, Repr

/-- Reads what follows the letter of an option: its value, or if it takes none the letters of
further options, all of which must be known. Returns the options that take no value and the last
one. -/
def readLetters (o : CommandOption) : Text → Except UsageError (List CommandOption × LastOption)
  | [] => .ok ([], if o.takesValue then .wanting o else .flag o)
  | c :: rest =>
    if o.takesValue then .ok ([], .withValue o (.inWord (c :: rest)))
    else match CommandOption.ofLetter? c with
      | some next => (readLetters next rest).map fun (flags, last) => (o :: flags, last)
      | none => .error (.unusedValue o (c :: rest))

/-- Reads what follows the first letter of a word. An equals sign there sets off what follows it. -/
def readTail (o : CommandOption) : Text → Except UsageError (List CommandOption × LastOption)
  | [] => readLetters o []
  | c :: rest =>
    if c = '=' then
      if o.takesValue then .ok ([], .withValue o (.inWord rest))
      else if rest = [] then .error (.unusedValue o [])
      else readLetters o rest
    else readLetters o (c :: rest)

/-- Reads an option by its long name. -/
def readLong (o : CommandOption) : Option Text → Except UsageError LastOption
  | none => .ok (if o.takesValue then .wanting o else .flag o)
  | some value =>
    if o.takesValue then .ok (.withValue o (.inWord value)) else .error (.unusedValue o value)

/-! ## The command line -/

/-- What a command line asks for. -/
structure Arguments where
  maxArgs : Option (OptionValue Int) := none
  maxProcs : Option (OptionValue Int) := none
  null : Bool := false
  delimiter : Option (OptionValue Text) := none
  eof : Option (OptionValue Text) := none
  argFile : Option (OptionValue Text) := none
  verbose : Bool := false
  timeout : Option (OptionValue Float) := none
  stopOnError : Bool := false
  progress : Bool := false
  logLevel : OptionValue Level := .given .warning
  command : List Text := []
  deriving Repr

/-- Why the program ends with its command line. -/
inductive Stop where
  /-- Help is asked for. -/
  | help
  /-- The version is asked for. -/
  | version
  /-- The command line is wrong. -/
  | wrong (error : UsageError)
  deriving DecidableEq, Repr

namespace Arguments

/-- Takes an option that has no value. -/
def addFlag (a : Arguments) : CommandOption → Except Stop Arguments
  | .help => .error .help
  | .version => .error .version
  | .null =>
    if a.delimiter.isSome then .error (.wrong (.conflict .null .delimiter))
    else .ok { a with null := true }
  | .verbose => .ok { a with verbose := true }
  | .stopOnError => .ok { a with stopOnError := true }
  | .progress => .ok { a with progress := true }
  | _ => .ok a

/-- Reads what was given as a value; of an empty list there is nothing to read. -/
def readValue {α : Type} (read? : Text → Option α) (error : Text → UsageError) :
    OptionValue Text → Except Stop (OptionValue α)
  | .empty => .ok .empty
  | .given value => match read? value with
    | some x => .ok (.given x)
    | none => .error (.wrong (error value))

/-- Takes an option with its value. -/
def addValue (a : Arguments) (o : CommandOption) (value : OptionValue Text) :
    Except Stop Arguments :=
  match o with
  | .maxArgs => do pure { a with maxArgs := some (← readValue Text.toInt? (.notInteger o) value) }
  | .maxProcs => do pure { a with maxProcs := some (← readValue Text.toInt? (.notInteger o) value) }
  | .timeout => do pure { a with timeout := some (← readValue Text.toFloat? (.notNumber o) value) }
  | .logLevel => do
    let notChoice (value : Text) := UsageError.notChoice o value (Level.all.map Level.name)
    pure { a with logLevel := ← readValue Level.ofName? notChoice value }
  | .delimiter =>
    if a.null then .error (.wrong (.conflict .delimiter .null))
    else .ok { a with delimiter := some value }
  | .eof => .ok { a with eof := some value }
  | .argFile => .ok { a with argFile := some value }
  | _ => .ok a

/-- Takes several options that have no value. -/
def addFlags (a : Arguments) : List CommandOption → Except Stop Arguments
  | [] => .ok a
  | o :: options => do (← a.addFlag o).addFlags options

/-- The options in a word; none if the word is no option. -/
def optionsOf : OptionWord → Option (Except UsageError (List CommandOption × LastOption))
  | .long o value => some ((readLong o value).map ([], ·))
  | .short o tail => some (readTail o tail)
  | _ => none

/-- Reads classified words, with the unknown options so far. -/
def readWords (a : Arguments) (unknown : List Text) :
    List (Text × OptionWord) → Except Stop (Arguments × List Text)
  | [] => .ok (a, unknown)
  | (word, kind) :: rest =>
    match optionsOf kind with
    | none =>
      if kind = .unknown then readWords a (unknown ++ [word]) rest
      else .ok ({ a with command := word :: rest.map Prod.fst }, unknown)
    | some (.error e) => .error (.wrong e)
    | some (.ok (flags, .wanting o)) =>
      match rest with
      | (value, .plain) :: rest' => do
        readWords (← (← a.addFlags flags).addValue o (.given value)) unknown rest'
      | _ => .error (.wrong (.missingValue o))
    | some (.ok (flags, .withValue o value)) => do
      readWords (← (← a.addFlags flags).addValue o value) unknown rest
    | some (.ok (flags, .flag o)) => do
      readWords (← (← a.addFlags flags).addFlag o) unknown rest

/-- What a command line asks for, or why the program ends with it. -/
def read (words : List Text) : Except Stop Arguments := do
  let classified ← (OptionWord.classifyAll words).mapError .wrong
  let (a, unknown) ← readWords {} [] classified
  if unknown = [] then pure a else .error (.wrong (.unrecognized unknown))

end Arguments

end BatchExec
