import BatchExec.Text.Quoted

/-!
# Failures

Errors that come from outside: a program that cannot be started, a source that cannot be read, a
launch or a callback that breaks.

* `Failure`: what kind of error it is, what it is called and what it says.
* `Failure.named`: the failure of a name with a message and an error number, if it has them.
* `Failure.relayed?`: what an event-driven schedule gets to know of the failure of its source.
-/

namespace BatchExec

/-- The kinds of failure that are told apart. -/
inductive FailureKind where
  /-- The operating system refused. -/
  | system
  /-- The operating system found no such file. -/
  | missingFile
  /-- A value was unsuitable. -/
  | value
  /-- A value had an unsuitable type. -/
  | type
  /-- Anything else. -/
  | other
  deriving DecidableEq, Repr

/-- An error from outside. -/
structure Failure where
  /-- Its kind. -/
  kind : FailureKind
  /-- What reports call it. -/
  name : Text
  /-- What it says. -/
  text : Text
  /-- The error number of the operating system. -/
  code : Option Int := none
  /-- The words that go with the error number. -/
  reason : Option Text := none
  /-- How often it has been replaced by a copy on its way. -/
  copies : Nat := 0
  deriving DecidableEq, Repr

namespace Failure

/-- The error number for "no such file or directory". -/
def noEntry : Int := 2

/-- What system errors with certain numbers are called. -/
def systemNames : List (Int × String) := [
  (1, "PermissionError"), (2, "FileNotFoundError"), (3, "ProcessLookupError"),
  (4, "InterruptedError"), (10, "ChildProcessError"), (11, "BlockingIOError"),
  (13, "PermissionError"), (17, "FileExistsError"), (20, "NotADirectoryError"),
  (21, "IsADirectoryError"), (32, "BrokenPipeError"), (103, "ConnectionAbortedError"),
  (104, "ConnectionResetError"), (108, "BrokenPipeError"), (110, "TimeoutError"),
  (111, "ConnectionRefusedError"), (114, "BlockingIOError"), (115, "BlockingIOError")]

/-- What a system error without a name of its own is called. -/
def systemName : Text := "OSError"

/-- The names of system errors. -/
def allSystemNames : List Text :=
  systemName :: "ConnectionError" :: systemNames.map fun entry => Text.ofString entry.2

/-- The kind of failure that a name stands for. -/
def kindOfName (name : Text) : FailureKind :=
  if name = "FileNotFoundError" then .missingFile
  else if allSystemNames.contains name then .system
  else if name = "ValueError" ∨ name = "UnicodeError" then .value
  else if name = "TypeError" then .type
  else .other

/-- A system error with its number and the words for it. -/
def system (code : Int) (reason : Text) : Failure :=
  let name : Text := match systemNames.lookup code with
    | some own => Text.ofString own
    | none => systemName
  { kind := kindOfName name, name
    text := "[Errno " ++ Text.ofInt code ++ "] " ++ reason
    code := some code, reason := some reason }

/-- A failure that says a text and nothing more. -/
def saying (name text : Text) : Failure := { kind := kindOfName name, name, text }

/-- The failure of a name with a message and an error number, if it has them. A system error has a
number only together with a message, and takes its name from the number unless it has a name of its
own; a failed look-up shows the key in quotes. -/
def named (name : Text) (message : Option Text) (code : Option Int) : Failure :=
  match message, code with
  | some message, some code =>
    if name = systemName then system code message
    else if allSystemNames.contains name then
      { system code message with kind := kindOfName name, name }
    else saying name message
  | none, some code => saying name (Text.ofInt code)
  | some message, none => saying name (if name = "KeyError" then message.quoted else message)
  | none, none => saying name []

/-- An unsuitable value. -/
def badValue (text : Text) : Failure := saying "ValueError" text

/-- Whether a failure is one of the operating system. -/
def isSystem (f : Failure) : Bool := f.kind = .system || f.kind = .missingFile

/-- What the end of asynchronous iteration is called. -/
def endOfIteration : Text := "StopAsyncIteration"

/-- What a generator makes of the end of iteration that is raised inside it. -/
def raisedInside : Failure :=
  saying "RuntimeError" "async generator raised StopAsyncIteration"

/-- The names of errors that come out of another thread as copies: an error of waiting for a thread
is replaced by its counterpart among the errors of waiting for an event. -/
def copiedNames : List Text := ["TimeoutError", "CancelledError", "InvalidStateError"]

/-- What an event-driven schedule gets to know of the failure of its source. A source that is asked
in another thread, which is a `detour`, is iterated inside a generator; any other one may signal its
end by the name of the failure. -/
def relayed? (detour : Bool) (f : Failure) : Option Failure :=
  if f.name = endOfIteration then if detour then some raisedInside else none
  else if detour && copiedNames.contains f.name then some { f with copies := f.copies + 1 }
  else some f

end Failure

end BatchExec
