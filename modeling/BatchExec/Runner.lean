import BatchExec.Child
import BatchExec.InvocationFailure
import BatchExec.Schedule.Launch

/-!
# Running command lines

* `Execution`: what comes of the attempt to run a command line.
* `Runner.result`: the result that this makes.
* `Runner.plan`: the launch of a batch that runs a command line.
-/

namespace BatchExec

/-- The two ways to run a command line. -/
inductive Runner where
  /-- The caller waits for the end of the child. -/
  | blocking
  /-- The caller goes on, and is told of the end. -/
  | async
  deriving DecidableEq, Repr

/-- What comes of the attempt to run a command line. -/
inductive Execution where
  /-- The child does not start. -/
  | notStarted (failure : InvocationFailure)
  /-- The child does not start, for a reason that is not understood. -/
  | broken (failure : Failure)
  /-- The child starts. -/
  | ran (course : Course) (returnCode : Int)
  /-- The child starts, but its limit cannot be set, and it is left to itself. -/
  | abandoned (lifetime : Nat) (failure : Failure)
  deriving Repr

/-- How long an execution waits for its child; none if it does not wait at all. -/
def Execution.duration? : Execution → Option Nat
  | .ran course _ => some course.duration
  | _ => none

/-- Why a program does not start, in the words of its invocation; none if the reason is not
understood. A missing program is told apart from one that cannot be executed. -/
def InvocationFailure.ofSpawn? (i : Invocation) (f : Failure) : Option InvocationFailure :=
  let words : Text := match f.reason with
    | some (c :: rest) => c :: rest
    | _ => f.text
  if f.kind = .missingFile ∨ (f.isSystem ∧ f.code = some Failure.noEntry) then
    some (.notStarted (i.program ++ ": No such file or directory") (some 127) (some i.argv))
  else if f.isSystem then some (.notStarted (i.program ++ ": " ++ words) (some 126) (some i.argv))
  else if f.kind = .value ∨ f.kind = .type then
    some (.notStarted (i.program ++ ": invalid argument list: " ++ f.text) (some 126) (some i.argv))
  else none

/-- What becomes of a child that one runner or the other waits for. -/
def Behaviour.course (c : Behaviour) (limit : Option Seconds) : Runner → Course
  | .blocking => c.blockingCourse limit
  | .async => c.asyncCourse limit

namespace Runner

/-- The writer of the record that a child has started. -/
def logger : Runner → Logger
  | .blocking => .runner
  | .async => .asyncRunner

/-- Runs a command line whose child behaves in some way. -/
def execute (runner : Runner) (i : Invocation) (limit : Option Seconds) (c : Behaviour) :
    Execution :=
  match c.spawnFailure i.argv with
  | some failure =>
    match InvocationFailure.ofSpawn? i failure with
    | some failure => .notStarted failure
    | none => .broken failure
  | none =>
    if limit.any Seconds.unbounded then .abandoned c.lifetime Behaviour.limitFailure
    else .ran (c.course limit runner) c.returnCode

/-- The record that a child has started. -/
def startedRecord (runner : Runner) (i : Invocation) (pid : Nat) : LogRecord :=
  ⟨runner.logger, .debug,
    "started #" ++ Text.ofInt i.index ++ " pid=" ++ Text.ofNat pid ++ ": " ++ i.display⟩

/-- The result of a child that ended by itself, and the record of it. -/
def exited (i : Invocation) (returnCode : Int) (runtime : TimeSpan) : Result × LogRecord :=
  let label : Text := "#" ++ Text.ofInt i.index
  if returnCode < 0 then
    ({ invocation := i, outcome := .signaled, signal := some (-returnCode), runtime },
      ⟨.runner, .debug, label ++ " killed by signal " ++ Text.ofInt (-returnCode)⟩)
  else
    ({ invocation := i, outcome := .exited, exitCode := some returnCode, runtime },
      ⟨.runner, .debug,
        label ++ " exited " ++ Text.ofInt returnCode ++ " after " ++ runtime.shown ++ "s"⟩)

/-- The result of an invocation without an exit status, and the record of it. -/
def failed (i : Invocation) (f : InvocationFailure) (runtime : TimeSpan) :
    Result × LogRecord :=
  let label : Text := "#" ++ Text.ofInt i.index
  match f with
  | .timedOut limit _ =>
    ({ invocation := i, outcome := .timedOut, runtime, error := some f.reason },
      ⟨.runner, .warning,
        label ++ " timed out after " ++ limit.inSentence ++ " seconds: " ++ i.display⟩)
  | .notStarted reason exitCode _ =>
    let outcome := if exitCode = some 127 then .notFound else .notExecutable
    ({ invocation := i, outcome, runtime, error := some reason },
      ⟨.runner, .warning, label ++ " could not be started: " ++ reason⟩)

/-- The return code of a child, or that its invocation overran the limit. -/
def returned (i : Invocation) (limit : Option Seconds) (course : Course) (returnCode : Int) :
    Except InvocationFailure Int :=
  match course.timedOut, limit with
  | true, some limit => .error (.timedOut limit.toValue (some i.argv))
  | _, _ => .ok returnCode

/-- The result of a child that has started at some time, and the record of it. -/
def ranResult (i : Invocation) (limit : Option Seconds) (time : Nat) (course : Course)
    (returnCode : Int) : Result × LogRecord :=
  let runtime : TimeSpan := ⟨time, time + course.duration⟩
  match returned i limit course returnCode with
  | .ok returnCode => exited i returnCode runtime
  | .error failure => failed i failure runtime

/-- The attempt to start the child of an execution at some time. -/
def attempt (i : Invocation) (time : Nat) : Execution → Attempt
  | .ran course _ => ⟨i.argv, time, true, course.kills, time + course.ended⟩
  | .abandoned lifetime _ => ⟨i.argv, time, true, 0, time + lifetime⟩
  | _ => ⟨i.argv, time, false, 0, time⟩

/-- The process number of the first child. -/
def firstPid : Nat := 1000

/-- What is written up to the start of the child. -/
def opening (runner : Runner) (trace : Bool) (pid : Nat) (i : Invocation) (e : Execution) :
    List Remark :=
  (if trace then [.printed i.display] else []) ++
    match e with
    | .ran _ _ | .abandoned _ _ => [.logged (runner.startedRecord i pid)]
    | _ => []

/-- The result of an execution that began at some time and the record of it, or its failure if that
is not understood. -/
def conclude (i : Invocation) (limit : Option Seconds) (time : Nat) :
    Execution → Except Failure (Result × LogRecord)
  | .broken failure | .abandoned _ failure => .error failure
  | .notStarted failure => .ok (failed i failure ⟨time, time⟩)
  | .ran course returnCode => .ok (ranResult i limit time course returnCode)

/-- How long an execution that began at some time takes to wind up if it is cut off at another. -/
def unwinding (runner : Runner) (limit : Option Seconds) (c : Behaviour) (began cut : Nat) : Nat :=
  match runner with
  | .blocking => 0
  | .async =>
    ((c.cancelledCourse limit (cut - began)).map fun course => began + course.duration - cut).getD 0

/-- The launch that runs a command line and never fails because of what its child does. -/
def plan (runner : Runner) (limit : Option Seconds) (trace : Bool) (c : Behaviour) (pid time : Nat)
    (i : Invocation) : Plan :=
  let execution := runner.execute i limit c
  let opening := runner.opening trace pid i execution
  let attempt := some (attempt i time execution)
  let duration := execution.duration?
  let waitsFor := if limit.isSome then WaitKind.watcher else .call
  let signal := c.parentSignal
  let nextSignal := c.nextSignal
  match conclude i limit time execution with
  | .error failure =>
    { opening, attempt, duration, waitsFor, signal, nextSignal, ending := .raised failure }
  | .ok (result, record) =>
    { opening, attempt, duration, waitsFor, signal, nextSignal, closing := [.logged record]
      ending := .returned result, unwinds := runner.unwinding limit c time }

end Runner

end BatchExec
