import BatchExec.Command
import BatchExec.TimeSpan

/-!
# Results

* `Result`: how one command line ended.
* `Event`: a result together with the state of the run when it came in.
-/

namespace BatchExec

/-- How a command ended. -/
inductive Outcome where
  /-- It ended by itself, with an exit code. -/
  | exited
  /-- There is no such program. -/
  | notFound
  /-- The program could not be started. -/
  | notExecutable
  /-- A signal ended it. -/
  | signaled
  /-- It overran its time limit. -/
  | timedOut
  deriving DecidableEq, Repr

/-- The name of an outcome. -/
def Outcome.name : Outcome → Text
  | .exited => "exited"
  | .notFound => "not_found"
  | .notExecutable => "not_executable"
  | .signaled => "signaled"
  | .timedOut => "timed_out"

/-- How one command line ended. A result may come without the number that belongs to its outcome; a
command that exited without a code is no success. -/
structure Result where
  invocation : Invocation
  outcome : Outcome
  exitCode : Option Int := none
  signal : Option Int := none
  /-- The time from the start to the end. -/
  runtime : TimeSpan := .upTo 0
  /-- Why the command did not start, or that it ran too long. -/
  error : Option Text := none
  deriving DecidableEq, Repr

namespace Result

/-- The position of the batch in the run. -/
def index (r : Result) : Int := r.invocation.index

/-- Whether the command ran and exited with zero. -/
def success (r : Result) : Bool := r.outcome = .exited && r.exitCode = some 0

/-- Whether the command could not be started. -/
def spawnFailed (r : Result) : Bool := r.outcome = .notFound || r.outcome = .notExecutable

/-- A number that may be missing. -/
def shownNumber (n : Option Int) : Text := n.elim "None" Text.ofInt

/-- How the command ended, in a few words. -/
def ending (r : Result) : Text :=
  match r.outcome with
  | .exited => "exited " ++ shownNumber r.exitCode
  | .signaled => "killed by signal " ++ shownNumber r.signal
  | .notFound => "not found"
  | .notExecutable => "not executable"
  | .timedOut => "timed out"

/-- The position and how the command ended. -/
def describe (r : Result) : Text := "#" ++ Text.ofInt r.index ++ " " ++ r.ending

end Result

/-- A result that has just come in, the number of results so far and the number of commands that
still run. -/
structure Event where
  result : Result
  completed : Nat
  active : Int
  deriving DecidableEq, Repr

end BatchExec
