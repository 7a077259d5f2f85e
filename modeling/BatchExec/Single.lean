import BatchExec.Config
import BatchExec.Runner

/-!
# One command line on its own

A command line may be run outside of a schedule, with or without making a result of what comes of
it, and the wait for it may be cancelled.

* `Single.execute`: waits for the return code.
* `Single.run`: makes a result in any case.
* `Single.underLimit`: either of them under a limit that may be no number.
-/

namespace BatchExec

/-- What comes of running one command line on its own. -/
inductive SingleEnd where
  /-- Its result. -/
  | result (result : Result)
  /-- Its return code. -/
  | returnCode (code : Int)
  /-- It has no exit status. -/
  | failed (failure : InvocationFailure)
  /-- It does not start or is not waited for, for a reason that is not understood. -/
  | broken (failure : Failure)
  /-- It is cancelled. -/
  | cancelled
  deriving Repr

/-- One command line that ran on its own. -/
structure Single where
  ending : SingleEnd
  /-- What was written in the course of it. -/
  remarks : List Remark
  attempt : Attempt
  /-- The time that it took, in milliseconds. -/
  time : Nat
  deriving Repr

namespace Single

/-- What becomes of the child if the wait for it is cancelled before it is over. Nobody cancels a
wait that blocks, nor the start of a child. -/
def cutShort? (runner : Runner) (limit : Option Seconds) (c : Behaviour) (cancelTime : Option Nat)
    (i : Invocation) : Option Course :=
  match runner, runner.execute i limit c, cancelTime with
  | .async, .ran _ _, some time => c.cancelledCourse limit time
  | _, _, _ => none

/-- A command line on its own whose child starts at once or never. -/
def ofEnding (runner : Runner) (trace : Bool) (i : Invocation) (e : Execution) (ending : SingleEnd)
    (closing : List Remark) : Single where
  ending := ending
  remarks := runner.opening trace Runner.firstPid i e ++ closing
  attempt := Runner.attempt i 0 e
  time := e.duration?.getD 0

/-- Runs a command line and waits for the return code. -/
def execute (runner : Runner) (limit : Option Seconds) (c : Behaviour) (cancelTime : Option Nat)
    (i : Invocation) : Single :=
  match cutShort? runner limit c cancelTime i with
  | some course => ofEnding runner false i (.ran course c.returnCode) .cancelled []
  | none =>
    let execution := runner.execute i limit c
    let ending : SingleEnd := match execution with
      | .broken failure | .abandoned _ failure => .broken failure
      | .notStarted failure => .failed failure
      | .ran course code =>
        match Runner.returned i limit course code with
        | .ok code => .returnCode code
        | .error failure => .failed failure
    ofEnding runner false i execution ending []

/-- Runs a command line and makes a result of what comes of it. -/
def run (runner : Runner) (limit : Option Seconds) (trace : Bool) (c : Behaviour)
    (cancelTime : Option Nat) (i : Invocation) : Single :=
  match cutShort? runner limit c cancelTime i with
  | some course => ofEnding runner trace i (.ran course c.returnCode) .cancelled []
  | none =>
    let execution := runner.execute i limit c
    match Runner.conclude i limit 0 execution with
    | .error failure => ofEnding runner trace i execution (.broken failure) []
    | .ok (result, record) => ofEnding runner trace i execution (.result result) [.logged record]

/-- A command line under a limit that may be no number. No child can be waited for under such a
limit, which shows when it has started. -/
def underLimit (limit : Value) (under : Option Seconds → Single) : Single :=
  match limit, Seconds.ofValue? limit with
  | .none, _ => under none
  | _, some limit => under (some limit)
  | _, none =>
    let single := under none
    if single.attempt.spawned then
      { single with ending := .broken (.saying "TypeError" (SettingsError.notComparable limit)) }
    else single

end Single

end BatchExec
