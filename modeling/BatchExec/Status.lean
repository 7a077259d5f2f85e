import BatchExec.Result

/-!
# Exit status of a run

The status of a run depends on its results only, not on their order. From the gravest to the
lightest: a command was not found, was not executable, overran its time limit, failed; or all
succeeded.
-/

namespace BatchExec

/-- The exit statuses of the program. -/
inductive ExitStatus where
  | success
  | usage
  | invocationFailed
  | timedOut
  | schedulerFault
  | notExecutable
  | notFound
  deriving DecidableEq, Repr

namespace ExitStatus

/-- The number that the process exits with. -/
def code : ExitStatus → Nat
  | .success => 0
  | .usage => 1
  | .invocationFailed => 123
  | .timedOut => 124
  | .schedulerFault => 125
  | .notExecutable => 126
  | .notFound => 127

/-- The name of a status. -/
def name : ExitStatus → Text
  | .success => "SUCCESS"
  | .usage => "USAGE"
  | .invocationFailed => "INVOCATION_FAILED"
  | .timedOut => "TIMED_OUT"
  | .schedulerFault => "SCHEDULER_FAULT"
  | .notExecutable => "NOT_EXECUTABLE"
  | .notFound => "NOT_FOUND"

end ExitStatus

/-- The status of a run and what it was computed from. -/
structure Status where
  exit : ExitStatus
  /-- The number of results. -/
  total : Nat := 0
  /-- The number of results that are no success. -/
  failed : Nat := 0
  /-- Whether the run stopped before its input was used up. -/
  cancelled : Bool := false
  deriving DecidableEq, Repr

namespace Status

/-- Whether some result is a failure with a given outcome. -/
def anyFailed (outcome : Outcome) (results : List Result) : Bool :=
  results.any fun r => !r.success && r.outcome == outcome

/-- The status that results call for: the gravest of their failures. -/
def exitOf (results : List Result) : ExitStatus :=
  if anyFailed .notFound results then .notFound
  else if anyFailed .notExecutable results then .notExecutable
  else if anyFailed .timedOut results then .timedOut
  else if results.any fun r => !r.success then .invocationFailed
  else .success

/-- The status of a run with some results, in any order. -/
def aggregate (results : List Result) (cancelled : Bool) : Status where
  exit := exitOf results
  total := results.length
  failed := results.countP fun r => !r.success
  cancelled := cancelled

/-- Whether every command succeeded. -/
def success (s : Status) : Bool := s.exit = .success

end Status

/-- The status that a result calls for on its own. -/
def Result.status (r : Result) : ExitStatus := (Status.aggregate [r] false).exit

end BatchExec
