import BatchExec.Failure

/-!
# Faults of a run

A fault means that a run is broken, not that a command failed: it ends the run once the commands
that run already have finished.
-/

namespace BatchExec

/-- What can break a run. -/
inductive Fault where
  /-- More slots were given back than taken. -/
  | releasedTwice (index : Int)
  /-- A launch returned no result, or one for another batch. -/
  | invalidResult (index : Int)
  /-- A launch raised an error instead of returning. -/
  | launchRaised (index : Int) (cause : Failure)
  /-- The callback for finished commands raised an error. -/
  | callbackFailed (cause : Failure)
  /-- A fault in somebody else's words. -/
  | stated (summary : Text) (cause : Option Failure)
  deriving DecidableEq, Repr

namespace Fault

/-- What happened, without the cause. -/
def summary : Fault → Text
  | .releasedTwice index => "slot released twice (batch #" ++ Text.ofInt index ++ ")"
  | .invalidResult index => "launch returned an invalid result for batch #" ++ Text.ofInt index
  | .launchRaised index _ => "launch raised for batch #" ++ Text.ofInt index
  | .callbackFailed _ => "on_result callback failed"
  | .stated summary _ => summary

/-- The error behind a fault. -/
def cause : Fault → Option Failure
  | .launchRaised _ cause => some cause
  | .callbackFailed cause => some cause
  | .stated _ cause => cause
  | _ => none

/-- The wording of a fault: what happened and, if an error is behind it, which one. -/
def message (f : Fault) : Text :=
  f.summary ++ match f.cause with
    | some cause => ": " ++ cause.name ++ ": " ++ cause.text
    | none => []

end Fault

end BatchExec
