import BatchExec.Schedule.Ledger

/-!
# The tally of an event-driven run

Like a ledger, a tally counts slots and collects results. The slots are kept apart from the number
of running launches, a launch gives its slot back before its result is looked at, and events go into
a queue.

* `Tally.reserve?`: takes a slot out of the free ones.
* `Tally.finish`: what the end of a launch brings about.
-/

namespace BatchExec

/-- The slots and results of an event-driven run. -/
structure Tally where
  /-- The number of free slots, if slots are limited. -/
  free : Option Nat
  /-- Whether a result that is no success stops the run. -/
  stopOnError : Bool
  /-- The number of running launches. -/
  active : Nat := 0
  /-- The largest number of launches that ran at a time. -/
  peak : Nat := 0
  /-- The results so far, in the order in which they came in. -/
  completed : List Result := []
  /-- Whether the run has stopped by itself. -/
  stopped : Bool := false
  /-- Whether the run has been cancelled from outside. -/
  cancelRequested : Bool := false
  /-- The first fault. -/
  fault : Option Fault := none
  deriving DecidableEq, Repr

namespace Tally

/-- The tally of a run of at most `maxProcs` launches at a time; zero sets no limit. -/
def ofLimit? (maxProcs : Int) (stopOnError : Bool) : Except Failure Tally :=
  (slotBound? maxProcs).map fun free => { free, stopOnError }

/-- Whether nothing more is admitted. -/
def cancelled (t : Tally) : Bool := t.stopped || t.cancelRequested

/-- Whether slots are limited and none is free. -/
def locked (t : Tally) : Bool := t.free == some 0

/-- Takes a slot out of the free ones, if there is one. -/
def reserve? (t : Tally) : Option Tally :=
  match t.free with
  | none => some t
  | some 0 => none
  | some (n + 1) => some { t with free := some n }

/-- Puts a slot back to the free ones. -/
def giveBack (t : Tally) : Tally := { t with free := t.free.map (· + 1) }

/-- Counts a launch that is to run. -/
def count (t : Tally) : Tally :=
  { t with active := t.active + 1, peak := max t.peak (t.active + 1) }

/-- Cancels the run from outside. -/
def cancel (t : Tally) : Tally := { t with cancelRequested := true }

/-- Takes note of a fault. -/
def fail (t : Tally) (f : Fault) : Tally × List Happening :=
  ({ t with fault := some (t.fault.getD f), stopped := true }, [.faulted f])

/-- Counts a launch as ended and frees its slot. -/
def release (t : Tally) (index : Int) : Tally × List Happening :=
  if t.active = 0 then t.fail (.releasedTwice index)
  else ({ t with active := t.active - 1 }.giveBack, [])

/-- Collects a result, which may stop the run, and makes the event that tells of it. -/
def record (t : Tally) (r : Result) : Tally × List Happening × Event :=
  let stops := t.stopOnError && !r.success && !t.stopped
  let t := { t with completed := t.completed ++ [r], stopped := t.stopped || stops }
  (t, .recorded r :: (if stops then [.stopping r] else []), ⟨r, t.completed.length, t.active⟩)

/-- Frees the slot of a batch whose launch has ended and looks at what it ended with; a result of
the batch makes an event. -/
def finish (t : Tally) (b : Batch) (ending : Ending) : Tally × List Happening × Option Event :=
  let (t, released) := t.release b.index
  match ending, ending.resultFor? b with
  | .raised failure, _ =>
    let (t, faulted) := t.fail (.launchRaised b.index failure)
    (t, released ++ faulted, none)
  | _, none =>
    let (t, faulted) := t.fail (.invalidResult b.index)
    (t, released ++ faulted, none)
  | _, some r =>
    let (t, recorded, event) := t.record r
    (t, released ++ recorded, some event)

end Tally

end BatchExec
