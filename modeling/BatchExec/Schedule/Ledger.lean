import BatchExec.Schedule.History
import BatchExec.Value

/-!
# The ledger of a run

The ledger counts the slots that are taken and collects the results. A fault stops the run, and the
first fault is the one that is reported. Who asks for a slot and gets none sleeps until there is
something new.

* `Ledger.request`: asks for a slot.
* `Ledger.sleep`, `Ledger.notify`: who wants a slot falls asleep and is woken up.
* `Ledger.release`: gives a slot back with what the launch ended with.
* `Ledger.cancel`: stops the run.
-/

namespace BatchExec

/-- The slots and results of a run. -/
structure Ledger where
  /-- The number of slots, if it is limited. -/
  bound : Option Nat
  /-- Whether a result that is no success stops the run. -/
  stopOnError : Bool
  /-- The number of slots that are taken. -/
  active : Int := 0
  /-- The largest number of slots taken so far. -/
  peak : Int := 0
  /-- The results so far, in the order in which they came in. -/
  completed : List Result := []
  /-- Whether nothing more is admitted. -/
  cancelled : Bool := false
  /-- The first fault. -/
  fault : Option Fault := none
  /-- Whether somebody who wants a slot sleeps until there is something new. -/
  asleep : Bool := false
  deriving DecidableEq, Repr

/-- The number of slots of a schedule of at most `maxProcs` launches at a time; zero sets no limit.
-/
def slotBound? (maxProcs : Int) : Except Failure (Option Nat) :=
  if maxProcs < 0 then
    .error (.badValue (if (Value.int maxProcs).showable then
      "max_procs must not be negative, got " ++ Text.ofInt maxProcs else Value.tooManyDigits))
  else .ok (if maxProcs = 0 then none else some maxProcs.toNat)

/-- The answer to a request for a slot. -/
inductive Admission where
  /-- The slot is taken. -/
  | granted (ledger : Ledger)
  /-- The run is cancelled. -/
  | refused
  /-- There is no free slot. -/
  | blocked
  deriving DecidableEq, Repr

namespace Ledger

/-- Whether every slot is taken. -/
def full (l : Ledger) : Bool :=
  match l.bound with
  | some bound => bound ≤ l.active
  | none => false

/-- Whether a request for a slot has to wait. -/
def blocked (l : Ledger) : Bool := !l.cancelled && l.full

/-- Takes a slot. -/
def take (l : Ledger) : Ledger :=
  { l with active := l.active + 1, peak := max l.peak (l.active + 1) }

/-- Asks for a slot. -/
def request (l : Ledger) : Admission :=
  if l.cancelled then .refused else if l.full then .blocked else .granted l.take

/-- Who wants a slot falls asleep. -/
def sleep (l : Ledger) : Ledger := { l with asleep := true }

/-- Wakes up who wants a slot. -/
@[simp] def notify (l : Ledger) : Ledger := { l with asleep := false }

/-- Stops the run. -/
def cancel (l : Ledger) : Ledger := notify { l with cancelled := true }

/-- Takes note of a fault. -/
def fail (l : Ledger) (f : Fault) : Ledger × List Happening :=
  (notify { l with fault := some (l.fault.getD f), cancelled := true }, [.faulted f])

/-- Tells the receiver of the result that came in last. -/
def tell (l : Ledger) (listener : Listener) (r : Result) : Ledger × List Happening :=
  match listener with
  | none => (l, [])
  | some react =>
    let e : Event := ⟨r, l.completed.length, l.active⟩
    let reaction := react e
    let told := .delivered e :: if reaction.cancels then [.cancelled] else []
    let l := if reaction.cancels then l.cancel else l
    match reaction.raises with
    | none => (l, told)
    | some failure =>
      let (l, faulted) := l.fail (.callbackFailed failure)
      (l, told ++ faulted)

/-- Collects a result: it may stop the run, and the receiver is told of it. -/
def record (l : Ledger) (listener : Listener) (r : Result) : Ledger × List Happening :=
  let stops := l.stopOnError && !r.success && !l.cancelled
  let (l, told) := Ledger.tell
    { l with completed := l.completed ++ [r], cancelled := l.cancelled || stops } listener r
  (l, .recorded r :: (if stops then [.stopping r] else []) ++ told)

/-- Gives back the slot of a batch whose launch has ended. -/
def release (l : Ledger) (listener : Listener) (b : Batch) (ending : Ending) :
    Ledger × List Happening :=
  match ending with
  | .raised failure => Ledger.fail { l with active := l.active - 1 } (.launchRaised b.index failure)
  | _ =>
    if l.active ≤ 0 then l.fail (.releasedTwice b.index)
    else
      let l := notify { l with active := l.active - 1 }
      match ending.resultFor? b with
      | some r => l.record listener r
      | none => l.fail (.invalidResult b.index)

end Ledger

end BatchExec
