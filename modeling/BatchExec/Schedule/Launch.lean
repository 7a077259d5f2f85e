import BatchExec.Fault
import BatchExec.Log
import BatchExec.Result

/-!
# Launches

A schedule does not run commands itself: it is given a launcher, which says for each batch what its
launch does and how long that takes. Time is counted in milliseconds from the start of the run.

* `Plan`: the course of one launch.
* `Feed`: where a schedule takes its batches from.
* `Reaction`: what the receiver of an event does.
-/

namespace BatchExec

/-- What a launch writes while it runs. -/
inductive Remark where
  /-- A log record. -/
  | logged (record : LogRecord)
  /-- A line on standard error. -/
  | printed (line : Text)
  deriving DecidableEq, Repr

namespace Remark

/-- The record of a remark that is one. -/
def record? : Remark → Option LogRecord
  | .logged record => some record
  | .printed _ => none

/-- The line of a remark that is printed. -/
def line? : Remark → Option Text
  | .logged _ => none
  | .printed line => some line

end Remark

/-- An attempt to start a child process, and what became of the child. -/
structure Attempt where
  argv : List Text
  /-- When it was made. -/
  time : Nat
  /-- Whether the child started. -/
  spawned : Bool
  /-- How often the child was told to die. -/
  kills : Nat
  /-- When the child had ended; the time of the attempt if it did not start. -/
  ended : Nat
  deriving DecidableEq, Repr

/-- How a launch ends. -/
inductive Ending where
  /-- With a result. -/
  | returned (result : Result)
  /-- With something that is no result. -/
  | malformed
  /-- With an error. -/
  | raised (failure : Failure)
  deriving DecidableEq, Repr

/-- The result that a launch owes for a batch, if it ended with one. -/
def Ending.resultFor? (b : Batch) : Ending → Option Result
  | .returned r => if r.index = b.index then some r else none
  | _ => none

/-- What a launch waits for, where it takes turns with others. -/
inductive WaitKind where
  /-- For time to pass. If none is to pass, it only lets the others have their turn. -/
  | sleep
  /-- For a call when the time is over. -/
  | call
  /-- For a watcher, who is called when the time is over and has the launch called in its turn. -/
  | watcher
  deriving DecidableEq, Repr

/-- How many turns pass from the end of the time until the launch goes on. -/
def WaitKind.turns : WaitKind → Nat
  | .sleep | .call => 1
  | .watcher => 3

/-- The course of a launch. -/
structure Plan where
  /-- What it writes as it starts. -/
  opening : List Remark := []
  /-- The child that it tries to start, if any. -/
  attempt : Option Attempt := none
  /-- How long it waits before it ends; a launch that never waits ends as it starts. -/
  duration : Option Nat := none
  /-- What it waits for. -/
  waitsFor : WaitKind := .sleep
  /-- What it writes as it ends. -/
  closing : List Remark := []
  /-- Whether it cancels the run as it ends. -/
  cancels : Bool := false
  /-- How it ends. -/
  ending : Ending
  /-- The signal that the whole program gets right after the start. -/
  signal : Option Nat := none
  /-- Another signal that it gets right after that one. -/
  nextSignal : Option Nat := none
  /-- How long it takes to wind up if it is cut off at some time. -/
  unwinds : Nat → Nat := fun _ => 0

/-- The second of two different signals that come right after the start. -/
def Plan.otherSignal? (plan : Plan) : Option Nat :=
  plan.signal.bind fun first => plan.nextSignal.filter (· ≠ first)

/-- The signals that come right after the start. -/
def Plan.signals (plan : Plan) : List Nat := plan.signal.toList ++ plan.otherSignal?.toList

/-- What a launch does, given how many launches started before it, the time, and the batch. -/
abbrev Launcher := (ordinal time : Nat) → Batch → Plan

/-- A batch and how long a source takes to come up with it. -/
structure FeedItem where
  delay : Nat
  batch : Batch
  deriving DecidableEq, Repr

/-- Where batches come from: they are asked for one by one, and after the last one the source ends
or fails. -/
structure Feed where
  items : List FeedItem
  failure : Option Failure := none
  deriving DecidableEq, Repr

/-- The feed of batches that are there without delay. -/
def Feed.ofBatches (batches : List Batch) (failure : Option Failure) : Feed :=
  ⟨batches.map (⟨0, ·⟩), failure⟩

/-- The feed that fails when it is asked for the batch at a position, unless it ends before. -/
def Feed.failingAt (items : List FeedItem) (position : Nat) (failure : Failure) : Feed :=
  if position ≤ items.length then ⟨items.take position, some failure⟩ else ⟨items, none⟩

/-- A feed as it reaches an event-driven schedule. -/
def Feed.relayed (feed : Feed) (detour : Bool) : Feed :=
  { feed with failure := feed.failure.bind (Failure.relayed? detour) }

/-- What the receiver of an event does. -/
structure Reaction where
  /-- It cancels the run. -/
  cancels : Bool := false
  /-- It raises an error. -/
  raises : Option Failure := none
  deriving DecidableEq, Repr

/-- The receiver of events, if there is one. -/
abbrev Listener := Option (Event → Reaction)

/-- A receiver that does nothing to the run. -/
def Listener.passive : Listener := some fun _ => {}

/-- When a run is cancelled from outside. -/
structure Interruption where
  /-- Before it starts. -/
  beforehand : Bool := false
  /-- At some time. -/
  time : Option Nat := none
  deriving DecidableEq, Repr

/-- Why a run has no summary. -/
inductive RunError where
  /-- The source of batches failed. -/
  | source (failure : Failure)
  /-- The run broke. -/
  | fault (fault : Fault)
  /-- The receiver of events raised an error, and nobody caught it. -/
  | receiver (failure : Failure)
  deriving DecidableEq, Repr

end BatchExec
