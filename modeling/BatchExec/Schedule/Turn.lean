import BatchExec.Schedule.Tally

/-!
# Turns

In an event-driven run one actor at a time has its turn. A turn ends when the actor has to wait; who
need not wait for time to pass has the next turn in the following round.

* `Turn`: what an actor does in its turn.
* `TurnTimer`: a turn that comes at some time.
* `ProducerState`, `ConsumerState`: what the two lasting actors are doing.
-/

namespace BatchExec

/-- What an actor does in its turn. -/
inductive Turn where
  /-- Somebody outside cancels the run. -/
  | cancel
  /-- The source hands over what it was asked for. -/
  | handOver
  /-- The producer goes on. -/
  | produce
  /-- The launch of a batch starts. -/
  | start (batch : Batch)
  /-- The launch of a batch ends after so many more turns. -/
  | relay (batch : Batch) (plan : Plan) (turns : Nat)
  /-- The launch of a batch has been cut off and needs so much time to wind up. -/
  | abort (batch : Batch) (time : Nat)
  /-- The launches that the producer has waited for are over. -/
  | gathered
  /-- The pause of the consumer is over. -/
  | alarm
  /-- The consumer goes on. -/
  | consume

/-- The batch whose launch is running, if the turn is one of a running launch. -/
def Turn.running? : Turn → Option Batch
  | .relay b _ _ => some b
  | _ => none

/-- What is left to do for a launch that is cut off at some time: one that has not started only has
its turn, one that is running winds up. -/
def Turn.abort? (now : Nat) : Turn → Option Turn
  | .start b => some (.abort b 0)
  | .relay b plan _ => some (.abort b (plan.unwinds now))
  | _ => none

/-- A turn and when it comes. -/
structure TurnTimer where
  time : Nat
  turn : Turn

/-- Puts a timer in its place: behind all that are due no later. -/
def TurnTimer.insert (t : TurnTimer) : List TurnTimer → List TurnTimer
  | [] => [t]
  | next :: rest => if next.time ≤ t.time then next :: insert t rest else t :: next :: rest

/-- What the producer is doing. -/
inductive ProducerState where
  /-- It is about to ask for a batch. -/
  | asking
  /-- It waits for what it asked for. -/
  | waiting
  /-- It has a batch and waits for a slot. -/
  | blocked (batch : Batch)
  /-- It has a batch, and a slot has been handed over to it. -/
  | granted (batch : Batch)
  /-- It has been cut off, perhaps when a slot had been handed over to it. -/
  | halted (slot : Bool)
  /-- It asks for no more, perhaps because a batch was refused, and waits for the launches. It may
  have been cut off meanwhile. -/
  | gathering (stoppedEarly cut : Bool)
  /-- It is over. -/
  | finished (stoppedEarly : Bool)
  deriving DecidableEq, Repr

/-- Whether the producer is over. -/
def ProducerState.isFinished : ProducerState → Bool
  | .finished _ => true
  | _ => false

/-- Whether a batch was refused. -/
def ProducerState.stoppedEarly : ProducerState → Bool
  | .gathering early _ | .finished early => early
  | _ => false

/-- What the producer does once it has been cut off. -/
def ProducerState.cut : ProducerState → ProducerState
  | .granted _ => .halted true
  | .gathering early _ => .gathering early true
  | .finished early => .finished early
  | _ => .halted false

/-- The receiver of the events of a run. -/
structure Consumer where
  /-- How long it waits before it handles an event. -/
  pause : Nat := 0
  /-- What it does with an event, if it looks at it. -/
  listener : Listener := none
  /-- After how many events it leaves, if it does not stay to the end. -/
  patience : Option Nat := none
  /-- What an error that it raises means for the run. -/
  onRaise : Failure → RunError := fun failure => .fault (.callbackFailed failure)

/-- How long a consumer waits before it handles an event; it has no reason to if it does not look at
it. -/
def Consumer.delay (c : Consumer) : Nat := if c.listener.isSome then c.pause else 0

/-- How a consumer reacts to an event. -/
def Consumer.reaction (c : Consumer) (e : Event) : Reaction :=
  match c.listener with
  | some react => react e
  | none => {}

/-- Whether a consumer leaves after an event, and with what error if it does. -/
def Consumer.departure? (c : Consumer) (e : Event) : Option (Option RunError) :=
  match (c.reaction e).raises, c.patience with
  | some failure, _ => some (some (c.onRaise failure))
  | none, some most => if most ≤ e.completed then some none else none
  | none, none => none

/-- What the consumer is doing. -/
inductive ConsumerState where
  /-- It waits for an event. -/
  | idle
  /-- It has been called because of an event. -/
  | called
  /-- It is about to handle an event. -/
  | busy (event : Event)
  /-- It has been told that there are no more events, and waits for the producer to be over. -/
  | joining
  /-- It leaves, perhaps with an error, and waits for the producer and the launches to be over. -/
  | leaving (error : Option RunError)
  /-- It has left. -/
  | gone (error : Option RunError)
  deriving Repr

end BatchExec
