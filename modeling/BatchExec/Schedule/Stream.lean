import BatchExec.Schedule.Turn
import BatchExec.Summary

/-!
# Event-driven schedules

A producer asks the source for batches and admits them; launches run side by side; a consumer takes
the events of their results from a queue. When the producer asks for no more it waits for the
launches and tells the consumer, through the queue, that there are no more events. A consumer that
leaves cuts off the producer and the launches and waits for them. Everybody has a turn in each round
in which there is something to do. When nobody has, time passes until the first timer is due.

* `Stream`: the state of a run.
* `Stream.next?`: the state after the next turn.
* `Stream.run`: a whole run.
-/

namespace BatchExec

/-- The state of an event-driven run. -/
structure Stream where
  tally : Tally
  /-- Whether somebody can cancel the run from outside. -/
  cancellable : Bool := true
  now : Nat := 0
  /-- What the source has not handed over. -/
  feed : List FeedItem := []
  producer : ProducerState := .asking
  consumer : ConsumerState := .idle
  /-- What the consumer has not taken: events, and that there are no more. -/
  queue : List (Option Event) := []
  /-- The turns left in this round. -/
  ready : List Turn := []
  /-- The turns of the next round. -/
  upcoming : List Turn := []
  /-- The turns that wait for a time, the next first. -/
  timers : List TurnTimer := []
  /-- The number of launches that have started. -/
  launched : Nat := 0
  /-- The number of tasks: there is one for each launch that has been set off. -/
  tasks : Nat := 0
  /-- How many of the tasks are over. -/
  done : Nat := 0
  /-- What has happened, the latest first. -/
  past : List Entry := []

/-- How a run went: its last state, and its summary unless it failed. -/
structure StreamRun where
  stream : Stream
  result : Except RunError Summary

namespace Stream

/-- What has happened so far, in order. -/
def history (s : Stream) : History := s.past.reverse

/-- Adds to the history what happens now. -/
def note (s : Stream) (happenings : List Happening) : Stream :=
  { s with past := (happenings.map (⟨s.now, ·⟩)).reverse ++ s.past }

/-- Gives somebody a turn in the next round. -/
def call (s : Stream) (turn : Turn) : Stream := { s with upcoming := s.upcoming ++ [turn] }

/-- Gives somebody a turn after some time. -/
def callAfter (s : Stream) (time : Nat) (turn : Turn) : Stream :=
  { s with timers := TurnTimer.insert ⟨s.now + time, turn⟩ s.timers }

/-- Cancels the run from outside, if somebody can. -/
def cancel (s : Stream) : Stream :=
  if s.cancellable then note { s with tally := s.tally.cancel } [.cancelled] else s

/-- The state before a run. -/
def initial (tally : Tally) (cancellable : Bool) (interruption : Interruption) : Stream :=
  let s : Stream := { tally, cancellable }
  let s := if interruption.beforehand then s.cancel else s
  { s with timers := interruption.time.toList.map (⟨·, .cancel⟩) }

/-- The turns that are to come. -/
def turns (s : Stream) : List Turn := s.ready ++ s.upcoming ++ s.timers.map TurnTimer.turn

/-- The batches whose launches are running. -/
def running (s : Stream) : List Batch := s.turns.filterMap Turn.running?

/-- If all tasks are over, whoever waits for that is called: the producer, or a consumer that leaves
and waits for the producer as well. -/
def notify (s : Stream) : Stream :=
  if s.done = s.tasks then
    match s.producer, s.consumer with
    | .gathering _ _, _ => s.call .gathered
    | .finished _, .leaving _ => s.call .consume
    | _, _ => s
  else s

/-- The consumer is about to leave: the producer and the launches are cut off, and nobody else has a
turn any more. -/
def cutOff (s : Stream) (error : Option RunError) : Stream :=
  let s := s.note (s.running.map .killed)
  { s with
    ready := []
    upcoming := s.turns.filterMap (Turn.abort? s.now)
    timers := []
    producer := s.producer.cut
    consumer := .leaving error }

/-- The consumer leaves, and waits for the producer and the launches, which have been cut off. -/
def leave (s : Stream) (error : Option RunError) : Stream :=
  let s := s.cutOff error
  match s.producer with
  | .halted _ => s.call .produce
  | _ => s.notify

/-! ## The consumer -/

variable (consumer : Consumer)

/-- The consumer hears of an event. -/
def hear (s : Stream) (e : Event) : Stream :=
  let s := if consumer.listener.isSome then s.note [.delivered e] else s
  if (consumer.reaction e).cancels then s.cancel else s

/-- The consumer handles an event. -/
def handle (s : Stream) (e : Event) : Stream :=
  let s := hear consumer { s with consumer := .idle } e
  match consumer.departure? e with
  | some error => s.leave error
  | none => s

/-- The consumer takes what the queue holds, these, until it waits or leaves. -/
def deliver : List (Option Event) → Stream → Stream
  | [], s => { s with queue := [] }
  | item :: rest, s =>
    match s.consumer, item with
    | .idle, none => { s with queue := rest, consumer := .joining }
    | .idle, some e =>
      if consumer.delay = 0 then deliver rest (handle consumer s e)
      else callAfter { s with queue := rest, consumer := .busy e } consumer.delay .alarm
    | _, _ => { s with queue := item :: rest }

/-- The consumer goes on: it handles the event that it is busy with, and takes what the queue holds;
if it leaves, whatever it has waited for is over. -/
def consume (s : Stream) : Stream :=
  let s := match s.consumer with
    | .busy e => handle consumer s e
    | .called => { s with consumer := .idle }
    | .leaving error => { s with consumer := .gone error }
    | _ => s
  deliver consumer s.queue s

/-- Puts an event into the queue, or that there are no more, and calls the consumer if it waits for
that. -/
def put (s : Stream) (item : Option Event) : Stream :=
  let queue := s.queue ++ [item]
  match s.consumer with
  | .idle => call { s with queue, consumer := .called } .consume
  | _ => { s with queue }

/-! ## Launches -/

/-- Hands a free slot over to the producer if it waits for one. -/
def grant (s : Stream) : Stream :=
  match s.producer, s.tally.reserve? with
  | .blocked b, some tally => call { s with tally, producer := .granted b } .produce
  | _, _ => s

/-- Takes over what the end of a launch brings about: a new tally, perhaps with a free slot, and
then perhaps an event. -/
def book (s : Stream) (outcome : Tally × List Happening × Option Event) : Stream :=
  let s := (note { s with tally := outcome.1 } outcome.2.1).grant
  match outcome.2.2 with
  | some e => s.put (some e)
  | none => s

/-- A task is over. -/
def conclude (s : Stream) : Stream := notify { s with done := s.done + 1 }

/-- Ends the launch of a batch. -/
def finish (s : Stream) (b : Batch) (plan : Plan) : Stream :=
  let s := s.note (.ended b :: plan.closing.map .remarked)
  let s := if plan.cancels then s.cancel else s
  (s.book (s.tally.finish b plan.ending)).conclude

variable (launch : Launcher)

/-- Starts the launch of a batch. It ends at once, or waits. -/
def start (s : Stream) (b : Batch) : Stream :=
  let plan := launch s.launched s.now b
  let s := { s with launched := s.launched + 1 }
  let s := s.note (.started b :: plan.opening.map .remarked ++ plan.attempt.toList.map .attempted)
  match plan.duration with
  | none => s.finish b plan
  | some duration =>
    if duration = 0 ∧ plan.waitsFor = .sleep then s.call (.relay b plan 0)
    else s.callAfter duration (.relay b plan plan.waitsFor.turns)

/-! ## The producer -/

/-- The producer is over. -/
def retire (s : Stream) (early : Bool) : Stream := notify { s with producer := .finished early }

/-- The producer, which has waited for all launches, is over; unless it has been cut off meanwhile,
it says before that there are no more events. -/
def signOff (s : Stream) (early cut : Bool) : Stream :=
  if cut then s.retire early else (s.put none).retire early

/-- The producer asks for no more: it waits for the launches, if there have been any. -/
def close (s : Stream) (early : Bool) : Stream :=
  let s := { s with producer := .gathering early false }
  if s.tasks = 0 then s.signOff early false else s.notify

/-- Turns a batch away, after which the producer asks for no more. -/
def refuse (s : Stream) (b : Batch) : Stream := (s.note [.refused b]).close true

/-- Admits a batch for which there is a slot. -/
def admitBatch (s : Stream) (b : Batch) : Stream :=
  let tally := s.tally.count
  let s := { s with tally, tasks := s.tasks + 1, producer := .asking }
  (s.note [.admitted b tally.active]).call (.start b)

/-- The producer gets a batch: it turns it away, admits it or waits for a slot. -/
def receive (s : Stream) (b : Batch) : Stream :=
  let s := s.note [.received b]
  if s.tally.cancelled then s.refuse b
  else match s.tally.reserve? with
    | some tally => admitBatch { s with tally } b
    | none => { s with producer := .blocked b }

/-- The producer asks for batches as long as it need not wait; the source has these left. A source
that is asked without `detour` answers at once if it has no delay. -/
def pull (detour : Bool) : List FeedItem → Stream → Stream
  | [], s =>
    let s := s.note [.requested]
    if detour then call { s with feed := [], producer := .waiting } .handOver
    else close { s with feed := [] } false
  | item :: rest, s =>
    let s := s.note [.requested]
    let asked := { s with feed := item :: rest, producer := .waiting }
    if item.delay ≠ 0 then asked.callAfter item.delay .handOver
    else if detour then asked.call .handOver
    else
      let s := receive { s with feed := rest } item.batch
      if s.producer = .asking then pull detour rest s else s

/-- The producer takes what the source has handed over, or a slot; if it has been cut off, it gives
a slot back and asks for no more. -/
def take (s : Stream) : Stream :=
  match s.producer, s.feed with
  | .waiting, [] => s.close false
  | .waiting, item :: rest => receive { s with feed := rest } item.batch
  | .granted b, _ =>
    if s.tally.cancelled then refuse { s with tally := s.tally.giveBack } b else s.admitBatch b
  | .halted slot, _ =>
    close { s with tally := if slot then s.tally.giveBack else s.tally } false
  | _, _ => s

/-- The producer goes on until it has to wait. -/
def produce (detour : Bool) (s : Stream) : Stream :=
  let s := s.take
  if s.producer = .asking then pull detour s.feed s else s

/-- The producer goes on when all launches are over. -/
def gather (s : Stream) : Stream :=
  match s.producer with
  | .gathering early cut => s.signOff early cut
  | _ => s

/-! ## Turns -/

/-- Somebody has a turn. -/
def act (detour : Bool) (s : Stream) : Turn → Stream
  | .cancel => s.cancel
  | .handOver => s.call .produce
  | .produce => s.produce detour
  | .start b => start launch s b
  | .relay b plan 0 => s.finish b plan
  | .relay b plan (turns + 1) => s.call (.relay b plan turns)
  | .abort _ 0 => s.conclude
  | .abort b (time + 1) => s.callAfter (time + 1) (.abort b 0)
  | .gathered => s.gather
  | .alarm => s.call .consume
  | .consume => consume consumer s

/-- A new round, at some time: those who were called have their turns, then those whose time has
come. -/
def round (s : Stream) (now : Nat) : Stream :=
  { s with
    now
    ready := s.upcoming ++ (s.timers.takeWhile (·.time ≤ now)).map TurnTimer.turn
    upcoming := []
    timers := s.timers.dropWhile (·.time ≤ now) }

/-- Whether the run is over: the consumer has left, or it knows that there are no more events and
the producer, for which it waits, is over. -/
def isOver (s : Stream) : Bool :=
  match s.consumer with
  | .gone _ => true
  | .joining => s.producer.isFinished
  | _ => false

/-- The state after the next turn, or at the start of the next round; none if the run is over. Time
passes only if nobody has a turn. -/
def next? (detour : Bool) (s : Stream) : Option Stream :=
  if s.isOver then none
  else match s.ready, s.upcoming, s.timers with
    | turn :: rest, _, _ => some (act consumer launch detour { s with ready := rest } turn)
    | [], [], [] => none
    | [], [], t :: _ => some (s.round (max s.now t.time))
    | [], _, _ => some (s.round s.now)

/-- Goes on until the run is over, but for so many steps at most. -/
def settle (detour : Bool) : (steps : Nat) → Stream → Stream
  | 0, s => s
  | steps + 1, s =>
    match next? consumer launch detour s with
    | some s => settle detour steps s
    | none => s

end Stream

/-! ## Work -/

/-- How many steps a turn and what follows from it take at most. -/
def Turn.work : Turn → Nat
  | .cancel | .produce | .consume => 1
  | .handOver | .alarm => 3
  | .gathered => 9
  | .abort _ 0 => 11
  | .abort _ (_ + 1) => 13
  | .relay _ _ turns => 19 + 2 * turns
  | .start _ => 27

/-- How many steps follow from what the producer is doing. -/
def ProducerState.work : ProducerState → Nat
  | .asking => 14
  | .waiting | .halted _ => 10
  | .blocked _ | .granted _ => 42
  | .gathering _ _ | .finished _ => 0

/-- How many steps follow if the consumer leaves. -/
def ConsumerState.work : ConsumerState → Nat
  | .leaving _ | .gone _ => 0
  | _ => 16

namespace Stream

/-- How many steps some turns take at most, each of them `more` on top. -/
def workOf (more : Nat) : List Turn → Nat
  | [] => 0
  | turn :: rest => turn.work + more + workOf more rest

/-- How many steps are left of a run at most. -/
def work (s : Stream) : Nat :=
  workOf 0 s.ready + workOf 1 s.upcoming + workOf 1 (s.timers.map TurnTimer.turn) +
    4 * s.queue.length + 42 * s.feed.length + s.producer.work + s.consumer.work

/-! ## Runs -/

variable (consumer : Consumer) (launch : Launcher)

/-- A whole run. If the source fails, its failure, as the schedule gets to know of it, is what the
run ends with, even if there is a fault; if the consumer leaves, the run ends as it says. -/
def run (detour : Bool) (feed : Feed) (s : Stream) : StreamRun :=
  let s := pull detour feed.items s
  let s := settle consumer launch detour s.work s
  let early := s.producer.stoppedEarly
  let summary := Summary.ofCompleted s.tally.completed early (.upTo s.now) s.tally.peak
  let result := match s.consumer, (if early then none else (feed.relayed detour).failure),
      s.tally.fault with
    | .gone (some error), _, _ => .error error
    | .gone none, _, _ => .ok summary
    | _, some failure, _ => .error (.source failure)
    | _, none, some fault => .error (.fault fault)
    | _, none, none => .ok summary
  ⟨s, result⟩

end Stream

end BatchExec
