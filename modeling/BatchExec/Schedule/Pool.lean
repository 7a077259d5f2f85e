import BatchExec.Schedule.Ledger
import BatchExec.Summary

/-!
# Blocking schedules

One thread, the controller, asks the source for batches, one at a time, waits for a free slot and
hands each batch to the workers. These take the batches up in the order in which they are handed
over, and run their launches side by side. Which thread goes on is not for the schedule to say. When
none can, time passes until something is due.

* `Pool`: the state of a run.
* `Threads`: which thread goes on.
* `Pool.successors`: what can happen next.
* `Pool.run`: a whole run.
* `Scheduler.run`: a run of a schedule that has not run yet.
-/

namespace BatchExec

/-- What is due at some time. -/
inductive Due where
  /-- The run is cancelled from outside. -/
  | cancel
  /-- The launch of a batch ends. -/
  | finish (batch : Batch) (plan : Plan)

/-- Whether what is due belongs to a launch. -/
def Due.isFinish : Due → Bool
  | .finish _ _ => true
  | .cancel => false

/-- Something that is due, and when. -/
structure Timer where
  time : Nat
  due : Due

/-- Puts a timer in its place: behind all that are due no later. -/
def Timer.insert (t : Timer) : List Timer → List Timer
  | [] => [t]
  | next :: rest => if next.time ≤ t.time then next :: Timer.insert t rest else t :: next :: rest

/-- What the controller of a blocking run is doing. -/
inductive Pool.Stage where
  /-- It is about to ask the source, which has these left. -/
  | asking (left : List FeedItem)
  /-- It has asked, and the source takes until some time. -/
  | pulling (time : Nat) (item : FeedItem) (left : List FeedItem)
  /-- It has a batch and wants a slot. -/
  | holding (batch : Batch) (left : List FeedItem)
  /-- It has a slot for a batch and is about to hand the batch over. -/
  | submitting (batch : Batch) (left : List FeedItem)
  /-- It asks for no more; if a batch was refused, the source has these left. -/
  | closing (cut : Option (List FeedItem))

/-- The state of a blocking run. -/
structure Pool where
  ledger : Ledger
  now : Nat := 0
  /-- What will be due, the next first. -/
  timers : List Timer := []
  /-- What is due, and has not been done. -/
  due : List Due := []
  /-- The batches that no worker has taken up, in the order in which they were handed over. -/
  queue : List Batch := []
  /-- The batches that workers have taken up, in this order, and whose launches have not started. -/
  taken : List Batch := []
  /-- The signals that the controller has not handled. -/
  signals : List Nat := []
  stage : Pool.Stage := .closing none
  /-- The number of launches that have started. -/
  launched : Nat := 0
  /-- What has happened, the latest first. -/
  past : List Entry := []

/-- How the threads of a run take turns. If nothing is said, workers go before the controller, and
time passes only when nobody can go on. -/
structure Threads where
  /-- Which of the things that can happen next happens, by its position among them. -/
  choice : Pool → Nat := fun _ => 0
  /-- Whether time may pass although somebody can go on. -/
  lags : Bool := false
  /-- Whether a launch may start before that of a batch that was taken up earlier. -/
  overtakes : Bool := false

/-- How a run went: its last state, and its summary unless it failed. -/
structure PoolRun where
  pool : Pool
  result : Except RunError Summary

/-- Every way to pick an element of a list: the element and the others. -/
def picks {α : Type} : List α → List (α × List α)
  | [] => []
  | x :: rest => (x, rest) :: (picks rest).map fun (y, others) => (y, x :: others)

namespace Pool

/-- What has happened so far, in order. -/
def history (p : Pool) : History := p.past.reverse

/-- Adds to the history what happens now. -/
def note (p : Pool) (happenings : List Happening) : Pool :=
  { p with past := (happenings.map (⟨p.now, ·⟩)).reverse ++ p.past }

/-- Replaces the ledger and adds to the history what that brought about. -/
def book (p : Pool) (outcome : Ledger × List Happening) : Pool :=
  note { p with ledger := outcome.1 } outcome.2

/-- Stops the run from outside. -/
def cancel (p : Pool) : Pool := p.book (p.ledger.cancel, [.cancelled])

/-- The state before a run. -/
def initial (ledger : Ledger) (interruption : Interruption) : Pool :=
  let p : Pool := { ledger }
  let p := if interruption.beforehand then p.cancel else p
  { p with timers := interruption.time.toList.map (⟨·, .cancel⟩) }

/-! ## Workers -/

section

variable (listener : Listener) (launch : Launcher)

/-- The launch of a batch has ended: a worker gives its slot back. -/
def finish (p : Pool) (b : Batch) (plan : Plan) : Pool :=
  let p := p.note (.ended b :: plan.closing.map .remarked)
  let p := if plan.cancels then p.cancel else p
  p.book (p.ledger.release listener b plan.ending)

/-- Does what is due. -/
def perform (p : Pool) : Due → Pool
  | .cancel => p.cancel
  | .finish b plan => finish listener p b plan

/-- The end of a launch that has started is due at once if the launch never waits; else a timer is
set for it. -/
def takeOff (p : Pool) (b : Batch) (plan : Plan) : Pool :=
  match plan.duration with
  | none => { p with due := .finish b plan :: p.due }
  | some duration =>
    { p with timers := Timer.insert ⟨p.now + duration, .finish b plan⟩ p.timers }

/-- The state when the launch of a batch has begun. Signals may come right after that. -/
def began (p : Pool) (b : Batch) (plan : Plan) : Pool :=
  let p := p.note (.started b :: plan.opening.map .remarked ++ plan.attempt.toList.map .attempted)
  { p with launched := p.launched + 1, signals := p.signals ++ plan.signals }

/-- A worker starts the launch of a batch. -/
def start (p : Pool) (b : Batch) : Pool :=
  let plan := launch p.launched p.now b
  (p.began b plan).takeOff b plan

/-- A worker takes up the batch that was handed over first. -/
def takeUp (p : Pool) : Option Pool :=
  match p.queue with
  | [] => none
  | b :: rest => some { p with queue := rest, taken := p.taken ++ [b] }

/-- The batches whose launches can start next, each with the others that have been taken up. -/
def startable (threads : Threads) (p : Pool) : List (Batch × List Batch) :=
  if threads.overtakes then picks p.taken else (picks p.taken).take 1

/-- What the workers and those who cancel the run from outside can do next. -/
def workers (threads : Threads) (p : Pool) : List Pool :=
  (picks p.due).map (fun (due, rest) => perform listener { p with due := rest } due) ++
    (p.startable threads).map (fun (b, rest) => start launch { p with taken := rest } b) ++
    p.takeUp.toList

end

/-! ## The controller -/

/-- The signals that cancel a run: an interrupt and the wish that the program end. No other has any
effect. -/
def cancellingSignals : List Nat := [2, 15]

/-- What the program says of a signal that cancels its run. -/
def signalRecord (signal : Nat) : LogRecord :=
  ⟨.commandLine, .warning,
    "received signal " ++ Text.ofNat signal ++ "; waiting for running commands to finish"⟩

/-- Handles a signal, which may cancel the run. -/
def heed (p : Pool) (signal : Nat) : Pool :=
  if cancellingSignals.contains signal then
    (p.note [.remarked (.logged (signalRecord signal))]).cancel
  else p

/-- The source comes up with a batch. -/
def receive (p : Pool) (b : Batch) (left : List FeedItem) : Pool :=
  { p.note [.received b] with stage := .holding b left }

/-- Asks for a slot for a batch. If there is none, the controller sleeps until it is woken up; then
it asks again. -/
def request (p : Pool) (b : Batch) (left : List FeedItem) : Pool :=
  match p.ledger.request with
  | .granted ledger =>
    { p.book (ledger, [.admitted b ledger.active]) with stage := .submitting b left }
  | .refused => { p.note [.refused b] with stage := .closing (some left) }
  | .blocked => { p with ledger := p.ledger.sleep }

/-- The controller goes on, unless it waits for the source, for a slot or for the end. -/
def proceed (p : Pool) : Option Pool :=
  match p.stage with
  | .asking [] => some { p.note [.requested] with stage := .closing none }
  | .asking (item :: left) =>
    let p := p.note [.requested]
    some (if item.delay = 0 then p.receive item.batch left
      else { p with stage := .pulling (p.now + item.delay) item left })
  | .holding b left => if p.ledger.asleep then none else some (p.request b left)
  | .submitting b left =>
    some { p.note [.submitted b] with queue := p.queue ++ [b], stage := .asking left }
  | .pulling _ _ _ | .closing _ => none

/-- What the controller does next: it handles signals before all else, even while it waits. -/
def control (p : Pool) : Option Pool :=
  match p.signals with
  | signal :: rest => some (heed { p with signals := rest } signal)
  | [] => p.proceed

/-! ## Time -/

/-- Time passes until the next timer goes off. -/
def expire (p : Pool) (t : Timer) (rest : List Timer) : Pool :=
  { p with timers := rest, due := p.due ++ [t.due], now := max p.now t.time }

/-- Whether the launch of some batch that has been handed over has not ended. -/
def busy (p : Pool) : Bool :=
  !p.queue.isEmpty || !p.taken.isEmpty || p.due.any Due.isFinish ||
    p.timers.any (·.due.isFinish)

/-- Time passes until the next timer goes off or the source comes up with a batch, unless the run is
over. -/
def elapse (p : Pool) : Option Pool :=
  match p.timers, p.stage with
  | [], .pulling time item left => some (receive { p with now := max p.now time } item.batch left)
  | t :: rest, .pulling time item left =>
    some (if t.time ≤ time then p.expire t rest
      else receive { p with now := max p.now time } item.batch left)
  | t :: rest, .closing _ => if p.busy then some (p.expire t rest) else none
  | t :: rest, _ => some (p.expire t rest)
  | [], _ => none

/-! ## Runs -/

section

variable (threads : Threads) (listener : Listener) (launch : Launcher)

/-- What somebody can do next without waiting. -/
def actions (p : Pool) : List Pool := workers listener launch threads p ++ p.control.toList

/-- Everything that can happen next. What is due at this very time may go before anybody goes on. -/
def successors (p : Pool) : List Pool :=
  let actions := actions threads listener launch p
  actions ++ (p.elapse.filter fun q =>
    threads.lags || actions.isEmpty || q.now == p.now).toList

/-- What happens next; nothing if the run is over. -/
def next? (p : Pool) : Option Pool :=
  let options := successors threads listener launch p
  options[threads.choice p % options.length]?

/-- Goes on until the run is over, but for so many steps at most. -/
def settle : (steps : Nat) → Pool → Pool
  | 0, p => p
  | steps + 1, p =>
    match next? threads listener launch p with
    | some p => settle steps p
    | none => p

end

/-- How many steps follow at most from what the controller is doing. -/
def Stage.work : Stage → Nat
  | .asking left => 16 * left.length + 1
  | .pulling _ _ left => 16 * left.length + 15
  | .holding _ left => 16 * left.length + 14
  | .submitting _ left => 16 * left.length + 13
  | .closing _ => 0

/-- How many steps are left of a run at most. -/
def work (p : Pool) : Nat :=
  3 * p.timers.length + 2 * p.due.length + 2 * p.signals.length + 8 * p.taken.length +
    9 * p.queue.length + p.stage.work + (!p.ledger.asleep).toNat

/-- Whether a batch has been turned away. -/
def Stage.refused : Stage → Bool
  | .closing cut => cut.isSome
  | _ => false

/-- A whole run. If the source fails, its failure is what the run ends with, even if there is a
fault. -/
def run (threads : Threads) (listener : Listener) (launch : Launcher) (feed : Feed) (p : Pool) :
    PoolRun :=
  let p := { p with stage := .asking feed.items }
  let p := settle threads listener launch p.work p
  let stoppedEarly := p.stage.refused
  let result := match (if stoppedEarly then none else feed.failure), p.ledger.fault with
    | some failure, _ => .error (.source failure)
    | none, some fault => .error (.fault fault)
    | none, none =>
      .ok (Summary.ofCompleted p.ledger.completed stoppedEarly (.upTo p.now) p.ledger.peak)
  ⟨p, result⟩

end Pool

/-- A blocking schedule, which can run once. -/
structure Scheduler where
  ledger : Ledger
  /-- Whether it has run. -/
  spent : Bool := false
  deriving Repr

namespace Scheduler

/-- A schedule of at most `maxProcs` launches at a time; zero sets no limit. -/
def ofLimit? (maxProcs : Int) (stopOnError : Bool) : Except Failure Scheduler :=
  (slotBound? maxProcs).map fun bound => { ledger := { bound, stopOnError } }

/-- What is said of a second run. -/
def spentFailure : Failure := .saying "RuntimeError" "a Scheduler can only run once"

/-- Runs a schedule that has not run yet. -/
def run (s : Scheduler) (threads : Threads) (listener : Listener) (launch : Launcher) (feed : Feed)
    (interruption : Interruption) : Except Failure PoolRun :=
  if s.spent then .error spentFailure
  else .ok ((Pool.initial s.ledger interruption).run threads listener launch feed)

end Scheduler

end BatchExec
