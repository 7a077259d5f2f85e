import BatchExec.Progress
import BatchExec.Runner
import BatchExec.Schedule.Pool
import BatchExec.Schedule.Stream

/-!
# From items to results

The whole way: items are grouped into batches, each batch makes a command line, and a schedule runs
the command lines.

* `Pipeline.launch`: the launcher of a configuration.
* `Pipeline.run`, `Pipeline.runAsync`: the items of a source through a blocking or an event-driven
  schedule.
* `Pipeline.call`: a run and what a caller is told of it.
-/

namespace BatchExec

namespace Pipeline

/-- The children of a run: how the one behaves that is started after so many others. -/
abbrev Children := Nat → Behaviour

/-- The launcher of a configuration: each batch is appended to the command. -/
def launch (runner : Runner) (config : Config) (children : Children) : Launcher :=
  fun ordinal time batch =>
    runner.plan config.timeout config.trace (children ordinal) (Runner.firstPid + ordinal) time
      ((Template.ofWords config.command).instantiate batch)

/-- The batches of a source. -/
def feed (config : Config) (source : ItemSource) : Feed :=
  .ofBatches ((source.group config.maxArgs).map Grouped.batch) source.failure

/-- The number of slots of a configuration. -/
def slots (config : Config) : Option Nat :=
  if config.maxProcs = 0 then none else some config.maxProcs

/-- Runs the command lines of a source, each in a slot of its own while the caller waits. -/
def run (threads : Threads) (config : Config) (source : ItemSource) (children : Children)
    (listener : Listener) (interruption : Interruption) : PoolRun :=
  let ledger : Ledger := { bound := slots config, stopOnError := config.stopOnError }
  (Pool.initial ledger interruption).run threads listener (launch .blocking config children)
    (feed config source)

/-- Runs the command lines of a source side by side, driven by events. -/
def runAsync (config : Config) (source : ItemSource) (children : Children) (listener : Listener)
    (interruption : Interruption) : StreamRun :=
  let tally : Tally := { free := slots config, stopOnError := config.stopOnError }
  (Stream.initial tally true interruption).run { listener } (launch .async config children) true
    (feed config source)

/-- What a run shows to a caller. -/
structure View where
  result : Except RunError Summary
  history : History
  /-- The schedule that wrote to the log. -/
  logger : Logger
  /-- What was done with each result. -/
  handler : ResultHandler
  /-- The time that the run took, in milliseconds. -/
  time : Nat
  deriving Repr

namespace View

/-- What the progress bar was told, if there was one. -/
def barCalls (v : View) : List BarCall := v.handler.barCalls [] (v.history.events.map Prod.fst)

/-- The events that the caller's function got, and when. -/
def heard (v : View) : List (Event × Nat) := v.handler.heard v.history.events

end View

/-- The receiver of events of a handler. -/
def listener (h : ResultHandler) : Listener := if h = .silent then none else .passive

/-- Runs the command lines of a source in one of the two ways. Only a run that is driven by events
can be cancelled from outside. -/
def view (runner : Runner) (threads : Threads) (config : Config) (source : ItemSource)
    (children : Children) (handler : ResultHandler) (interruption : Interruption) : View :=
  match runner with
  | .blocking =>
    let run := run threads config source children (listener handler) {}
    { result := run.result, history := run.pool.history, logger := .pool, handler
      time := run.pool.now }
  | .async =>
    let run := runAsync config source children (listener handler) interruption
    { result := run.result, history := run.stream.history, logger := .stream, handler
      time := run.stream.now }

/-- Runs the command lines of a source unless the request to be told of results cannot be met. -/
def call (runner : Runner) (threads : Threads) (config : Config) (source : ItemSource)
    (children : Children) (request : HandlerRequest) (barLibrary : Bool)
    (interruption : Interruption) : Except HandlerError View := do
  let handler ← ResultHandler.ofRequest request
  handler.enter barLibrary
  pure (view runner threads config source children handler interruption)

end Pipeline

end BatchExec
