import BatchExec.Schedule.Launch

/-!
# The history of a run

Everything that happens in a run, with the time at which it happens. What a run shows, its log, its
events, the commands that it started, is a view of its history.
-/

namespace BatchExec

/-- What can happen in a run. -/
inductive Happening where
  /-- The source is asked for a batch. -/
  | requested
  /-- The source has come up with a batch. -/
  | received (batch : Batch)
  /-- A batch is turned away because the run is cancelled. -/
  | refused (batch : Batch)
  /-- A batch has got a slot; so many slots are taken now. -/
  | admitted (batch : Batch) (active : Int)
  /-- A batch that has a slot is handed to the workers. -/
  | submitted (batch : Batch)
  /-- The launch of a batch starts. -/
  | started (batch : Batch)
  /-- The launch of a batch ends. -/
  | ended (batch : Batch)
  /-- A launch is cut off. -/
  | killed (batch : Batch)
  /-- A result comes in. -/
  | recorded (result : Result)
  /-- The run admits nothing more because of a result. -/
  | stopping (result : Result)
  /-- The run turns out to be broken. -/
  | faulted (fault : Fault)
  /-- The receiver gets an event. -/
  | delivered (event : Event)
  /-- Somebody cancels the run. -/
  | cancelled
  /-- A launch tries to start a child process. -/
  | attempted (attempt : Attempt)
  /-- A launch writes something. -/
  | remarked (remark : Remark)
  deriving DecidableEq, Repr

/-- Something that happened, and when. -/
structure Entry where
  time : Nat
  what : Happening
  deriving DecidableEq, Repr

/-- Everything that happened in a run, in order. -/
abbrev History := List Entry

/-- What a schedule writes to its log about something that happens. -/
def Happening.remark? (logger : Logger) : Happening → Option Remark
  | .admitted b active => some <| .logged ⟨logger, .debug,
      "admitting batch #" ++ Text.ofInt b.index ++ " (" ++ Text.ofInt active ++ " active)"⟩
  | .stopping r => some <| .logged ⟨logger, .info,
      "stopping admission after failure: " ++ r.describe⟩
  | .faulted f => some <| .logged ⟨logger, .error, f.message⟩
  | .remarked remark => some remark
  | _ => none

namespace History

/-- What is written in the course of a run, by the schedule and by the launches. -/
def remarks (h : History) (logger : Logger) : List Remark := h.filterMap (·.what.remark? logger)

/-- The log of a run. -/
def log (h : History) (logger : Logger) : List LogRecord :=
  (h.remarks logger).filterMap Remark.record?

/-- The lines that launches print. -/
def printed (h : History) : List Text :=
  h.filterMap fun entry => match entry.what with
    | .remarked (.printed line) => some line
    | _ => none

/-- The launches that started: the index of the batch and the time. -/
def started (h : History) : List (Int × Nat) :=
  h.filterMap fun entry => match entry.what with
    | .started b => some (b.index, entry.time)
    | _ => none

/-- The launches that ended by themselves: the index of the batch and the time. -/
def ended (h : History) : List (Int × Nat) :=
  h.filterMap fun entry => match entry.what with
    | .ended b => some (b.index, entry.time)
    | _ => none

/-- The batches whose launches were cut off. -/
def killed (h : History) : List Int :=
  h.filterMap fun entry => match entry.what with
    | .killed b => some b.index
    | _ => none

/-- The events that the receiver got, and when. -/
def events (h : History) : List (Event × Nat) :=
  h.filterMap fun entry => match entry.what with
    | .delivered e => some (e, entry.time)
    | _ => none

/-- The attempts to start child processes. -/
def attempts (h : History) : List Attempt :=
  h.filterMap fun entry => match entry.what with
    | .attempted a => some a
    | _ => none

end History

end BatchExec
