import BatchExec.Proofs.Faults
import BatchExec.Proofs.Pool.Announcement
import BatchExec.Proofs.Stream.Announcement

/-!
# Results are told

A receiver of events that neither raises an error nor leaves is told of every result of a run, be it
cancelled, broken or without a working source: once, in the order in which the results come in, with
its number and the number of launches that are then active, and before the run ends.

* `History.TellsAll`: what the receiver has been told in the end.
* `History.Announces.tellsAll`: **when no event is pending, every result has been told.**
* `Stream.EndsLast`, `Stream.Drained`: how the end of the events is told, and how a run is over.
* `Setting.results_told`: **both schedules tell of every result.**
-/

namespace BatchExec

namespace History

/-- In a history with these landings the receiver of events is told of every result. -/
structure TellsAll (h : History) (landings : List Landing) (results : List Result) : Prop where
  /-- The results are those of the launches that ended, in that order. -/
  landed : h.landed = landings.map (·.flight.batch)
  completed : results = landings.filterMap (·.flight.result?)
  recorded : h.recorded = results
  /-- Each is told once, in turn, and gets the next number, -/
  told : h.heard.map Event.result = results
  numbered : h.heard.map Event.completed = List.range' 1 results.length
  /-- and its event counts the launches that have got a slot and have not ended when it comes in,
  right after the end of its own launch. -/
  levels : ∀ (before : History) time r after, h = before ++ ⟨time, .recorded r⟩ :: after →
    (∃ b, before.landed.getLast? = some b ∧ r.index = b.index) ∧
      h.heard[before.recorded.length]? = some ⟨r, before.recorded.length + 1,
        before.admitted.length - before.landed.length⟩

variable {receiver : Listener} {h : History} {level : Int} {results : List Result}
  {landings : List Landing}

/-- The event of a result counts the results and the active launches up to it. -/
theorem getElem?_announcements (before : History) (time : Nat) (r : Result) (after : History) :
    (before ++ ⟨time, .recorded r⟩ :: after).announcements[before.recorded.length]? =
      some ⟨r, before.recorded.length + 1, before.admitted.length - before.landed.length⟩ := by
  have length := congrArg List.length before.map_result_announcements
  rw [List.length_map] at length
  rw [announcements_append, List.getElem?_append_right (Nat.le_of_eq length), length, Nat.sub_self]
  rfl

/-- **When no event is pending, every result has been told.** -/
theorem Announces.tellsAll (announces : h.Announces receiver level results [])
    (listens : receiver.isSome = true) (landed : h.landed = landings.map (·.flight.batch))
    (completed : results = landings.filterMap (·.flight.result?)) :
    h.TellsAll landings results := by
  obtain ⟨-, recorded, own, taken, all, told⟩ := announces
  rw [List.append_nil] at all
  have heard : h.heard = h.announcements := (told listens).symm.trans all
  refine ⟨landed, completed, recorded, ?_, ?_, ?_⟩
  · rw [heard, map_result_announcements, recorded]
  · rw [heard, map_completed_announcements, recorded]
  · rintro before time r after split
    rw [split, ownFrom_append, Option.or_none] at own
    rw [heard, split]
    exact ⟨own.2.1, getElem?_announcements before time r after⟩

end History

namespace Stream

variable {s : Stream}

/-- Nothing stands in the queue behind the end of the events, which is said when all tasks are over.
-/
structure EndsLast (s : Stream) : Prop where
  last : none ∉ s.queue.dropLast
  tasks : none ∈ s.queue → s.done = s.tasks

theorem Sealed.endsLast (closes : s.Sealed) : s.EndsLast := by
  have hears := closes.queue
  by_cases joining : s.consumer = .joining
  · rw [joining] at hears
    exact ⟨by simp [hears.2], by simp [hears.2]⟩
  · obtain ⟨events, holds⟩ := hears.of_ne joining
    cases closed : s.producer.isFinished with
    | true => exact ⟨by simp [holds, closed], fun _ => closes.closed closed⟩
    | false =>
      rw [closed] at holds
      have silent : none ∉ s.queue := by simp [holds]
      exact ⟨fun mem => silent (List.dropLast_subset _ mem), fun mem => absurd mem silent⟩

/-- The consumer has taken every event and knows that there are no more, and all others are over. -/
structure Drained (s : Stream) : Prop where
  consumer : s.consumer = .joining
  queue : s.queue = []
  tasks : s.done = s.tasks
  producer : s.producer.isFinished = true

end Stream

namespace Setting

variable {s : Setting}

/-- A blocking run tells of every result. -/
theorem blocking_told (calm : s.listener.Calm) (listens : s.listener.isSome = true) :
    ∃ run landings, s.blocking = .ok run ∧
      run.pool.history.TellsAll landings run.pool.ledger.completed := by
  obtain ⟨run, ran, passes, -⟩ := blocking_rests (allow_cancels calm) (.inr trivial)
  have announces : run.pool.Announces s.listener :=
    Pool.announces_of_passes (pool_allow (allow_cancels calm)) id (.inr trivial) passes
  obtain ⟨landings, tells⟩ := blocking_tells (allow_cancels calm) (.inr trivial) passes
  exact ⟨run, landings, ran, announces.tellsAll listens tells.landed tells.completed⟩

/-- An event-driven run tells of every result, whoever takes its events, if it stays to the end, and
is over when it has told that there are no more. -/
theorem stream_told (calm : s.listener.Calm) (listens : s.listener.isSome = true)
    {consumer : Consumer} (reads : consumer.listener = s.listener) (stays : consumer.Stays)
    (cancellable detour : Bool) :
    ∃ run landings, run = (s.stream cancellable).run consumer s.launch detour s.feed ∧
      run.stream.history.TellsAll landings run.stream.tally.completed ∧ run.stream.Drained := by
  have allow : (s.rules True False).Allow consumer.listener := reads ▸ allow_cancels calm
  obtain ⟨passes, halted⟩ :=
    Stream.run_passes consumer s.launch detour s.feed (s.stream cancellable)
  have here := Stream.here_of_stays stays passes
  obtain ⟨joining, empty, closed, -⟩ := Stream.ended_of_over allow (.inr trivial) passes halted here
  have closes := ((Stream.sealed_of_passes allow (.inr trivial) passes).resolve_right
    fun departed => departed.not_here here).2
  have finished : _ = true := (joining ▸ closes.queue).1
  have announces := (Stream.announces_of_passes allow (.inr trivial) passes).1
  rw [Stream.unheard, joining, empty, reads] at announces
  obtain ⟨landings, tells⟩ := Stream.tells_of_over allow (.inr trivial) passes halted here
  exact ⟨_, landings, rfl, announces.tellsAll listens tells.landed tells.completed,
    joining, empty, closed, finished⟩

/-- In every state of an event-driven run whose consumer stays, the end of the events comes last. -/
theorem stream_endsLast (calm : s.listener.Calm) {consumer : Consumer}
    (reads : consumer.listener = s.listener) (stays : consumer.Stays) {cancellable detour : Bool}
    {t : Stream} (passes : Stream.Passes consumer s.launch detour s.feed (s.stream cancellable) t) :
    t.EndsLast := by
  have allow : (s.rules True False).Allow consumer.listener := reads ▸ allow_cancels calm
  have here := Stream.here_of_stays stays passes
  exact ((Stream.sealed_of_passes allow (.inr trivial) passes).resolve_right
    fun departed => departed.not_here here).2.endsLast

/-- **Both schedules tell of every result** before they end, whatever the launches and the source do
and whoever cancels the run: the receiver of events, which raises no error, and any other consumer
that stays to the end. An event-driven run says through the queue, after all events, that there are
no more, and it is over when that is taken and nothing else is under way. -/
theorem results_told (calm : s.listener.Calm) (listens : s.listener.isSome = true)
    {consumer : Consumer} (reads : consumer.listener = s.listener) (stays : consumer.Stays)
    (pause : Nat) (cancellable detour : Bool) :
    (∃ run landings, s.blocking = .ok run ∧
      run.pool.history.TellsAll landings run.pool.ledger.completed) ∧
    (∃ run landings, s.events pause cancellable detour = .ok run ∧
      run.stream.history.TellsAll landings run.stream.tally.completed ∧ run.stream.Drained) ∧
    (∃ run landings, run = (s.stream cancellable).run consumer s.launch detour s.feed ∧
      run.stream.history.TellsAll landings run.stream.tally.completed ∧ run.stream.Drained) ∧
    ∀ t, Stream.Passes consumer s.launch detour s.feed (s.stream cancellable) t → t.EndsLast := by
  refine ⟨blocking_told calm listens, ?_, stream_told calm listens reads stays cancellable detour,
    fun t passes => stream_endsLast calm reads stays passes⟩
  obtain ⟨run, landings, ran, told⟩ :=
    stream_told calm listens rfl (stays_of_calm calm pause) cancellable detour
  exact ⟨run, landings, ran ▸ s.events_eq pause cancellable detour, told⟩

/-- The batches `a`, `b` and `c`, after which the source fails: the launch of the second raises an
error, the other two succeed, and somebody cancels the run meanwhile. -/
def troubled : Setting where
  maxProcs := 2
  launch := fun ordinal _ b =>
    { duration := some (5 + 2 * ordinal)
      ending := if ordinal = 1 then .raised (.saying "RuntimeError" "")
        else .returned { invocation := ⟨b, b.items⟩, outcome := .exited, exitCode := some 0 } }
  feed := .ofBatches (((ItemSource.mk ["a", "b", "c"] none).group 1).map Grouped.batch)
    (some (.badValue ""))
  listener := .passive
  interruption := { time := some 6 }

/-- A troubled run tells of every result, also to a slow reader. -/
theorem troubled_results_told :
    (∃ run landings, troubled.blocking = .ok run ∧
      run.pool.history.TellsAll landings run.pool.ledger.completed) ∧
    (∃ run landings, troubled.events 3 true false = .ok run ∧
      run.stream.history.TellsAll landings run.stream.tally.completed ∧ run.stream.Drained) ∧
    ∃ run landings, run = (troubled.stream true).run
        { pause := 4, listener := .passive, onRaise := .receiver } troubled.launch false
        troubled.feed ∧
      run.stream.history.TellsAll landings run.stream.tally.completed ∧ run.stream.Drained := by
  obtain ⟨reader, reads⟩ : ∃ reader : Consumer,
    reader = { pause := 4, listener := .passive, onRaise := .receiver } := ⟨_, rfl⟩
  have stays : reader.Stays := reads ▸ fun _ => rfl
  obtain ⟨blocks, flows, read, -⟩ := results_told (s := troubled) Listener.calm_passive rfl
    (reads ▸ rfl) stays 3 true false
  exact ⟨blocks, flows, reads ▸ read⟩

end Setting

end BatchExec
