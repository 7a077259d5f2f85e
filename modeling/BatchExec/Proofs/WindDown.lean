import BatchExec.Proofs.Setting

/-!
# Runs wind down

Once a run is cancelled, for whatever reason, nothing more is admitted, and what has been admitted
runs to its end and is recorded.

* `WindsDown`: how a run goes on after it has been cancelled.
* `Roster.Sound.windsDown`: **from a cancelled roster on a run winds down.**
* `Setting.cancelled_runs_wind_down`: **both schedules wind down.**
-/

namespace BatchExec

/-- A run that has been cancelled with a history, some results and so many active launches winds
down: `later` happens, and `more` results come in. -/
structure WindsDown (h : History) (results : List Result) (active : Int) (later : History)
    (more : List Result) (h' : History) (results' : List Result) : Prop where
  happened : h' = h ++ later
  came : results' = results ++ more
  /-- Nothing is admitted, -/
  admitted : later.admitted = []
  /-- at most one batch still comes out of the source, -/
  received : later.received.length ≤ 1
  /-- the launches that end are those that were admitted and had not ended, -/
  landed : (h.landed ++ later.landed).Perm h.admitted
  /-- they are the active ones, -/
  landings : (later.landed.length : Int) = active
  /-- each of them is recorded, in this order, -/
  recorded : more.map Result.index = later.landed.map Batch.index
  /-- and so there are as many results in the end as there were results and active launches. -/
  total : (results'.length : Int) = results.length + active

/-- At most so many results but one come in after the first one that is no success. -/
def StopsAtFailure (maxProcs : Nat) (results : List Result) : Prop :=
  ∀ before x after, results = before ++ x :: after → x.success = false →
    after.length ≤ maxProcs - 1

namespace Roster

variable {rules : Rules} {all : List Batch} {r r' : Roster}

section Later

variable {later : History} {more : List Result}

/-- From a cancelled roster on nothing is admitted. -/
theorem admitted_later (moves : Moves rules r r') (stopped : r.cancelled = true)
    (history : r.history ++ later = r'.history) : later.admitted = [] := by
  have grown := (History.adds_append r.history later).admitted
  rw [history, ((Follows.of_moves moves).stopped stopped).2] at grown
  exact (List.append_cancel_left ((List.append_nil _).trans grown)).symm

/-- From a cancelled roster on at most one batch comes out of the source. -/
theorem Sound.received_later (s : r.Sound rules all) (moves : Moves rules r r')
    (stopped : r.cancelled = true) (history : r.history ++ later = r'.history) :
    later.received.length ≤ 1 := by
  have grown := congrArg List.length (History.adds_append r.history later).received
  rw [history, List.length_append] at grown
  have before := s.length_received
  have after := (s.of_moves moves).length_received
  rw [((Follows.of_moves moves).stopped stopped).2] at after
  omega

/-- From a cancelled roster on those launches end that were admitted and had not ended. -/
theorem Sound.landed_later (s : r.Sound rules all) (moves : Moves rules r r') (rests : r'.Rests)
    (stopped : r.cancelled = true) (history : r.history ++ later = r'.history) :
    (r.history.landed ++ later.landed).Perm r.history.admitted := by
  have grown := (History.adds_append r.history later).landed
  rw [history] at grown
  rw [← grown, ← ((Follows.of_moves moves).stopped stopped).2]
  exact (s.of_moves moves).landed_perm_admitted rests

/-- These are as many as were active. -/
theorem Sound.length_landed_later (s : r.Sound rules all)
    (landed : (r.history.landed ++ later.landed).Perm r.history.admitted) :
    (later.landed.length : Int) = r.active := by
  have ends := landed.length_eq
  rw [List.length_append] at ends
  have admissions := s.slotted.length_eq
  rw [List.length_append] at admissions
  have active := s.active
  have flying := s.length_running
  omega

/-- Later results are recorded in the order in which launches end. -/
theorem Sound.recorded_later (s : r.Sound rules all) (moves : Moves rules r r')
    (whole : r'.fault = none) (history : r.history ++ later = r'.history)
    (completed : r.completed ++ more = r'.completed) :
    more.map Result.index = later.landed.map Batch.index := by
  have before := s.index_completed ((Follows.of_moves moves).whole whole)
  have after := (s.of_moves moves).index_completed whole
  rw [← completed, ← history, (History.adds_append r.history later).landed, List.map_append,
    List.map_append, before] at after
  exact List.append_cancel_left after

/-- **From a cancelled roster on a run winds down.** -/
theorem Sound.windsDown (s : r.Sound rules all) (moves : Moves rules r r') (rests : r'.Rests)
    (whole : r'.fault = none) (stopped : r.cancelled = true) :
    ∃ later more,
      WindsDown r.history r.completed r.active later more r'.history r'.completed := by
  obtain ⟨later, history⟩ : ∃ later : History, r.history ++ later = r'.history :=
    (Follows.of_moves moves).history
  obtain ⟨more, completed⟩ := (Follows.of_moves moves).completed
  have landed := s.landed_later moves rests stopped history
  have landings := s.length_landed_later landed
  have recorded := s.recorded_later moves whole history completed
  refine ⟨later, more, history.symm, completed.symm, admitted_later moves stopped history,
    s.received_later moves stopped history, landed, landings, recorded, ?_⟩
  have results := congrArg List.length recorded
  rw [List.length_map, List.length_map] at results
  rw [← completed, List.length_append]
  omega

end Later

theorem Sound.stopsAtFailure (s : r.Sound rules all) (rests : r.Rests)
    (stop : rules.stopOnError = true) {n : Nat} (bound : rules.bound = some n) :
    StopsAtFailure n r.completed := by
  intro before x after split failed
  have few := (s.stops stop before x after split failed).2 n bound
  rw [s.active_of_rests rests] at few
  omega

theorem length_results {feed : Feed} {summary : Summary} (ended : r.verdict feed = .ok summary) :
    summary.results.length = r.completed.length := by
  unfold verdict Feed.verdict at ended
  split at ended
  · contradiction
  · contradiction
  · cases ended
    exact (Summary.sortByIndex_perm r.completed).length_eq

end Roster

namespace Setting

/-- From every state on in which it is cancelled, a blocking run winds down. -/
structure BlockingWindsDown (s : Setting) (run : PoolRun) : Prop where
  cancelled : ∀ p, s.Passes p → p.ledger.cancelled = true →
    ∃ later more, WindsDown p.history p.ledger.completed p.ledger.active
      later more run.pool.history run.pool.ledger.completed
  size : ∀ summary, run.result = .ok summary →
    summary.results.length = run.pool.ledger.completed.length
  stops : s.stopOnError = true → 0 < s.maxProcs →
    StopsAtFailure s.maxProcs run.pool.ledger.completed

/-- From every state on in which it is cancelled, an event-driven run winds down. -/
structure EventsWindDown (s : Setting) (pause : Nat) (cancellable detour : Bool) (run : StreamRun) :
    Prop where
  cancelled : ∀ t, Stream.Passes { pause, listener := s.listener } s.launch detour s.feed
      (s.stream cancellable) t → t.tally.cancelled = true →
    ∃ later more, WindsDown t.history t.tally.completed t.tally.active
      later more run.stream.history run.stream.tally.completed
  size : ∀ summary, run.result = .ok summary →
    summary.results.length = run.stream.tally.completed.length
  stops : s.stopOnError = true → 0 < s.maxProcs →
    StopsAtFailure s.maxProcs run.stream.tally.completed

/-- **Both schedules wind down once they are cancelled**, whoever cancels them: a result that is no
success, a launch, the receiver of events or somebody outside. Only a fault, or a receiver of events
that leaves the run with an error, keeps them from it; the source may fail. -/
theorem cancelled_runs_wind_down (s : Setting) (pause : Nat) (cancellable detour : Bool) :
    (∃ run, s.blocking = .ok run ∧ (run.pool.ledger.fault = none → s.BlockingWindsDown run)) ∧
    (∃ run, s.events pause cancellable detour = .ok run ∧
      (run.stream.tally.fault = none → run.stream.Here →
        s.EventsWindDown pause cancellable detour run)) := by
  have allow := s.allow_all
  constructor
  · obtain ⟨run, ran, passes, halted, rests, sound, result⟩ := blocking_rests allow (.inr trivial)
    refine ⟨run, ran, fun whole => ⟨fun p reached stopped => ?_, fun summary ended => ?_,
      fun stop positive => ?_⟩⟩
    · obtain ⟨sound', more⟩ :=
        blocking_moves allow (.inr trivial) reached (Chain.before_last reached passes halted)
      exact sound'.windsDown more rests whole stopped
    · exact Roster.length_results (result.symm.trans ended)
    · exact sound.stopsAtFailure rests stop (bound_rules positive True True)
  · obtain ⟨run, ran, passes, halted, ends⟩ :=
      events_rests allow (.inr trivial) pause cancellable detour
    refine ⟨run, ran, fun whole here => ?_⟩
    obtain ⟨rests, sound, result⟩ := ends here
    refine ⟨fun t reached stopped => ?_, fun summary ended => ?_, fun stop positive => ?_⟩
    · obtain ⟨sound', more⟩ :=
        events_moves allow (.inr trivial) reached (Chain.before_last reached passes halted) here
      exact sound'.windsDown more rests whole stopped
    · exact Roster.length_results (result.symm.trans ended)
    · exact sound.stopsAtFailure rests stop (bound_rules positive True True)

/-- Schedules that stop at a failure wind down when three batches fail. -/
theorem failing_runs_wind_down :
    (∃ run, (failing 2).blocking = .ok run ∧ run.pool.ledger.fault = none ∧
      (failing 2).BlockingWindsDown run) ∧
    (∃ run, (failing 2).events 3 true true = .ok run ∧ run.stream.tally.fault = none ∧
      run.stream.Here ∧ (failing 2).EventsWindDown 3 true true run) := by
  obtain ⟨⟨pooled, ran, winds⟩, ⟨streamed, ran', winds'⟩⟩ :=
    cancelled_runs_wind_down (failing 2) 3 true true
  have whole := blocking_whole (failing_delivers 2) (failing_calm 2) ran
  obtain ⟨whole', here⟩ := events_whole (failing_delivers 2) (failing_calm 2) ran'
  exact ⟨⟨pooled, ran, whole, winds whole⟩, ⟨streamed, ran', whole', here, winds' whole' here⟩⟩

end Setting

end BatchExec
