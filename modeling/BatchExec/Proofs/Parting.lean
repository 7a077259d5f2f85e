import BatchExec.Proofs.Delivery
import BatchExec.Proofs.Departure
import BatchExec.Proofs.Stream.Parting

/-!
# Runs that their consumer leaves

The consumer of an event-driven run may leave early: somebody closes the stream of its events after
one of them, or the receiver raises an error at it. What is running is then cut off and winds up. It
is the beginning of the run that would have been, and no launch starts or goes on after it.

* `BreaksAfter`: a run that its consumer leaves, beside the full run.
* `Stream.settled_of_forsakes`: every launch has ended or has been cut off.
* `Setting.breaksAfter_of_leavesAt`: **a run that its consumer leaves is a beginning of the full
  run.**
* `Setting.leaver_stops_run`: **whoever closes the stream or raises an error stops the run.**
-/

namespace BatchExec

/-- A run that its consumer leaves after so many events has come to this state; beside it is the
full run, whose consumer stays. -/
structure BreaksAfter (count : Nat) (full : StreamRun) (t : Stream) : Prop where
  /-- The consumer has seen the first events, -/
  seen : t.history.heard = full.stream.history.heard.take count
  /-- which tell of the first results in turn. -/
  results : t.history.heard.map Event.result = full.stream.tally.completed.take count
  numbered : t.history.heard.map Event.completed = List.range' 1 count
  /-- Up to the last of them everything is as in the full run. After it the run may be cancelled and
  running launches are cut off, but nothing else happens. -/
  broken : ∃ (upto : History) (time : Nat) (e : Event) (after : History),
    t.history = upto ++ ⟨time, .delivered e⟩ :: after ∧
      upto ++ [⟨time, .delivered e⟩] <+: full.stream.history ∧
      ∀ x ∈ after, x.what = .cancelled ∨ ∃ b, x.what = .killed b
  /-- Every launch that had started has ended or has been cut off, -/
  settled : (t.history.landed ++ t.history.cut).Perm t.history.launched
  /-- the task of each launch that got a slot is over, also if it has been cut off, -/
  tasks : t.done = t.tasks
  /-- the producer is over, -/
  producer : t.producer.isFinished = true
  /-- and nobody has a turn any more. -/
  idle : t.turns = []

/-- A consumer that raises no error leaves only because it has seen enough. -/
theorem Consumer.departure?_of_patience {c : Consumer} {most : Nat} (calm : c.listener.Calm)
    (patient : c.patience = some most) (e : Event) :
    c.departure? e = if most ≤ e.completed then some none else none := by
  unfold Consumer.departure?
  rw [calm.raises_reaction e, patient]

namespace Stream

variable {consumer : Consumer} {launch : Launcher} {s t : Stream}

/-- When the consumer has left, every launch that had started has ended or has been cut off. -/
theorem settled_of_forsakes {e : Event} {pending : List Event} {terms : Terms}
    {landings : List Landing} (tells : (s.journalWith launch pending).Tells terms landings)
    (forsakes : Forsakes consumer e s t) :
    (t.history.landed ++ t.history.cut).Perm t.history.launched := by
  obtain ⟨⟨error, -, winds⟩, -⟩ := forsakes
  have landed : t.history.landed = s.history.landed := by
    have none : History.landed (s.running.map (⟨s.now, .killed ·⟩)) = [] := by
      rw [History.landed, List.filterMap_map]
      exact List.filterMap_eq_nil_iff.mpr fun b _ => rfl
    rw [(history_of_winds winds).1, History.landed, List.filterMap_append]
    exact (congrArg _ none).trans (List.append_nil _)
  rw [landed]
  exact settled_of_winds tells winds

/-- A consumer has heard of the event at which it leaves, and of no other after it. -/
theorem Parting.history {last : Nat} {upto : History} {e : Event}
    (parting : Parting consumer last upto e s t) :
    ∃ after : History, t.history = upto ++ ⟨s.now, .delivered e⟩ :: after ∧
      (∀ x ∈ after, x.what = .cancelled ∨ ∃ b, x.what = .killed b) ∧
      t.history.heard = upto.heard ++ [e] := by
  obtain ⟨⟨error, -, winds⟩, ⟨more, told, cancels⟩, -, -⟩ := parting
  obtain ⟨after, hafter⟩ : ∃ after : History,
    after = more ++ s.running.map (⟨s.now, .killed ·⟩) := ⟨_, rfl⟩
  have history : t.history = upto ++ ⟨s.now, .delivered e⟩ :: after := by
    rw [(history_of_winds winds).1, told, hafter, List.append_assoc, List.cons_append]
  have silent : ∀ x ∈ after, x.what = .cancelled ∨ ∃ b, x.what = .killed b := by
    intro x mem
    rw [hafter] at mem
    rcases List.mem_append.mp mem with cancelled | killed
    · exact .inl (cancels x cancelled)
    · obtain ⟨b, -, rfl⟩ := List.mem_map.mp killed
      exact .inr ⟨b, rfl⟩
  refine ⟨after, history, silent, ?_⟩
  have unheard : after.heard = [] := by
    refine List.filterMap_eq_nil_iff.mpr fun x mem => ?_
    rcases silent x mem with what | ⟨b, what⟩ <;> rw [Entry.delivery?, what]
  have first : History.heard (⟨s.now, .delivered e⟩ :: after) = e :: after.heard :=
    List.filterMap_cons_some rfl
  rw [history, History.heard_append, first, unheard]

end Stream

namespace Setting

variable {s : Setting} {cancellable detour : Bool} {full : StreamRun} {count : Nat}
  {leaver : Consumer}

/-- The event-driven run whose events a consumer takes. -/
def streamRun (s : Setting) (consumer : Consumer) (cancellable detour : Bool) : StreamRun :=
  (s.stream cancellable).run consumer s.launch detour s.feed

/-- The run of a consumer that leaves ends where it leaves the full run. -/
theorem streamRun_parts (ran : s.events 0 cancellable detour = .ok full) (calm : s.listener.Calm)
    (leaves : leaver.LeavesAt { listener := s.listener } count) (positive : 0 < count)
    (enough : count ≤ full.stream.history.heard.length) :
    ∃ upto e u,
      Stream.Parting leaver count upto e u (s.streamRun leaver cancellable detour).stream ∧
      upto ++ [⟨u.now, .delivered e⟩] <+: full.stream.history := by
  obtain rfl := Except.ok.inj ((s.events_eq 0 cancellable detour).symm.trans ran)
  obtain ⟨passes, -⟩ := Stream.run_passes { listener := s.listener } s.launch detour s.feed
    (s.stream cancellable)
  obtain ⟨few, -⟩ | ⟨upto, e, u, t, passed, parting, before⟩ :=
    Stream.parting_of_passes (allow_cancels calm) (.inr trivial) leaves positive passes
  · exact absurd enough (Nat.not_le_of_lt few)
  · obtain ⟨passed', halted'⟩ := Stream.run_passes leaver s.launch detour s.feed
      (s.stream cancellable)
    exact ⟨upto, e, u, parting.of_before (Chain.before_last passed passed' halted'), before⟩

/-- When its consumer has left, every launch of a run has ended or has been cut off. -/
theorem settled_of_gone {error : Option RunError}
    (gone : (s.streamRun leaver cancellable detour).stream.consumer = .gone error) :
    ((s.streamRun leaver cancellable detour).stream.history.landed ++
        (s.streamRun leaver cancellable detour).stream.history.cut).Perm
      (s.streamRun leaver cancellable detour).stream.history.launched := by
  have allow : (s.rules True True).Allow leaver.listener :=
    allow_all (s := { s with listener := leaver.listener })
  have passes := (Stream.run_passes leaver s.launch detour s.feed (s.stream cancellable)).1
  obtain ⟨j, landings, tells, ⟨here, -⟩ | ⟨e, u, pending, rfl, forsakes⟩⟩ :=
    Stream.tells_of_passes allow (.inr trivial) passes
  · exact absurd gone (here error).2
  · exact Stream.settled_of_forsakes tells forsakes

/-- When its consumer has left and a run is over, all others have ended as well. -/
theorem streamRun_unwound (away : ¬ (s.streamRun leaver cancellable detour).stream.Here) :
    (s.streamRun leaver cancellable detour).stream.Unwound := by
  have allow : (s.rules True True).Allow leaver.listener :=
    allow_all (s := { s with listener := leaver.listener })
  obtain ⟨passes, halted⟩ :=
    Stream.run_passes leaver s.launch detour s.feed (s.stream cancellable)
  exact Stream.unwound_of_over allow (.inr trivial) passes halted away

/-- **A run that its consumer leaves is a beginning of the full run**, and ends as the consumer
leaves it. -/
theorem breaksAfter_of_leavesAt (ran : s.events 0 cancellable detour = .ok full)
    (calm : s.listener.Calm) (leaves : leaver.LeavesAt { listener := s.listener } count)
    (positive : 0 < count) (enough : count ≤ full.stream.history.heard.length) :
    BreaksAfter count full (s.streamRun leaver cancellable detour).stream ∧
      ∃ e error, e.completed = count ∧ leaver.departure? e = some error ∧
        (s.streamRun leaver cancellable detour).stream.history.heard.getLast? = some e ∧
        (s.streamRun leaver cancellable detour).stream.consumer = .gone error := by
  obtain ⟨upto, e, u, parting, before⟩ := streamRun_parts ran calm leaves positive enough
  obtain ⟨landings, told⟩ : ∃ landings,
      full.stream.history.TellsAll landings full.stream.tally.completed := by
    obtain rfl := Except.ok.inj ((s.events_eq 0 cancellable detour).symm.trans ran)
    obtain ⟨_, landings, rfl, told, -⟩ :=
      stream_told calm leaves.listens.1 rfl (stays_of_calm calm 0) cancellable detour
    exact ⟨landings, told⟩
  obtain ⟨after, history, silent, heard⟩ := parting.history
  obtain ⟨error, departs, winds⟩ := parting.left
  have unwound := streamRun_unwound (winds.not_here)
  obtain ⟨left, gone⟩ := unwound.gone
  have gone := winds.gone gone
  have seen : (s.streamRun leaver cancellable detour).stream.history.heard =
      full.stream.history.heard.take count := by
    have begins : History.heard (upto ++ [⟨u.now, .delivered e⟩]) <+: full.stream.history.heard :=
      before.filterMap Entry.delivery?
    rw [History.heard_append] at begins
    have length : (upto.heard ++ [e]).length = count := by
      rw [List.length_append]
      exact parting.heard
    exact heard.trans ((List.prefix_iff_eq_take.mp begins).trans (congrArg (List.take · _) length))
  refine ⟨⟨seen, ?_, ?_, ⟨upto, u.now, e, after, history, before, silent⟩, settled_of_gone gone,
    unwound.closed, unwound.finished, unwound.idle⟩, e, error, parting.number, departs, ?_, gone⟩
  · rw [seen, List.map_take, told.told]
  · have results := congrArg List.length told.told
    rw [List.length_map] at results
    obtain ⟨more, length⟩ := Nat.exists_eq_add_of_le enough
    rw [seen, List.map_take, told.numbered, ← results, length, ← List.range'_append_1]
    exact List.take_left' List.length_range'
  · rw [heard]
    exact List.getLast?_concat

/-! ## Who leaves -/

/-- Whoever closes the stream of events leaves at one of them. -/
theorem leavesAt_of_patience (calm : s.listener.Calm) (listens : s.listener.isSome = true)
    (count : Nat) (onRaise : Failure → RunError) :
    Consumer.LeavesAt { listener := s.listener, patience := some count, onRaise }
      { listener := s.listener } count := by
  have departs (e : Event) := Consumer.departure?_of_patience
    (c := { listener := s.listener, patience := some count, onRaise }) calm rfl e
  refine ⟨stays_of_calm calm 0, ⟨listens, listens⟩, ⟨ite_self 0, ite_self 0⟩,
    fun e early => ⟨?_, rfl⟩, fun e own => ?_⟩
  · rw [departs, if_neg (Nat.not_le_of_lt early)]
  · rw [departs, if_pos (Nat.le_of_eq own.symm)]
    rfl

/-- A receiver that raises an error at an event leaves at it. -/
theorem leavesAt_of_raises {react react' : Event → Reaction} (listens : s.listener = some react)
    (calm : s.listener.Calm) {failure : Event → Failure}
    (alike : ∀ e, e.completed < count → react' e = react e)
    (raises : ∀ e, e.completed = count → (react' e).raises = some (failure e)) :
    Consumer.LeavesAt { listener := some react' } { listener := s.listener } count := by
  refine ⟨stays_of_calm calm 0, ⟨by rw [listens]; rfl, rfl⟩, ⟨ite_self 0, ite_self 0⟩,
    fun e early => ?_, fun e own => ?_⟩
  · have quiet : (react e).raises = none := calm react listens e
    have same := alike e early
    rw [listens]
    constructor
    · simp only [Consumer.departure?, Consumer.reaction, same, quiet]
    · simp only [Consumer.reaction, same]
  · simp only [Consumer.departure?, Consumer.reaction, raises e own, Option.isSome_some]

/-- **Whoever closes the stream of events after one of them, or raises an error at it, stops the
run**: it has seen the first results in turn, nothing starts any more and nothing else is told, and
every launch has ended or has been cut off. -/
theorem leaver_stops_run {react : Event → Reaction} (listens : s.listener = some react)
    (calm : s.listener.Calm) (ran : s.events 0 cancellable detour = .ok full)
    (positive : 0 < count) (enough : count ≤ full.stream.history.heard.length) :
    (∀ onRaise, BreaksAfter count full (s.streamRun
      { listener := s.listener, patience := some count, onRaise } cancellable detour).stream) ∧
    ∀ (react' : Event → Reaction) (failure : Event → Failure),
      (∀ e, e.completed < count → react' e = react e) →
      (∀ e, e.completed = count → (react' e).raises = some (failure e)) →
      ∃ run, { s with listener := some react' }.events 0 cancellable detour = .ok run ∧
        BreaksAfter count full run.stream ∧
        ∃ e, run.stream.history.heard.getLast? = some e ∧
          run.result = .error (.fault (.callbackFailed (failure e))) := by
  constructor
  · intro onRaise
    have leaves := leavesAt_of_patience calm (by rw [listens]; rfl) count onRaise
    exact (breaksAfter_of_leavesAt ran calm leaves positive enough).1
  · intro react' failure alike raises
    have leaves := leavesAt_of_raises listens calm alike raises
    obtain ⟨breaks, e, error, own, departs, last, gone⟩ :=
      breaksAfter_of_leavesAt ran calm leaves positive enough
    refine ⟨_, events_eq _ 0 cancellable detour, breaks, e, last, ?_⟩
    simp only [Consumer.departure?, Consumer.reaction, raises e own, Option.some.injEq] at departs
    rw [← departs] at gone
    exact Stream.result_of_gone gone

/-- Four batches for two slots, of which the first ends soon. -/
def crowded : Setting where
  maxProcs := 2
  launch := fun ordinal _ b =>
    { duration := some (5 + 15 * ordinal)
      ending := .returned { invocation := ⟨b, b.items⟩, outcome := .exited, exitCode := some 0 } }
  feed := .ofBatches (((ItemSource.mk ["a", "b", "c", "d"] none).group 1).map Grouped.batch) none
  listener := .passive

/-- A receiver that raises an error when two results have come in. -/
def impatient (e : Event) : Reaction :=
  if e.completed = 2 then { raises := some (.badValue "enough") } else {}

/-- The stream of a crowded run is closed after its first event: the second launch is cut off, and
the batch that got the slot of the first never starts. An error of the receiver at the second event
stops the run as well. -/
theorem crowded_stopped : ∃ full run run', crowded.events 0 true false = .ok full ∧
    run = crowded.streamRun { listener := .passive, patience := some 1, onRaise := .receiver }
      true false ∧
    BreaksAfter 1 full run.stream ∧ run.stream.history.admitted.map Batch.index = [0, 1, 2] ∧
      run.stream.history.launched.map Batch.index = [0, 1] ∧
      run.stream.history.cut.map Batch.index = [1] ∧
    { crowded with listener := some impatient }.events 0 true false = .ok run' ∧
    BreaksAfter 2 full run'.stream ∧
      ∃ failure, run'.result = .error (.fault (.callbackFailed failure)) := by
  have ran := events_eq crowded 0 true false
  have closed := (leaver_stops_run (s := crowded) rfl Listener.calm_passive ran Nat.one_pos
    (by decide)).1 .receiver
  have raised := (leaver_stops_run (s := crowded) rfl Listener.calm_passive ran Nat.two_pos
    (by decide)).2 impatient (fun _ => .badValue "enough")
  obtain ⟨run', ran', breaks, e, -, result⟩ := raised
    (fun e early => if_neg (Nat.ne_of_lt early)) fun e own => by rw [impatient, if_pos own]
  exact ⟨_, _, run', ran, rfl, closed, by decide, by decide, by decide, ran', breaks, _, result⟩

end Setting

end BatchExec
