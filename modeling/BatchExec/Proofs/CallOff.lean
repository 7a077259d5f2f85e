import BatchExec.Proofs.Pool.Announcement
import BatchExec.Proofs.Pool.CallOff
import BatchExec.Proofs.Stream.SingleFile
import BatchExec.Proofs.WindDown

/-!
# Runs that the receiver of events calls off

The receiver of events may cancel a run when it hears of a result. Both schedules admit nothing
after that. In a blocking run what has been admitted has been handed to the workers by then, and if
these go first no launch starts any more either. In an event-driven run the producer may have
admitted a batch with the slot that the result has set free, before the receiver hears of the
result; that batch still starts.

* `History.CallsOff`: the receiver cancels the run at an event.
* `History.last_admission`: the last batch that has got a slot.
* `Feed.EndsWith`: a run ends with so many results, unless its source fails.
* `CalledOff`: nothing is admitted after an event, and what has been admitted before runs to its
  end.
* `Setting.blocking_calledOff`, `Setting.events_calledOff`: so it is in both schedules.
* `Setting.callOff_stops_admission`: **after the event nothing is admitted; under a single slot a
  blocking run ends with the results that the receiver has heard of, and an event-driven one with at
  most one more.**
-/

namespace BatchExec

variable {react : Event → Reaction} {h before after : History}

/-- The receiver of events cancels the run at an event; this has happened before and this happens
after. -/
def History.CallsOff (react : Event → Reaction) (h before after : History) : Prop :=
  ∃ time e, h = before ++ ⟨time, .delivered e⟩ :: after ∧ (react e).cancels = true

/-- A run ends with so many results, unless its source fails. -/
def Feed.EndsWith (feed : Feed) (result : Except RunError Summary) (n : Nat) : Prop :=
  feed.failure = none → ∃ summary, result = .ok summary ∧ summary.results.length = n

/-- What becomes of a run after an event if nothing breaks it. -/
structure CalledOff (overtakes : Prop) (before after : History) (feed : Feed)
    (result : Except RunError Summary) : Prop where
  /-- Nothing is admitted, -/
  admitted : after.admitted = []
  /-- what has been admitted before and has not started starts, -/
  launched : (before.launched ++ after.launched).Perm before.admitted
  /-- in order unless a launch may overtake another, -/
  inOrder : ¬ overtakes → before.launched ++ after.launched = before.admitted
  /-- and the run ends with one result for each batch that has been admitted. -/
  result : feed.EndsWith result before.admitted.length

theorem History.CallsOff.beginning (calls : h.CallsOff react before after) : before <+: h := by
  obtain ⟨time, e, rfl, -⟩ := calls
  exact List.prefix_append _ _

theorem History.CallsOff.launched (calls : h.CallsOff react before after) :
    h.launched = before.launched ++ after.launched := by
  obtain ⟨time, e, rfl, -⟩ := calls
  exact launched_append before (⟨time, .delivered e⟩ :: after)

theorem History.CallsOff.admitted (calls : h.CallsOff react before after) :
    h.admitted = before.admitted ++ after.admitted := by
  obtain ⟨time, e, rfl, -⟩ := calls
  exact admitted_append before (⟨time, .delivered e⟩ :: after)

theorem History.CallsOff.heard (calls : h.CallsOff react before after) :
    h.heard.length = before.heard.length + 1 + after.heard.length := by
  obtain ⟨time, e, rfl, -⟩ := calls
  have one : heard (⟨time, .delivered e⟩ :: after) = e :: heard after := rfl
  rw [heard_append, one, List.length_append, List.length_cons]
  omega

/-- A history has no admission, or a last one. -/
theorem History.last_admission (h : History) : h.admitted = [] ∨
    ∃ (first rest : History) (time : Nat) (b : Batch) (active : Int),
      h = first ++ ⟨time, .admitted b active⟩ :: rest ∧ rest.admitted = [] := by
  rcases List.eq_nil_or_concat h.admitted with none | ⟨others, b, listed⟩
  · exact .inl none
  · rw [List.concat_eq_append] at listed
    obtain ⟨first, second, rfl, -, last⟩ := List.filterMap_eq_append_iff.mp listed
    obtain ⟨between, ⟨time, what⟩, rest, rfl, -, admits, none⟩ :=
      List.filterMap_eq_cons_iff.mp last
    cases what with
    | admitted b' active =>
      exact .inr ⟨first ++ between, rest, time, b', active, (List.append_assoc _ _ _).symm, none⟩
    | _ => contradiction

/-- A run that is not broken ends with as many results as batches that have been admitted by the
time at which nothing is admitted any more. -/
theorem Roster.Sound.calledOff {rules : Rules} {all : List Batch} {r : Roster}
    (s : r.Sound rules all) (rests : r.Rests) (whole : r.fault = none)
    (calls : r.history.CallsOff react before after) (none : after.admitted = []) {feed : Feed}
    {result : Except RunError Summary} (tells : feed.failure = .none → result = r.verdict feed) :
    CalledOff rules.overtakes before after feed result := by
  have admitted := calls.admitted
  rw [none, List.append_nil] at admitted
  obtain ⟨launched, inOrder⟩ := s.launchesAdmitted rests
  have count := launched.length_eq
  rw [calls.launched, admitted] at launched inOrder
  refine ⟨none, launched, inOrder, fun lasts => ?_⟩
  have ended : r.verdict feed =
      .ok (Summary.ofCompleted r.completed r.refused (.upTo r.now) r.peak) := by
    unfold verdict Feed.verdict
    rw [whole, lasts, ite_self]
  rw [tells lasts]
  refine ⟨_, ended, ?_⟩
  have results := s.length_completed whole
  rw [rests.running, Multiset.card_zero, Nat.add_zero, count, admitted] at results
  rw [Roster.length_results ended, results]

namespace Setting

variable {s : Setting}

/-! ## Blocking runs -/

/-- Under a single slot the receiver of events of a blocking run that does not break has heard of
all launches for which a batch has got the slot, perhaps but the last. -/
theorem admitted_le_heard (single : s.maxProcs = 1) (listens : s.listener.isSome = true)
    {last : Pool} (passes : s.Passes last)
    (whole : last.ledger.fault = none) (beginning : before <+: last.history) :
    before.admitted.length ≤ before.heard.length + 1 := by
  rcases before.last_admission with none | ⟨first, rest, time, b, active, rfl, none⟩
  · rw [none]
    exact Nat.zero_le _
  · obtain ⟨later, split⟩ := beginning
    rw [List.append_assoc, List.cons_append] at split
    obtain ⟨p, reached, before, rfl, advances⟩ := Pool.exists_advance passes split.symm rfl
    cases advances with
    | accept b left stage goes room =>
      obtain ⟨sound, moves⟩ := blocking_moves s.allow_all (.inr trivial) reached before
      have bound : p.ledger.bound = some 1 := by
        have fits := (Pool.moves_of_passes (pool_allow s.allow_all) id (.inr trivial) reached).2
        exact fits.bound.trans (single ▸ bound_rules (single ▸ Nat.one_pos) True True)
      -- the slot is free, so every launch has ended and has been told of
      have free := Pool.room_of_not_full room 1 bound
      have active := sound.active
      change p.ledger.active = _ at active
      have results := sound.length_completed ((Roster.Follows.of_moves moves).whole whole)
      have slotted := sound.slotted.length_eq
      have told : p.Announces s.listener :=
        Pool.announces_of_passes (pool_allow s.allow_all) id (.inr trivial) reached
      have heard := told.length_completed listens
      change p.ledger.completed.length + _ = p.history.launched.length at results
      change (p.history.launched ++ _).length = p.history.admitted.length at slotted
      rw [List.length_append] at slotted
      rw [List.length_nil] at heard
      rw [History.admitted_append, List.length_append, History.heard_append, List.length_append]
      have one : History.admitted (⟨time, .admitted b (p.ledger.active + 1)⟩ :: rest) = [b] :=
        congrArg (b :: ·) none
      rw [one, List.length_singleton]
      omega

/-- **When the receiver of events of a blocking run cancels it, nothing is admitted any more**, and
if workers go first no launch starts any more. -/
theorem blocking_calledOff (listens : s.listener = some react) :
    ∃ run, s.blocking = .ok run ∧ ∀ before after, run.pool.history.CallsOff react before after →
      after.admitted = [] ∧ (s.threads.WorkersFirst → after.launched = []) ∧
      (run.pool.ledger.fault = none →
        CalledOff (s.threads.overtakes = true) before after s.feed run.result ∧
          (s.maxProcs = 1 → before.admitted.length = before.heard.length + 1)) := by
  obtain ⟨run, ran, passes, halted, rests, sound, result⟩ :=
    blocking_rests s.allow_all (.inr trivial)
  refine ⟨run, ran, fun before after calls => ?_⟩
  have reached := passes
  unfold Passes at reached
  rw [listens] at reached
  have shut : after.admitted = [] := by
    obtain ⟨time, e, split, cancels⟩ := calls
    exact Pool.admitted_of_calls reached split cancels
  refine ⟨shut, fun first => ?_, fun whole => ?_⟩
  · obtain ⟨time, e, split, cancels⟩ := calls
    exact Pool.launched_of_calls reached split cancels first
  have off : CalledOff _ before after s.feed run.result :=
    sound.calledOff rests whole calls shut fun _ => result
  refine ⟨off, fun single => ?_⟩
  have hears : s.listener.isSome = true := by rw [listens]; rfl
  have few := admitted_le_heard single hears passes whole calls.beginning
  have told : run.pool.Announces s.listener :=
    Pool.announces_of_passes (pool_allow s.allow_all) id (.inr trivial) passes
  have heard := told.length_completed hears
  have more := calls.heard
  have results := sound.length_completed whole
  have started := (sound.launched_perm rests).length_eq
  have admitted := calls.admitted
  rw [shut, List.append_nil] at admitted
  rw [rests.running, Multiset.card_zero] at results
  change run.pool.ledger.completed.length + 0 = run.pool.history.launched.length at results
  change run.pool.history.launched.length = run.pool.history.admitted.length at started
  rw [List.length_nil] at heard
  rw [admitted] at started
  omega

/-! ## Event-driven runs -/

/-- The receiver of events calls an event-driven run off in one of its turns, and after that turn
the run is cancelled. -/
theorem exists_callOff (listens : s.listener = some react) {pause : Nat} {detour : Bool}
    {last : Stream} (passes : Stream.Passes { pause, listener := s.listener } s.launch detour s.feed
      (s.stream true) last) (here : last.Here) (calls : last.history.CallsOff react before after) :
    ∃ time e t u,
      Stream.Passes { pause, listener := s.listener } s.launch detour s.feed (s.stream true) t ∧
      Stream.next? { pause, listener := s.listener } s.launch detour t = some u ∧
      Stream.Before { pause, listener := s.listener } s.launch detour u last ∧
      Stream.Hearing { pause, listener := s.listener } before ⟨time, .delivered e⟩ t u ∧
      u.tally.cancelled = true := by
  have allow : (s.rules True True).Allow
    (Consumer.listener { pause, listener := s.listener }) := s.allow_all
  obtain ⟨time, e, split, cancels⟩ := calls
  obtain ⟨t, u, reached, next, later, hearing⟩ :=
    Stream.exists_hearing allow (.inr trivial) passes here split
  have reacts : (Consumer.reaction { pause, listener := s.listener } e).cancels = true := by
    rw [Consumer.reaction, listens]
    exact cancels
  exact ⟨time, e, t, u, reached, next, later, hearing,
    hearing.cancelled (Stream.cancellable_of_passes reached) reacts⟩

/-- **When the receiver of events of an event-driven run cancels it, nothing is admitted any more.**
-/
theorem events_calledOff (listens : s.listener = some react) (pause : Nat) (detour : Bool) :
    ∃ run, s.events pause true detour = .ok run ∧ (run.stream.tally.fault = none →
      run.stream.Here → ∀ before after, run.stream.history.CallsOff react before after →
        CalledOff False before after s.feed run.result ∧
          (s.maxProcs = 1 → pause = 0 → after.launched.length ≤ 1 ∧
            before.admitted.length = before.heard.length + 1 + after.launched.length)) := by
  obtain ⟨run, ran, passes, halted, ends⟩ :=
    events_rests s.allow_all (.inr trivial) pause true detour
  refine ⟨run, ran, fun whole here before after calls => ?_⟩
  obtain ⟨rests, sound, result⟩ := ends here
  obtain ⟨time, e, t, u, reached, next, later, hearing, stopped⟩ :=
    exists_callOff listens passes here calls
  -- nothing is admitted in that turn, and nothing after it
  obtain ⟨-, moves⟩ := events_moves s.allow_all (.inr trivial) (reached.tail next) later here
  have shut : run.stream.history.admitted = u.history.admitted :=
    ((Roster.Follows.of_moves moves).stopped stopped).2
  have none : after.admitted = [] := by
    rw [calls.admitted, hearing.quiet.2.1] at shut
    exact List.append_right_eq_self.mp shut
  have off : CalledOff False before after s.feed run.result :=
    sound.calledOff rests whole calls none fun lasts => by
      rw [result, Feed.relayed_of_whole lasts]
  refine ⟨off, fun single prompt => ?_⟩
  obtain ⟨-, moves⟩ :=
    events_moves s.allow_all (.inr trivial) reached (.head next later) here
  have unbroken : t.tally.fault = Option.none := (Roster.Follows.of_moves moves).whole whole
  have hears : s.listener.isSome = true := by rw [listens]; rfl
  have bound : (s.rules True True).bound = some 1 :=
    single ▸ bound_rules (single ▸ Nat.one_pos) True True
  have quick : Consumer.delay { pause, listener := s.listener } = 0 := by
    rw [Consumer.delay, prompt, ite_self]
  have allow : (s.rules True True).Allow
    (Consumer.listener { pause, listener := s.listener }) := s.allow_all
  obtain ⟨started, few⟩ := hearing.launched_of_single allow (.inr trivial) bound quick hears reached
    next (here.of_before reached (.head next later)) unbroken
  have launched := off.launched.length_eq
  rw [List.length_append] at launched
  omega

/-! ## Both schedules -/

/-- **Once the receiver of events has cancelled a run, neither schedule admits anything.** Under a
single slot a blocking run ends with exactly the results that the receiver has heard of. If several
slots are taken, workers may still start what has been handed to them before; if they go first,
there is nothing left to start. In an event-driven run those batches still start that have been
admitted before the receiver hears of the event; under a single slot, if the receiver takes no time,
this is at most one, and the run ends with that one result more. -/
theorem callOff_stops_admission (listens : s.listener = some react) (pause : Nat) (detour : Bool) :
    (∃ run, s.blocking = .ok run ∧ ∀ before after, run.pool.history.CallsOff react before after →
      after.admitted = [] ∧ (s.threads.WorkersFirst → after.launched = []) ∧
      (run.pool.ledger.fault = none →
        CalledOff (s.threads.overtakes = true) before after s.feed run.result ∧
          (s.maxProcs = 1 → s.feed.EndsWith run.result (before.heard.length + 1)))) ∧
    (∃ run, s.events pause true detour = .ok run ∧ (run.stream.tally.fault = none →
      run.stream.Here → ∀ before after, run.stream.history.CallsOff react before after →
        CalledOff False before after s.feed run.result ∧
          (s.maxProcs = 1 → pause = 0 → after.launched.length ≤ 1 ∧
            s.feed.EndsWith run.result (before.heard.length + 1 + after.launched.length)))) := by
  constructor
  · obtain ⟨run, ran, calledOff⟩ := blocking_calledOff listens
    refine ⟨run, ran, fun before after calls => ?_⟩
    obtain ⟨shut, none, ends⟩ := calledOff before after calls
    refine ⟨shut, none, fun whole => ?_⟩
    obtain ⟨off, count⟩ := ends whole
    exact ⟨off, fun single => count single ▸ off.result⟩
  · obtain ⟨run, ran, calledOff⟩ := events_calledOff listens pause detour
    refine ⟨run, ran, fun whole here before after calls => ?_⟩
    obtain ⟨off, count⟩ := calledOff whole here before after calls
    refine ⟨off, fun single prompt => ?_⟩
    obtain ⟨few, count⟩ := count single prompt
    exact ⟨few, count ▸ off.result⟩

/-- The batches `a` and `b` one after the other, and a receiver of events that cancels the run as
soon as it hears of a result. -/
def hasty : Setting where
  maxProcs := 1
  launch := fun _ _ b =>
    { duration := some 5
      ending := .returned { invocation := ⟨b, b.items⟩, outcome := .exited, exitCode := some 0 } }
  feed := .ofBatches (((ItemSource.mk ["a", "b"] none).group 1).map Grouped.batch) none
  listener := some fun _ => { cancels := true }

theorem hasty_delivers : hasty.launch.Delivers hasty.feed.batches := fun _ _ _ _ => ⟨_, rfl, rfl⟩

theorem hasty_calm : hasty.listener.Calm := by
  intro react listens e
  obtain rfl := Option.some.inj listens
  rfl

/-- What the receiver of events hears of the batch that is done first. -/
def firstEvent (b : Batch) : Event where
  result := { invocation := ⟨b, b.items⟩, outcome := .exited, exitCode := some 0 }
  completed := 1
  active := 0

theorem hasty_blocking {run : PoolRun} (ran : hasty.blocking = .ok run) :
    run.pool.history.CallsOff (fun _ => { cancels := true })
      (run.pool.history.take 9) (run.pool.history.drop 10) ∧
    History.heard (run.pool.history.take 9) = [] := by
  obtain rfl := Except.ok.inj ((blocking_eq hasty).symm.trans ran)
  exact ⟨⟨5, firstEvent ⟨0, ["a"], by decide⟩, by decide, rfl⟩, by decide⟩

theorem hasty_events {run : StreamRun} (ran : hasty.events 0 true false = .ok run) :
    run.stream.history.CallsOff (fun _ => { cancels := true })
      (run.stream.history.take 10) (run.stream.history.drop 11) ∧
    History.heard (run.stream.history.take 10) = [] := by
  obtain rfl := Except.ok.inj ((events_eq hasty 0 true false).symm.trans ran)
  exact ⟨⟨5, firstEvent ⟨0, ["a"], by decide⟩, by decide, rfl⟩, by decide⟩

/-- The receiver calls both runs off at its first event; the blocking one ends with one result, and
the event-driven one with at most two. -/
theorem hasty_stops_admission :
    (∃ run before after, hasty.blocking = .ok run ∧
      run.pool.history.CallsOff (fun _ => { cancels := true }) before after ∧
      hasty.threads.WorkersFirst ∧ run.pool.ledger.fault = none ∧ before.heard = [] ∧
      after.launched = [] ∧
      CalledOff (hasty.threads.overtakes = true) before after hasty.feed run.result ∧
      ∃ summary, run.result = .ok summary ∧ summary.results.length = before.heard.length + 1) ∧
    ∃ run before after, hasty.events 0 true false = .ok run ∧
      run.stream.history.CallsOff (fun _ => { cancels := true }) before after ∧
      run.stream.tally.fault = none ∧ run.stream.Here ∧ before.heard = [] ∧
      CalledOff False before after hasty.feed run.result ∧ after.launched.length ≤ 1 ∧
      ∃ summary, run.result = .ok summary ∧
        summary.results.length = before.heard.length + 1 + after.launched.length := by
  obtain ⟨⟨pooled, ran, off⟩, ⟨streamed, ran', off'⟩⟩ :=
    callOff_stops_admission (show hasty.listener = some _ from rfl) 0 false
  constructor
  · have whole := blocking_whole hasty_delivers hasty_calm ran
    obtain ⟨calls, first⟩ := hasty_blocking ran
    have workers : hasty.threads.WorkersFirst := Threads.workersFirst_of_choice fun _ => rfl
    obtain ⟨-, none, ends⟩ := off _ _ calls
    obtain ⟨off, count⟩ := ends whole
    exact ⟨pooled, _, _, ran, calls, workers, whole, first, none workers, off, count rfl rfl⟩
  · obtain ⟨whole, here⟩ := events_whole hasty_delivers hasty_calm ran'
    obtain ⟨calls, first⟩ := hasty_events ran'
    obtain ⟨off, count⟩ := off' whole here _ _ calls
    obtain ⟨few, count⟩ := count rfl rfl
    exact ⟨streamed, _, _, ran', calls, whole, here, first, off, few, count rfl⟩

/-- The event-driven run starts another launch after its receiver has called it off at the first
event, and it ends with two results. -/
theorem hasty_starts_another : ∃ run before after b summary,
    hasty.events 0 true false = .ok run ∧
    run.stream.history.CallsOff (fun _ => { cancels := true }) before after ∧
    run.stream.tally.fault = none ∧ before.heard = [] ∧ after.launched = [b] ∧
    run.result = .ok summary ∧ summary.results.length = 2 := by
  have ran := events_eq hasty 0 true false
  obtain ⟨calls, first⟩ := hasty_events ran
  exact ⟨_, _, _, ⟨1, ["b"], by decide⟩, _, ran, calls, by decide, first, by decide, rfl,
    by decide⟩

end Setting

end BatchExec
