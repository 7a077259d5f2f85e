import BatchExec.Proofs.Faults
import BatchExec.Proofs.Stream.Unwinding
import Mathlib.Data.Multiset.MapFold

/-!
# Receivers that raise errors

When a launch breaks a run, the launches that are running go on to their ends. When the receiver of
events raises an error, so they do in a blocking run. An event-driven run is broken off instead: the
receiver leaves, and the launches that are running are cut off.

* `History.LetsRun`: every launch ran to its own end.
* `BrokenOff`: the receiver left, and the launches that were running did not.
* `Setting.runs_out_or_breaks_off`: **a blocking run lets its launches run, and so does an
  event-driven one unless the receiver breaks it off.**
-/

namespace BatchExec

/-- Every launch that has started has ended by itself. -/
structure History.LetsRun (h : History) : Prop where
  cut : h.cut = []
  landed : h.landed.Perm h.launched

/-- A receiver of events has broken a run off with an error. -/
structure BrokenOff (react : Event → Reaction) (h : History) (result : Except RunError Summary)
    (before : History) (e : Event) (failure : Failure) (now : Nat) : Prop where
  /-- It raised the error when it was told of an event, -/
  told : before.heard.getLast? = some e
  protests : (react e).raises = some failure
  /-- at once the launches that were running were cut off, and nothing happened after that, -/
  ended : h = before ++ h.cut.map (⟨now, .killed ·⟩)
  whole : before.cut = []
  /-- so that each launch that had started has either ended by itself or been cut off. -/
  started : (before.landed ++ h.cut).Perm h.launched
  result : result = .error (.fault (.callbackFailed failure))

/-- No flaw of a launch is an error of the receiver of events. -/
theorem Flight.flaw?_ne_callbackFailed (f : Flight) (failure : Failure) :
    f.flaw? ≠ some (.callbackFailed failure) := by
  cases f.ends with
  | raised error ending none flaw => simp [flaw]
  | invalid fine none flaw => simp [flaw]
  | delivered r ending own brings flaw => simp [flaw]

namespace Journal.Tells

variable {launch : Launcher} {terms : Terms} {h : History} {running : Multiset Flight}
  {completed : List Result} {fault : Option Fault} {pending : List Event} {landings : List Landing}

/-- The launches that have ended and those that are running are those that have started. -/
theorem started
    (tells : (ofHistory launch h running completed fault pending).Tells terms landings) :
    (h.landed : Multiset Batch) + running.map Flight.batch = (h.launched : Multiset Batch) := by
  have all : (landings.map Landing.flight : Multiset Flight) + running = _ := tells.all
  have landed : h.landed = (landings.map Landing.flight).map Flight.batch :=
    tells.landed.trans (List.map_map (l := landings)).symm
  rw [landed, ← History.map_batch_flights launch, ← Multiset.map_coe, ← Multiset.map_add, all]
  rfl

/-- A journal without running launches tells that all have run to their ends. -/
theorem letsRun (tells : (ofHistory launch h running completed fault pending).Tells terms landings)
    (still : running = 0) : h.LetsRun where
  cut := tells.cut
  landed := by
    have started := tells.started
    rw [still, Multiset.map_zero, Multiset.add_zero] at started
    exact Multiset.coe_eq_coe.mp started

/-- If the errors of no receiver break the run, no such error is reported. -/
theorem fault_ne_callbackFailed {j : Journal} (tells : j.Tells terms landings)
    (deaf : terms.critic = none) (failure : Failure) :
    j.fault ≠ some (.callbackFailed failure) := by
  intro reported
  rw [tells.fault, tells.faults] at reported
  obtain ⟨l, -, broken⟩ := List.mem_filterMap.mp (List.mem_of_head? reported)
  have flaw : l.flight.flaw? = some (.callbackFailed failure) := by
    simpa [Landing.fault?, Landing.protest?, deaf] using broken
  exact l.flight.flaw?_ne_callbackFailed failure flaw

end Journal.Tells

/-- Whatever becomes of the source, a fault that a run ends with is the one on its roster. -/
theorem Roster.fault_of_verdict {r : Roster} {feed : Feed} {fault : Fault}
    (ends : r.verdict feed = .error (.fault fault)) : r.fault = some fault := by
  unfold verdict Feed.verdict at ends
  split at ends
  · cases ends
  · rename_i broken
    cases ends
    exact broken
  · cases ends

namespace Stream

variable {consumer : Consumer} {launch : Launcher} {s t : Stream}

theorem coe_running (s : Stream) : (s.running : Multiset Batch) = s.flights.map Flight.batch := by
  have same : Turn.running? = fun turn => turn.flight?.map Flight.batch := by
    funext turn
    cases turn <;> rfl
  unfold Stream.running
  rw [same, ← List.map_filterMap, ← Multiset.map_coe]
  rfl

/-- Whoever leaves cuts off what is running, and nothing else happens. -/
theorem history_of_winds {error : Option RunError} (winds : Winds error (s.cutOff error) t) :
    t.history = s.history ++ s.running.map (⟨s.now, .killed ·⟩) ∧
      t.history.cut = s.history.cut ++ s.running ∧ t.history.launched = s.history.launched := by
  have left : t.history = s.history ++ (s.running.map Happening.killed).map (⟨s.now, ·⟩) :=
    winds.history.trans (history_note s _)
  have quiet : ∀ e ∈ s.running.map Happening.killed, e.isQuiet = true := by
    intro e mem
    obtain ⟨b, -, rfl⟩ := List.mem_map.mp mem
    rfl
  refine ⟨?_, ?_, ?_⟩
  · rw [left, List.map_map]
    rfl
  · have all : (s.running.map Happening.killed).filterMap (Entry.killing? ∘ (⟨s.now, ·⟩)) =
        s.running := by
      rw [List.filterMap_map]
      exact List.filterMap_some
    rw [left, History.cut, List.filterMap_append, List.filterMap_map, all]
    rfl
  · rw [left, History.launched, (History.adds_of_quiet s.history quiet s.now).starts,
      List.append_nil]
    rfl

/-- Each launch that had started when the consumer leaves has ended or is cut off. -/
theorem settled_of_winds {pending : List Event} {terms : Terms} {landings : List Landing}
    (tells : (s.journalWith launch pending).Tells terms landings) {error : Option RunError}
    (winds : Winds error (s.cutOff error) t) :
    (s.history.landed ++ t.history.cut).Perm t.history.launched := by
  obtain ⟨-, cut, launched⟩ := history_of_winds winds
  have whole : s.history.cut = [] := tells.cut
  rw [cut, whole, launched, List.nil_append, ← Multiset.coe_eq_coe, ← Multiset.coe_add,
    coe_running]
  exact tells.started

/-- What a run ends with if the consumer has left with an error. -/
theorem result_of_gone {detour : Bool} {feed : Feed} {error : RunError}
    (gone : (run consumer launch detour feed s).stream.consumer = .gone (some error)) :
    (run consumer launch detour feed s).result = .error error := by
  simp only [run] at gone ⊢
  rw [gone]

/-- **A receiver that leaves with an error breaks the run off.** -/
theorem brokenOff_of_forsakes {react : Event → Reaction} {pause : Nat} {e : Event}
    {pending : List Event} {terms : Terms} {landings : List Landing}
    (tells : (s.journalWith launch pending).Tells terms landings)
    (forsakes : Forsakes { pause, listener := some react } e s t)
    {left : Option RunError} (gone : t.consumer = .gone left) {result : Except RunError Summary}
    (ends : ∀ error, t.consumer = .gone (some error) → result = .error error) :
    ∃ failure, BrokenOff react t.history result s.history e failure s.now := by
  obtain ⟨⟨error, departs, winds⟩, last⟩ := forsakes
  have own : t.consumer = .gone error := winds.gone gone
  obtain ⟨history, cut, -⟩ := history_of_winds winds
  have whole : s.history.cut = [] := tells.cut
  rw [whole, List.nil_append] at cut
  cases protests : (react e).raises with
  | none => simp [Consumer.departure?, Consumer.reaction, protests] at departs
  | some failure =>
    have departed : error = some (.fault (.callbackFailed failure)) := by
      simpa [Consumer.departure?, Consumer.reaction, protests] using departs.symm
    refine ⟨failure, last rfl, protests, ?_, whole, settled_of_winds tells winds,
      ends _ (departed ▸ own)⟩
    rw [cut]
    exact history

end Stream

namespace Setting

variable {s : Setting} {cancels breaks : Prop}

/-- In every state of an event-driven run the journal tells of the launches that have landed, or it
does in the state in which the receiver of events leaves. -/
theorem events_tell_of_passes (allow : (s.rules cancels breaks).Allow s.listener)
    (may : s.interruption = {} ∨ cancels) {pause : Nat} {cancellable detour : Bool} {t : Stream}
    (passes : Stream.Passes { pause, listener := s.listener } s.launch detour s.feed
      (s.stream cancellable) t) :
    ∃ j landings, j.Tells ⟨slots s.maxProcs, s.listener, none⟩ landings ∧
      Stream.Bears s.launch { pause, listener := s.listener } j t := by
  have allow : (s.rules cancels breaks).Allow
      (Consumer.listener { pause, listener := s.listener }) := allow
  exact Stream.tells_of_passes allow may passes

/-- **A blocking run lets its launches run, and so does an event-driven one**, also when a launch
breaks it, **unless the receiver of events breaks it off.** -/
theorem runs_out_or_breaks_off (s : Setting) (pause : Nat) (cancellable detour : Bool) :
    (∃ run, s.blocking = .ok run ∧ run.pool.history.LetsRun) ∧
    ∃ run, s.events pause cancellable detour = .ok run ∧
      (run.stream.history.LetsRun ∧
          (∀ failure, run.result ≠ .error (.fault (.callbackFailed failure))) ∨
        ∃ react ∈ s.listener, ∃ before e failure now,
          BrokenOff react run.stream.history run.result before e failure now) := by
  constructor
  · obtain ⟨run, ran, passes, -, rests, -, -⟩ := blocking_rests s.allow_all (.inr trivial)
    obtain ⟨landings, tells⟩ := blocking_tells s.allow_all (.inr trivial) passes
    exact ⟨run, ran, tells.letsRun rests.running⟩
  · obtain ⟨run, ran, passes, halted, ends⟩ :=
      events_rests s.allow_all (.inr trivial) pause cancellable detour
    refine ⟨run, ran, ?_⟩
    by_cases here : run.stream.Here
    · obtain ⟨rests, -, result⟩ := ends here
      obtain ⟨landings, tells⟩ := events_tell s.allow_all (.inr trivial) passes halted here
      refine .inl ⟨tells.letsRun rests.running, fun failure failed => ?_⟩
      rw [result] at failed
      exact tells.fault_ne_callbackFailed rfl failure (Roster.fault_of_verdict failed)
    · obtain ⟨j, landings, tells, ⟨there, -⟩ | ⟨e, u, pending, rfl, forsakes⟩⟩ :=
        events_tell_of_passes s.allow_all (.inr trivial) passes
      · exact absurd there here
      obtain rfl := Except.ok.inj (ran.symm.trans (s.events_eq pause cancellable detour))
      cases listens : s.listener with
      | none =>
        obtain ⟨⟨error, departs, -⟩, -⟩ := forsakes
        simp [Consumer.departure?, Consumer.reaction, listens] at departs
      | some react =>
        have allow : (s.rules True True).Allow
            (Consumer.listener { pause, listener := s.listener }) := s.allow_all
        obtain ⟨left, gone⟩ :=
          (Stream.unwound_of_over allow (.inr trivial) passes halted here).gone
        rw [listens] at forsakes gone
        obtain ⟨failure, broken⟩ := Stream.brokenOff_of_forsakes tells forsakes gone
          fun error gone => Stream.result_of_gone gone
        exact .inr ⟨react, rfl, _, e, failure, _, broken⟩

/-- The batches `a` and `b`, of which the second takes longer, and a receiver of events that raises
an error. -/
def protested (maxProcs : Nat) : Setting where
  maxProcs
  launch := fun ordinal _ b =>
    { duration := some (5 + 15 * ordinal)
      ending := .returned { invocation := ⟨b, b.items⟩, outcome := .exited, exitCode := some 0 } }
  feed := .ofBatches (((ItemSource.mk ["a", "b"] none).group 1).map Grouped.batch) none
  listener := some fun _ => { raises := some (.badValue "bad callback") }

/-- The second launch runs when the receiver of events raises its error, and it is cut off. -/
theorem protested_cut_off : ∃ run fault b, (protested 2).events 0 true false = .ok run ∧
    run.result = .error (.fault fault) ∧ b ∈ run.stream.history.launched ∧
    b ∉ run.stream.history.landed ∧ run.stream.history.cut = [b] := by
  refine ⟨_, _, ⟨1, ["b"], by decide⟩, events_eq _ _ _ _, rfl, ?_⟩
  decide

end Setting

end BatchExec
