import BatchExec.Proofs.Pool.Timetable
import BatchExec.Proofs.Stream.Timetable

/-!
# No slot idles

If the source has no delays and nobody stops a run, both schedules start every launch as soon as
there is a slot for it: the times of all launches are those that their durations and the number of
slots call for. The threads of a blocking run must not let time pass while one of them can go on,
nor start launches out of order; but whatever they do, the controller is always woken up when there
is a slot for it, and every batch is launched.

* `Setting.Timed`: the source has no delays, and the launches take fixed times.
* `Setting.Thrifty`, `History.Fills`: what holds of a run in the end, and while a batch waits.
* `Setting.slots_never_idle`: **in both schedules no slot idles, no wake-up is lost and no run gets
  stuck.**
-/

namespace BatchExec

/-- There are slots, and as many launches have started and have not ended. -/
def History.Fills (h : History) (maxProcs : Nat) : Prop :=
  0 < maxProcs ∧ h.launched.length = h.landed.length + maxProcs

/-- When every slot is taken by a running launch, the launches fill the slots. -/
theorem Roster.Sound.fills {rules : Rules} {all : List Batch} {r : Roster}
    (sound : r.Sound rules all) {maxProcs : Nat} (limit : rules.bound = slots maxProcs)
    (full : ∃ n, rules.bound = some n ∧ r.running.card = n) : r.history.Fills maxProcs := by
  obtain ⟨n, limited, running⟩ := full
  have count := sound.length_running
  rw [limit] at limited
  unfold slots at limited
  split at limited
  · contradiction
  · rename_i some
    obtain rfl := Option.some.inj limited
    exact ⟨Nat.pos_of_ne_zero some, running ▸ count.symm⟩

namespace Setting

/-- The source of a setting has no delays, and its launches take fixed times and deliver. -/
structure Timed (s : Setting) (lasts : Nat → Nat) : Prop where
  prompt : ∀ item ∈ s.feed.items, item.delay = 0
  delivers : s.launch.Delivers s.feed.batches
  lasts : s.launch.Lasts lasts s.feed.batches

/-- When the launches of a setting end if no slot idles. -/
def ends (s : Setting) (lasts : Nat → Nat) : List Nat :=
  endTimes lasts (startTimes (slots s.maxProcs) lasts s.feed.batches.length)

/-- In a run that has ended at some time with this history and this result no slot has idled. -/
structure Thrifty (s : Setting) (lasts : Nat → Nat) (pauses : Prop) (h : History) (now : Nat)
    (result : Except RunError Summary) : Prop where
  greedy : h.Greedy (slots s.maxProcs) lasts s.feed.batches
  /-- The run does not end before the last launch, and not after it if nobody pauses, -/
  late : latest (s.ends lasts) ≤ now
  closes : ¬ pauses → now = latest (s.ends lasts)
  /-- and it has a summary, unless the source fails. -/
  succeeds : s.feed.failure = none → ∃ summary, result = .ok summary

variable {s : Setting} {lasts : Nat → Nat}

theorem unhindered (quiet : s.Undisturbed) (timed : s.Timed lasts) :
    (s.rules False False).Unhindered lasts s.feed where
  loyal := id
  calm := id
  goes := quiet.goes
  prompt := timed.prompt
  delivers := timed.delivers
  lasts := timed.lasts

/-- A run at rest whose timetable is greedy has been thrifty. -/
theorem thrifty_of_rests (timed : s.Timed lasts) {pauses overtakes : Prop} {t : Timetable}
    (greedy : t.Greedy ((s.rules False False).basis lasts s.feed.batches.length pauses))
    {r : Roster} (rests : r.Rests)
    (sound : r.Sound { s.rules False False with overtakes } s.feed.batches)
    (goes : r.cancelled = false) (orderly : ¬ overtakes)
    (starts : t.starts = r.history.starts) (ends : t.ends = r.history.ends)
    (dues : t.dues.card = r.running.card) {result : Except RunError Summary}
    (ended : s.feed.failure = none → result = r.verdict s.feed) :
    s.Thrifty lasts pauses r.history t.now result := by
  have launched := sound.launched_eq rests goes orderly
  rw [rests.running, Multiset.card_zero, Multiset.card_eq_zero] at dues
  obtain ⟨kept, late, closes⟩ := greedy.history dues starts ends launched
  exact ⟨kept, late, closes, fun whole =>
    ⟨_, (ended whole).trans (sound.verdict_eq timed.delivers id whole)⟩⟩

/-- A blocking run launches every batch, and it is thrifty if its threads are punctual. -/
theorem blocking_thrifty (quiet : s.Undisturbed) (timed : s.Timed lasts) :
    ∃ run, s.blocking = .ok run ∧ run.pool.history.launched.Perm s.feed.batches ∧
      (s.threads.Punctual →
        s.Thrifty lasts False run.pool.history run.pool.now run.result) := by
  obtain ⟨run, ran, passes, -, rests, sound, result⟩ :=
    blocking_rests quiet.allow (.inl quiet.alone)
  have free : (s.poolRules False False).Unhindered lasts s.feed :=
    { unhindered quiet timed with }
  have goes := free.going sound
  refine ⟨run, ran, (sound.launched_all rests goes).2, fun punctual => ?_⟩
  have orderly : ¬ (s.poolRules False False).overtakes := fun overtakes =>
    Bool.false_ne_true (punctual.orderly.symm.trans overtakes)
  have first : s.pool = Pool.initial (s.poolRules False False).ledger {} :=
    congrArg (Pool.initial _) quiet.alone
  rw [Passes, first] at passes
  have greedy := (Pool.greedy_of_passes (pool_allow quiet.allow) punctual orderly free passes).1
  exact thrifty_of_rests timed greedy rests sound goes orderly rfl rfl run.pool.card_dues
    fun _ => result

/-- In no state of an event-driven run a slot has idled. -/
theorem stream_greedy (quiet : s.Undisturbed) (timed : s.Timed lasts) {pause : Nat}
    {cancellable detour : Bool} {t : Stream}
    (passes : Stream.Passes { pause, listener := s.listener } s.launch detour s.feed
      (s.stream cancellable) t) :
    t.timetable.Greedy ((s.rules False False).basis lasts s.feed.batches.length
      (Consumer.delay { pause, listener := s.listener } ≠ 0)) ∧
      t.Tidy { pause, listener := s.listener } := by
  have allow : (s.rules False False).Allow
      (Consumer.listener { pause, listener := s.listener }) := quiet.allow
  have first : s.stream cancellable =
      Stream.initial (s.rules False False).tally cancellable {} :=
    congrArg (Stream.initial _ _) quiet.alone
  rw [first] at passes
  have passes : Stream.Passes _ (s.rules False False).launch detour s.feed
      (Stream.initial (s.rules False False).tally cancellable {}) t := passes
  exact Stream.greedy_of_passes allow (stays_of_calm quiet.calm pause) id
    (unhindered quiet timed) passes

theorem events_thrifty (quiet : s.Undisturbed) (timed : s.Timed lasts) (pause : Nat)
    (cancellable detour : Bool) :
    ∃ run, s.events pause cancellable detour = .ok run ∧
      s.Thrifty lasts (Consumer.delay { pause, listener := s.listener } ≠ 0) run.stream.history
        run.stream.now run.result := by
  obtain ⟨run, ran, passes, -, rest⟩ :=
    events_rests quiet.allow (.inl quiet.alone) pause cancellable detour
  obtain ⟨rests, sound, result⟩ := rest (here_of_calm quiet.calm passes)
  refine ⟨run, ran, ?_⟩
  exact thrifty_of_rests timed (stream_greedy quiet timed passes).1 rests sound
    ((unhindered quiet timed).going sound) id rfl rfl run.stream.card_dues
    fun whole => by rw [result, Feed.relayed_of_whole whole]

/-- When time passes in a blocking run while a batch waits, every slot is taken. -/
theorem blocking_fills (quiet : s.Undisturbed) (prompt : s.threads.lags = false) {p q : Pool}
    {b : Batch} (passes : s.Passes p) (holds : p.stage.held = some b)
    (next : p.next? s.threads s.listener s.launch = some q) (later : p.now < q.now) :
    p.history.Fills s.maxProcs := by
  have allow := pool_allow quiet.allow
  have fits := (Pool.moves_of_passes allow id (.inl quiet.alone) passes).2
  have sound : p.roster.Sound (s.poolRules False False) s.feed.batches :=
    Pool.sound_of_passes allow id (.inl quiet.alone) passes
  exact sound.fills rfl (Pool.full_of_step prompt fits sound (Pool.wakes_of_passes rfl passes) holds
    (Pool.step_of_next? next) later)

/-- When time passes in an event-driven run while a batch waits, every slot is taken. -/
theorem events_fills (quiet : s.Undisturbed) (timed : s.Timed lasts) {pause : Nat}
    {cancellable detour : Bool} {t u : Stream} {b : Batch}
    (passes : Stream.Passes { pause, listener := s.listener } s.launch detour s.feed
      (s.stream cancellable) t) (holds : t.producer.held? = some b)
    (next : t.next? { pause, listener := s.listener } s.launch detour = some u)
    (later : t.now < u.now) : t.history.Fills s.maxProcs := by
  have here := here_of_calm quiet.calm passes
  have allow : (s.rules False False).Allow
      (Consumer.listener { pause, listener := s.listener }) := quiet.allow
  have passed : Stream.Passes _ (s.rules False False).launch detour s.feed
      (s.stream cancellable) t := passes
  obtain ⟨steady, sound, attended, -⟩ :=
    Stream.present_of_here allow (.inl quiet.alone) passed here
  have free := unhindered quiet timed
  exact sound.fills rfl (Stream.full_of_next? (stays_of_calm quiet.calm pause) attended steady
    sound id (free.going sound) free.lasts (stream_greedy quiet timed passes).2 holds next later)

/-- **In both schedules no slot idles, no wake-up is lost and no run gets stuck**, if the source has
no delays, nobody stops the run and nothing breaks it. All launches start and end at the times that
the number of slots and their durations call for, the run ends with the last of them unless the
receiver of events pauses, and whenever time passes while a batch waits, every slot is taken; in a
blocking run that is so if its threads are punctual. Whatever they do, the controller of a blocking
run sleeps only while it wants a slot and there is none, and all batches are launched. -/
theorem slots_never_idle (quiet : s.Undisturbed) (timed : s.Timed lasts) (pause : Nat)
    (cancellable detour : Bool) :
    (∃ run, s.blocking = .ok run ∧ run.pool.history.launched.Perm s.feed.batches ∧
      (s.threads.Punctual →
        s.Thrifty lasts False run.pool.history run.pool.now run.result)) ∧
    (∀ p, s.Passes p → p.Wakes) ∧
    (s.threads.Punctual → ∀ p q b, s.Passes p → p.stage.held = some b →
      p.next? s.threads s.listener s.launch = some q → p.now < q.now →
        p.history.Fills s.maxProcs) ∧
    (∃ run, s.events pause cancellable detour = .ok run ∧
      s.Thrifty lasts (s.listener.isSome = true ∧ pause ≠ 0) run.stream.history run.stream.now
        run.result) ∧
    ∀ t u b, Stream.Passes { pause, listener := s.listener } s.launch detour s.feed
        (s.stream cancellable) t → t.producer.held? = some b →
      t.next? { pause, listener := s.listener } s.launch detour = some u → t.now < u.now →
        t.history.Fills s.maxProcs := by
  have delay : Consumer.delay { pause, listener := s.listener } ≠ 0 ↔
      s.listener.isSome = true ∧ pause ≠ 0 := by
    unfold Consumer.delay
    cases s.listener <;> simp
  refine ⟨blocking_thrifty quiet timed, fun p passes => Pool.wakes_of_passes rfl passes,
    fun punctual p q b passes holds next later => ?_, ?_,
    fun t u b passes holds next later => ?_⟩
  · exact blocking_fills quiet punctual.prompt passes holds next later
  · rw [← propext delay]
    exact events_thrifty quiet timed pause cancellable detour
  · exact events_fills quiet timed passes holds next later

/-- Five batches with two slots, whose launches take 5, 2, 4, 1 and 3. -/
def staggered : Setting where
  maxProcs := 2
  launch := fun ordinal _ b =>
    { duration := some ([5, 2, 4, 1].getD ordinal 3), ending := .returned (sizedResult b) }
  feed := .ofBatches (((ItemSource.mk ["a", "b", "c", "d", "e"] none).group 1).map Grouped.batch)
    none

theorem staggered_undisturbed : staggered.Undisturbed where
  goes := rfl
  calm := Listener.calm_none
  loyal := Listener.loyal_none
  alone := rfl
  plans := fun _ _ _ => rfl
  signals := fun _ _ _ => rfl

theorem staggered_timed : staggered.Timed fun k => [5, 2, 4, 1].getD k 3 where
  prompt := by decide
  delivers := fun _ _ _ _ => ⟨_, rfl, rfl⟩
  lasts := fun _ _ _ _ => rfl

/-- The third launch starts when the second ends, the fourth when the first does, and the fifth when
both others end. -/
theorem staggered_slots_never_idle :
    (∃ run, staggered.blocking = .ok run ∧
      run.pool.history.starts.map Prod.snd = [0, 0, 2, 5, 6] ∧ run.pool.now = 9) ∧
    ∃ run, staggered.events 7 false true = .ok run ∧
      run.stream.history.starts.map Prod.snd = [0, 0, 2, 5, 6] ∧ run.stream.now = 9 := by
  obtain ⟨⟨run, ran, -, thrifty⟩, -, -, ⟨run', ran', thrifty'⟩, -⟩ :=
    slots_never_idle staggered_undisturbed staggered_timed 7 false true
  have thrifty := thrifty ⟨rfl, rfl⟩
  refine ⟨⟨run, ran, ?_, ?_⟩, run', ran', ?_, ?_⟩
  · rw [thrifty.greedy.starts]
    decide
  · rw [thrifty.closes id]
    decide
  · rw [thrifty'.greedy.starts]
    decide
  · rw [thrifty'.closes (by decide)]
    decide

end Setting

end BatchExec
