import BatchExec.Proofs.Pool.Run
import BatchExec.Proofs.Stream.Run

/-!
# Runs of the two schedules

What a caller hands to a schedule, and the run that each of the two schedules makes of it.

* `Setting`: what a caller hands to a schedule.
* `Setting.Peaceful`: nobody disturbs its runs.
* `Setting.blocking`, `Setting.events`: the runs.
* `Setting.blocking_rests`, `Setting.events_rests`: **both runs come to rest with a sound roster.**
-/

namespace BatchExec

/-- The number of slots of a schedule of at most `maxProcs` launches at a time; zero sets no limit.
-/
def slots (maxProcs : Nat) : Option Nat := if maxProcs = 0 then none else some maxProcs

theorem slots_ne_zero (maxProcs : Nat) : slots maxProcs ≠ some 0 := by
  unfold slots
  split
  · exact (Option.some_ne_none 0).symm
  · rename_i positive
    exact fun none => positive (Option.some.inj none)

theorem slotBound?_natCast (maxProcs : Nat) : slotBound? maxProcs = .ok (slots maxProcs) := by
  have natural : ¬ (maxProcs : Int) < 0 := by omega
  simp only [slotBound?, natural, if_false, slots, Int.natCast_eq_zero, Int.toNat_natCast]

/-- A receiver of events that never raises an error. -/
def Listener.Calm (listener : Listener) : Prop := ∀ react ∈ listener, ∀ e, (react e).raises = none

/-- A receiver of events that never cancels the run. -/
def Listener.Loyal (listener : Listener) : Prop :=
  ∀ react ∈ listener, ∀ e, (react e).cancels = false

namespace Listener

theorem calm_none : Listener.Calm none := fun react listens =>
  absurd listens (Option.not_mem_none react)

theorem loyal_none : Listener.Loyal none := fun react listens =>
  absurd listens (Option.not_mem_none react)

theorem calm_passive : Listener.passive.Calm := by
  rintro react ⟨⟩ e
  rfl

theorem loyal_passive : Listener.passive.Loyal := by
  rintro react ⟨⟩ e
  rfl

/-- A consumer whose receiver of events is calm raises no error. -/
theorem Calm.raises_reaction {c : Consumer} (calm : c.listener.Calm) (e : Event) :
    (c.reaction e).raises = none := by
  unfold Consumer.reaction
  split
  · rename_i react listens
    exact calm react listens e
  · rfl

end Listener

/-- What a caller hands to a schedule. -/
structure Setting where
  maxProcs : Nat
  stopOnError : Bool := false
  listener : Listener := none
  launch : Launcher
  feed : Feed
  interruption : Interruption := {}
  /-- How the threads of a blocking run take turns. -/
  threads : Threads := {}

namespace Setting

variable (s : Setting)

/-- The run of a blocking schedule. -/
def blocking : Except Failure PoolRun := do
  let scheduler ← Scheduler.ofLimit? s.maxProcs s.stopOnError
  scheduler.run s.threads s.listener s.launch s.feed s.interruption

/-- The run of an event-driven schedule whose receiver of events handles each after a pause. -/
def events (pause : Nat) (cancellable detour : Bool) : Except Failure StreamRun := do
  let tally ← Tally.ofLimit? s.maxProcs s.stopOnError
  pure ((Stream.initial tally cancellable s.interruption).run { pause, listener := s.listener }
    s.launch detour s.feed)

/-- The rules of both schedules. In an event-driven run no launch overtakes another. -/
def rules (cancels breaks : Prop) : Rules where
  launch := s.launch
  bound := slots s.maxProcs
  stopOnError := s.stopOnError
  cancels
  breaks
  overtakes := False

/-- The rules of a blocking run: in which order launches start is up to the threads. -/
def poolRules (cancels breaks : Prop) : Rules :=
  { s.rules cancels breaks with overtakes := s.threads.overtakes = true }

/-- The state before a blocking run. -/
def pool : Pool :=
  Pool.initial { bound := slots s.maxProcs, stopOnError := s.stopOnError } s.interruption

/-- The state before an event-driven run. -/
def stream (cancellable : Bool) : Stream :=
  Stream.initial { free := slots s.maxProcs, stopOnError := s.stopOnError } cancellable
    s.interruption

/-- The blocking run passes through a state. -/
abbrev Passes (p : Pool) : Prop := Pool.Passes s.threads s.listener s.launch s.feed s.pool p

theorem blocking_eq :
    s.blocking = .ok (s.pool.run s.threads s.listener s.launch s.feed) := by
  unfold blocking Scheduler.ofLimit?
  rw [slotBound?_natCast]
  rfl

theorem events_eq (pause : Nat) (cancellable detour : Bool) :
    s.events pause cancellable detour = .ok ((s.stream cancellable).run
      { pause, listener := s.listener } s.launch detour s.feed) := by
  unfold events Tally.ofLimit?
  rw [slotBound?_natCast]
  rfl

variable {s}

/-- A positive number of launches at a time is the number of slots. -/
theorem bound_rules (positive : 0 < s.maxProcs) (cancels breaks : Prop) :
    (s.rules cancels breaks).bound = some s.maxProcs :=
  if_neg (Nat.ne_of_gt positive)

theorem pool_allow {cancels breaks : Prop} (allow : (s.rules cancels breaks).Allow s.listener) :
    (s.poolRules cancels breaks).Allow s.listener :=
  { allow with }

/-- What is sound in order is sound in a blocking run. -/
theorem pool_sound {cancels breaks : Prop} {r : Roster} {all : List Batch}
    (sound : r.Sound (s.rules cancels breaks) all) : r.Sound (s.poolRules cancels breaks) all := by
  obtain ⟨ended, landed⟩ := sound.landed
  exact { sound with landed := ⟨ended, { landed with }⟩, order := fun _ => sound.order id }

/-- Anybody may do anything to the run. -/
theorem allow_all : (s.rules True True).Allow s.listener where
  positive := slots_ne_zero s.maxProcs
  plans := fun _ _ _ _ => trivial
  signals := fun _ _ _ _ => trivial
  reacts := fun _ _ _ _ => trivial
  raises := fun _ _ _ _ => trivial

/-- Anybody may cancel the run, and the receiver of events is calm. -/
theorem allow_cancels (calm : s.listener.Calm) : (s.rules True False).Allow s.listener where
  positive := slots_ne_zero s.maxProcs
  plans := fun _ _ _ _ => trivial
  signals := fun _ _ _ _ => trivial
  reacts := fun _ _ _ _ => trivial
  raises := fun react listens e raised => by simp [calm react listens e] at raised

/-- Nobody disturbs a run: no one cancels it, and the receiver of events is calm. -/
structure Peaceful (s : Setting) : Prop where
  calm : s.listener.Calm
  loyal : s.listener.Loyal
  alone : s.interruption = {}
  plans : ∀ ordinal time b, (s.launch ordinal time b).cancels = false
  signals : ∀ ordinal time b, (s.launch ordinal time b).signal = none

theorem Peaceful.allow (peaceful : s.Peaceful) : (s.rules False False).Allow s.listener where
  positive := slots_ne_zero s.maxProcs
  plans := fun ordinal time b cancels =>
    Bool.false_ne_true ((peaceful.plans ordinal time b).symm.trans cancels)
  signals := fun ordinal time b signals => by
    change (s.launch ordinal time b).signal.isSome = true at signals
    rw [peaceful.signals] at signals
    exact Bool.false_ne_true signals
  reacts := fun react listens e cancels =>
    Bool.false_ne_true ((peaceful.loyal react listens e).symm.trans cancels)
  raises := fun react listens e raised => by
    rw [peaceful.calm react listens e] at raised
    exact Bool.false_ne_true raised

theorem stays_of_calm (calm : s.listener.Calm) (pause : Nat) :
    Consumer.Stays { pause, listener := s.listener } := by
  intro e
  have quiet := Listener.Calm.raises_reaction (c := { pause, listener := s.listener }) calm e
  unfold Consumer.departure?
  rw [quiet]

variable {cancels breaks : Prop}

/-- **A blocking run comes to rest with a sound roster.** -/
theorem blocking_rests (allow : (s.rules cancels breaks).Allow s.listener)
    (may : s.interruption = {} ∨ cancels) :
    ∃ run, s.blocking = .ok run ∧ s.Passes run.pool ∧
      run.pool.next? s.threads s.listener s.launch = none ∧ run.pool.roster.Rests ∧
      run.pool.roster.Sound (s.poolRules cancels breaks) s.feed.batches ∧
      run.result = run.pool.roster.verdict s.feed := by
  obtain ⟨passes, halted, result⟩ :=
    Pool.run_passes s.threads s.listener s.launch s.feed s.pool
  have rests := Pool.rests_of_over (pool_allow allow) id may passes halted
  have sound := Pool.sound_of_passes (pool_allow allow) id may passes
  exact ⟨_, s.blocking_eq, passes, halted, rests, sound, result⟩

/-- **An event-driven run comes to rest with a sound roster**, if the receiver of events is there at
the end. -/
theorem events_rests (allow : (s.rules cancels breaks).Allow s.listener)
    (may : s.interruption = {} ∨ cancels) (pause : Nat) (cancellable detour : Bool) :
    ∃ run, s.events pause cancellable detour = .ok run ∧
      Stream.Passes { pause, listener := s.listener } s.launch detour s.feed (s.stream cancellable)
        run.stream ∧
      run.stream.next? { pause, listener := s.listener } s.launch detour = none ∧
      (run.stream.Here → run.stream.roster.Rests ∧
        run.stream.roster.Sound (s.rules cancels breaks) s.feed.batches ∧
        run.result = run.stream.roster.verdict (s.feed.relayed detour)) := by
  have allow : (s.rules cancels breaks).Allow
      (Consumer.listener { pause, listener := s.listener }) := allow
  obtain ⟨passes, halted⟩ := Stream.run_passes { pause, listener := s.listener }
    (s.rules cancels breaks).launch detour s.feed (s.stream cancellable)
  refine ⟨_, s.events_eq pause cancellable detour, passes, halted, fun here => ?_⟩
  have rests := Stream.rests_of_over allow may passes halted here
  have sound := (Stream.moves_of_here allow may passes here).1.sound
  exact ⟨rests, sound, Stream.result_of_here here⟩

/-- From each state of a blocking run, moves lead to every later one. -/
theorem blocking_moves (allow : (s.rules cancels breaks).Allow s.listener)
    (may : s.interruption = {} ∨ cancels) {p last : Pool} (reached : s.Passes p)
    (later : Pool.Before s.threads s.listener s.launch p last) :
    p.roster.Sound (s.poolRules cancels breaks) s.feed.batches ∧
      Roster.Moves (s.poolRules cancels breaks) p.roster last.roster := by
  have fits := (Pool.moves_of_passes (pool_allow allow) id may reached).2
  have sound := Pool.sound_of_passes (pool_allow allow) id may reached
  exact ⟨sound, (Pool.moves_of_before (pool_allow allow) id fits sound later).1⟩

/-- From each state of an event-driven run, moves lead to every later one in which the receiver of
events is there. -/
theorem events_moves (allow : (s.rules cancels breaks).Allow s.listener)
    (may : s.interruption = {} ∨ cancels) {pause : Nat} {cancellable detour : Bool}
    {t last : Stream}
    (reached : Stream.Passes { pause, listener := s.listener } s.launch detour s.feed
      (s.stream cancellable) t)
    (later : Stream.Before { pause, listener := s.listener } s.launch detour t last)
    (here : last.Here) :
    t.roster.Sound (s.rules cancels breaks) s.feed.batches ∧
      Roster.Moves (s.rules cancels breaks) t.roster last.roster := by
  have allow : (s.rules cancels breaks).Allow
      (Consumer.listener { pause, listener := s.listener }) := allow
  have later : Stream.Before _ (s.rules cancels breaks).launch detour t last := later
  have reached : Stream.Passes _ (s.rules cancels breaks).launch detour s.feed
      (s.stream cancellable) t := reached
  obtain ⟨moves, steady⟩ := Stream.moves_of_here allow may reached (here.of_before reached later)
  exact ⟨moves.sound, Stream.moves_later allow steady moves.sound later here⟩

/-- A calm receiver of events is there at the end. -/
theorem here_of_calm (calm : s.listener.Calm) {pause : Nat} {cancellable detour : Bool} {t : Stream}
    (passes : Stream.Passes { pause, listener := s.listener } s.launch detour s.feed
      (s.stream cancellable) t) : t.Here :=
  Stream.here_of_stays (stays_of_calm calm pause) passes

/-- A blocking run does not break if the launches deliver and the receiver of events is calm. -/
theorem blocking_whole (delivers : s.launch.Delivers s.feed.batches) (calm : s.listener.Calm)
    {run : PoolRun} (ran : s.blocking = .ok run) : run.pool.ledger.fault = none := by
  obtain ⟨_, ran', -, -, -, sound, -⟩ := blocking_rests (allow_cancels calm) (.inr trivial)
  obtain rfl := Except.ok.inj (ran.symm.trans ran')
  exact sound.fault_eq_none delivers id

/-- An event-driven run does not break if the launches deliver and the receiver of events is calm.
-/
theorem events_whole (delivers : s.launch.Delivers s.feed.batches) (calm : s.listener.Calm)
    {pause : Nat} {cancellable detour : Bool} {run : StreamRun}
    (ran : s.events pause cancellable detour = .ok run) :
    run.stream.tally.fault = none ∧ run.stream.Here := by
  obtain ⟨_, ran', passes, -, ends⟩ :=
    events_rests (allow_cancels calm) (.inr trivial) pause cancellable detour
  obtain rfl := Except.ok.inj (ran.symm.trans ran')
  have here := here_of_calm calm passes
  obtain ⟨-, sound, -⟩ := ends here
  exact ⟨sound.fault_eq_none delivers id, here⟩

/-! ## A setting -/

/-- The batches `a`, `b` and `c`, whose launches fail after some time, under a schedule that stops
at a failure. -/
def failing (maxProcs : Nat) : Setting where
  maxProcs
  stopOnError := true
  launch := fun _ time b =>
    { duration := some (5 + time)
      ending := .returned { invocation := ⟨b, b.items⟩, outcome := .exited, exitCode := some 1 } }
  feed := ⟨(((ItemSource.mk ["a", "b", "c"] none).group 1).map Grouped.batch).map (⟨1, ·⟩), none⟩
  listener := .passive
  interruption := { time := some 20 }

theorem failing_delivers (maxProcs : Nat) :
    (failing maxProcs).launch.Delivers (failing maxProcs).feed.batches :=
  fun _ _ _ _ => ⟨_, rfl, rfl⟩

theorem failing_calm (maxProcs : Nat) : (failing maxProcs).listener.Calm := Listener.calm_passive

end Setting

/-- Of all that can happen next the last always does: the controller goes before the workers, and
the last worker before the others. -/
def Threads.reversed : Threads where
  choice p := (p.successors { overtakes := true } none fun _ _ _ =>
    { ending := .malformed }).length - 1
  overtakes := true

end BatchExec
