import BatchExec.Proofs.Pool.Roster
import BatchExec.Proofs.Pool.Wakening
import BatchExec.Proofs.Roster.Rest

/-!
# Whole blocking runs

From the first state of a blocking run to its last one the roster is sound, and in the last state it
is at rest: whichever thread goes on at whatever time, no run gets stuck.

* `Pool.moves_of_passes`: the rosters of a run are chains of moves from the roster before it.
* `Pool.moves_of_before`: later states of a run are chains of moves from earlier ones.
* `Pool.rests_of_over`: **when nothing can happen any more, nothing is under way.**
* `Pool.peak_of_step`: **from one state to the next the peak keeps up with the active launches.**
-/

namespace BatchExec

/-- The ledger before a run with some rules. -/
def Rules.ledger (rules : Rules) : Ledger :=
  { bound := rules.bound, stopOnError := rules.stopOnError }

theorem Ledger.peak_tell (l : Ledger) (listener : Listener) (r : Result) :
    (l.tell listener r).1.peak = l.peak := by
  unfold tell
  split
  · rfl
  · dsimp only
    split <;> split <;> rfl

theorem Ledger.peak_release (l : Ledger) (listener : Listener) (b : Batch) (ending : Ending) :
    (l.release listener b ending).1.peak = l.peak := by
  unfold release
  split
  · rfl
  · split
    · rfl
    · dsimp only
      split
      · exact peak_tell _ _ _
      · rfl

namespace Pool

variable {threads : Threads} {rules : Rules} {listener : Listener} {feed : Feed}
  {interruption : Interruption} {p q : Pool}

/-! ## The first state -/

theorem moves_initial (may : interruption = {} ∨ rules.cancels) :
    Roster.Moves rules (Roster.initial feed.batches)
      ((initial rules.ledger interruption).rosterAt (.asking feed.items)) := by
  by_cases early : interruption.beforehand = true
  · have cancels : rules.cancels := by
      rcases may with rfl | cancels
      · exact absurd early Bool.false_ne_true
      · exact cancels
    have cancelled := Roster.moves_cancel (Roster.initial feed.batches) cancels
    simp only [initial, early, if_true]
    convert cancelled using 1
    simp only [rosterAt, flights]
    cases interruption.time <;> rfl
  · simp only [initial, early, Bool.false_eq_true, if_false]
    convert Relation.ReflTransGen.refl using 1
    simp only [rosterAt, flights]
    cases interruption.time <;> rfl

theorem full_of_blocked {l : Ledger} (blocked : l.blocked = true) :
    ∃ n : Nat, l.bound = some n ∧ n ≤ l.active := by
  have full := (Bool.and_eq_true_iff.mp blocked).2
  unfold Ledger.full at full
  split at full
  · rename_i n slots
    exact ⟨n, slots, of_decide_eq_true full⟩
  · contradiction

theorem fits_initial (may : interruption = {} ∨ rules.cancels) :
    (initial rules.ledger interruption).Fits rules := by
  have timers : (initial rules.ledger interruption).timers =
      interruption.time.toList.map (⟨·, .cancel⟩) := rfl
  have books : (initial rules.ledger interruption).ledger.bound = rules.bound ∧
      (initial rules.ledger interruption).ledger.stopOnError = rules.stopOnError := by
    simp only [initial]
    split <;> exact ⟨rfl, rfl⟩
  have none : (initial rules.ledger interruption).due = [] ∧
      (initial rules.ledger interruption).signals = [] := by
    simp only [initial]
    split <;> exact ⟨rfl, rfl⟩
  refine ⟨books.1, books.2, ?_, fun _ d mem => ?_, ?_, fun d mem => ?_, fun some => ?_⟩
  · intro reaps t mem f flight
    rw [timers] at mem
    obtain ⟨time, -, rfl⟩ := List.mem_map.mp mem
    contradiction
  · exact absurd (none.1 ▸ mem) List.not_mem_nil
  · intro t mem _
    rw [timers] at mem
    rcases may with rfl | cancels
    · exact absurd mem List.not_mem_nil
    · exact cancels
  · exact absurd (none.1 ▸ mem) List.not_mem_nil
  · exact absurd none.2 some

/-! ## Nobody can go on -/

/-- When workers have nothing to do, all batches that wait have not been handed over. -/
theorem Idle.waiting (idle : p.Idle) : p.roster.waiting = p.stage.waiting := by
  show p.taken ++ p.queue ++ p.stage.waiting = _
  rw [idle.taken, idle.queue]
  rfl

/-- When workers have nothing to do and no timer is set for the end of a launch, none is running. -/
theorem Idle.flights (idle : p.Idle) (silent : p.timers.filterMap Timer.flight? = []) :
    p.flights = 0 := by
  rw [Pool.flights, idle.due, silent]
  rfl

theorem silent_of_idle (idle : p.busy = false) : p.timers.filterMap Timer.flight? = [] := by
  rw [busy, Bool.or_eq_false_iff] at idle
  rw [List.filterMap_eq_nil_iff]
  intro t mem
  have quiet := List.any_eq_false.mp idle.2 t mem
  cases due : t.due with
  | cancel => simp [Timer.flight?, due, Due.flight?]
  | finish b plan => simp [due, Due.isFinish] at quiet

/-- While the controller sleeps and no batch is on its way to a worker, every slot is taken by a
running launch. -/
theorem full_of_asleep {all : List Batch} (fits : p.Fits rules) (sound : p.roster.Sound rules all)
    (wakes : p.Wakes) (asleep : p.ledger.asleep = true) (free : p.roster.waiting = []) :
    ∃ n, rules.bound = some n ∧ p.flights.card = n := by
  obtain ⟨n, slots, full⟩ := full_of_blocked (wakes asleep).1
  have limited : rules.bound = some n := fits.bound ▸ slots
  exact ⟨n, limited, sound.running_of_full limited full free⟩

/-! ## From state to state -/

theorem moves_of_before (allow : rules.Allow listener)
    (turns : threads.overtakes = true → rules.overtakes) (fits : p.Fits rules) {all : List Batch}
    (sound : p.roster.Sound rules all) (before : Before threads listener rules.launch p q) :
    Roster.Moves rules p.roster q.roster ∧ q.Fits rules := by
  induction before with
  | refl => exact ⟨.refl, fits⟩
  | tail _ next ih =>
    obtain ⟨moves, fitting⟩ := ih
    obtain ⟨more, fitted⟩ :=
      moves_of_step allow turns fitting (sound.of_moves moves) (step_of_next? next)
    exact ⟨moves.trans more, fitted⟩

section

variable (allow : rules.Allow listener) (turns : threads.overtakes = true → rules.overtakes)
  (may : interruption = {} ∨ rules.cancels)
  (passes : Passes threads listener rules.launch feed (initial rules.ledger interruption) p)
include allow turns may passes

/-- The rosters of a run are chains of moves from the roster before it. -/
theorem moves_of_passes :
    Roster.Moves rules (Roster.initial feed.batches) p.roster ∧ p.Fits rules := by
  have began : Roster.Moves rules (Roster.initial feed.batches) _ := moves_initial may
  have fits : Fits rules
      { initial rules.ledger interruption with stage := .asking feed.items } :=
    { fits_initial may with }
  have sound := began.sound
  obtain ⟨moves, fits⟩ := moves_of_before allow turns fits sound passes
  exact ⟨began.trans moves, fits⟩

/-- **In every state the roster is sound.** -/
theorem sound_of_passes : p.roster.Sound rules feed.batches :=
  (moves_of_passes allow turns may passes).1.sound

/-- **When nothing can happen any more, nothing is under way.** If the controller slept, no slot
would be free, but then some launch would be under way. -/
theorem rests_of_over (halted : next? threads listener rules.launch p = none) :
    p.roster.Rests := by
  obtain ⟨still, timeless⟩ := still_of_halted halted
  have fits := (moves_of_passes allow turns may passes).2
  unfold elapse at timeless
  obtain ⟨time, item, left, stage⟩ | ⟨b, left, stage, asleep⟩ | ⟨cut, stage⟩ := still.stage
  · cases next : p.timers <;> simp [stage, next] at timeless
  · have none : p.timers = [] := by
      cases next : p.timers with
      | nil => rfl
      | cons t rest => simp [stage, next] at timeless
    obtain ⟨n, limited, full⟩ := full_of_asleep fits (sound_of_passes allow turns may passes)
      (wakes_of_passes rfl passes) asleep (still.waiting.trans (by rw [stage]; rfl))
    have silent : p.flights = 0 := still.flights (by rw [none]; rfl)
    obtain rfl : n = 0 := full.symm.trans (congrArg Multiset.card silent)
    exact absurd limited allow.positive
  · have silent : p.timers.filterMap Timer.flight? = [] := by
      cases next : p.timers with
      | nil => rfl
      | cons t rest => exact next ▸ silent_of_idle (by simpa [stage, next] using timeless)
    refine ⟨still.flights silent, still.waiting.trans (by rw [stage]; rfl), ?_, ?_⟩
    · show p.stage.held = none
      rw [stage]
      rfl
    · intro whole
      have whole : p.stage.refused = false := whole
      show p.stage.left.map FeedItem.batch = []
      rw [stage] at whole ⊢
      cases cut with
      | none => rfl
      | some left => exact absurd whole.symm Bool.false_ne_true

end

/-! ## The peak -/

theorem peak_finish (p : Pool) (b : Batch) (plan : Plan) :
    (finish listener p b plan).ledger.peak = p.ledger.peak := by
  unfold finish
  split <;> exact Ledger.peak_release _ _ _ _

theorem peak_perform (p : Pool) (due : Due) :
    (perform listener p due).ledger.peak = p.ledger.peak := by
  cases due with
  | cancel => rfl
  | finish b plan => exact peak_finish p b plan

theorem ledger_start (launch : Launcher) (p : Pool) (b : Batch) :
    (start launch p b).ledger = p.ledger := by
  unfold start takeOff
  dsimp only
  split <;> rfl

/-- **From one state to the next the peak keeps up with the active launches.** -/
theorem peak_of_step {launch : Launcher} (step : Step threads listener launch p q) :
    q.ledger.peak = p.ledger.peak ∨ q.ledger.peak = max p.ledger.peak q.ledger.active := by
  cases step with
  | perform before due after => exact .inl (peak_perform _ due)
  | start before b after => exact .inl (congrArg Ledger.peak (ledger_start launch _ b))
  | heed signal rest =>
    left
    unfold heed
    split <;> rfl
  | accept => exact .inr rfl
  | takeUp | close | ask | fetch | refuse | doze | submit | expire | arrive => exact .inl rfl

theorem peak_initial (rules : Rules) :
    (initial rules.ledger interruption).ledger.peak =
      (initial rules.ledger interruption).ledger.active := by
  unfold initial
  dsimp only
  split <;> rfl

end Pool

end BatchExec
