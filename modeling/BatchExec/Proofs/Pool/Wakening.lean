import BatchExec.Proofs.Pool.Step

/-!
# Waking up

A controller that finds no free slot falls asleep, and asks again only when somebody wakes it up.
Whoever changes the ledger does: so the controller never sleeps while a slot is free or the run is
cancelled.

* `Pool.Wakes`: the controller sleeps only if it has nothing better to do.
* `Ledger.asleep_release`: **a launch that gives its slot back wakes the controller up.**
* `Pool.wakes_of_step`: **no step lets the controller oversleep**, whichever thread makes it.
* `Pool.wakes_of_passes`: so it is in every state.
-/

namespace BatchExec

namespace Ledger

theorem asleep_tell (l : Ledger) (listener : Listener) (r : Result) (awake : l.asleep = false) :
    (l.tell listener r).1.asleep = false := by
  unfold tell
  split
  · exact awake
  · dsimp only
    split <;> split <;> first | rfl | exact awake

/-- **A launch that gives its slot back wakes the controller up**, whatever it ended with. -/
theorem asleep_release (l : Ledger) (listener : Listener) (b : Batch) (ending : Ending) :
    (l.release listener b ending).1.asleep = false := by
  unfold release
  split
  · rfl
  · split
    · rfl
    · dsimp only
      split
      · exact asleep_tell _ listener _ rfl
      · rfl

end Ledger

namespace Pool

variable {threads : Threads} {listener : Listener} {launch : Launcher} {p q : Pool}

/-- If the controller sleeps, it wants a slot, none is free, and the run is not cancelled. -/
def Wakes (p : Pool) : Prop :=
  p.ledger.asleep = true → p.ledger.blocked = true ∧ ∃ b left, p.stage = .holding b left

theorem Wakes.of_awake (awake : p.ledger.asleep = false) : p.Wakes := fun asleep =>
  absurd (awake.symm.trans asleep) Bool.false_ne_true

/-- A controller that is doing something else does not sleep. -/
theorem Wakes.awake (wakes : p.Wakes) (elsewhere : ∀ b left, p.stage ≠ .holding b left) :
    p.ledger.asleep = false := by
  by_contra asleep
  obtain ⟨-, b, left, stage⟩ := wakes (eq_true_of_ne_false asleep)
  exact elsewhere b left stage

theorem wakes_perform (listener : Listener) (p : Pool) (due : Due) :
    (perform listener p due).Wakes := by
  cases due with
  | cancel => exact .of_awake rfl
  | finish b plan => exact .of_awake (Ledger.asleep_release _ listener b plan.ending)

theorem Wakes.start (wakes : p.Wakes) (launch : Launcher) (b : Batch) :
    (Pool.start launch p b).Wakes := by
  unfold Pool.start takeOff
  dsimp only
  split <;> exact wakes

theorem Wakes.heed (wakes : p.Wakes) (signal : Nat) : (Pool.heed p signal).Wakes := by
  unfold Pool.heed
  split
  · exact .of_awake rfl
  · exact wakes

/-- **No step lets the controller oversleep**, whichever thread makes it. -/
theorem wakes_of_step (wakes : p.Wakes) (step : Step threads listener launch p q) : q.Wakes := by
  have elsewhere {stage : Stage} (here : p.stage = stage)
      (other : ∀ b left, stage ≠ .holding b left) : p.ledger.asleep = false :=
    wakes.awake fun b left => here ▸ other b left
  cases step with
  | perform before due after => exact wakes_perform listener _ due
  | start before b after => exact Wakes.start (p := { p with taken := before ++ after }) wakes _ b
  | takeUp | expire => exact wakes
  | heed signal rest => exact Wakes.heed (p := { p with signals := rest }) wakes signal
  | close stage | ask item left stage | fetch item left stage | submit b left stage
  | arrive time item left stage => exact .of_awake (elsewhere stage nofun)
  | accept b left stage awake | refuse b left stage awake => exact .of_awake awake
  | doze b left stage awake blocked => exact fun _ => ⟨blocked, b, left, stage⟩

variable {feed : Feed} {interruption : Interruption} {ledger : Ledger}

/-- **In no state the controller oversleeps.** -/
theorem wakes_of_passes (fresh : ledger.asleep = false)
    (passes : Passes threads listener launch feed (initial ledger interruption) p) : p.Wakes := by
  refine passes.invariant Wakes (.of_awake ?_) fun _ wakes step => wakes_of_step wakes step
  unfold initial
  dsimp only
  split
  · rfl
  · exact fresh

end Pool

end BatchExec
