import BatchExec.Proofs.Ledger
import BatchExec.Proofs.Pool.Handover

/-!
# Signals in blocking runs

A signal that cancels a run reaches the controller at whatever it is doing, but it may come while a
worker goes on. From then on the run is cancelled, or the controller has the signal to handle before
all else; either way no batch gets a slot.

* `Plan.Interrupts`: a signal that cancels the run comes right after the start of a launch.
* `Pool.Stops`: the run is cancelled, or the controller has a signal to handle that cancels it.
* `Pool.stops_of_step`: **every step keeps to that, and gives no batch a slot.**
* `Pool.stops_of_passes`: once such a launch has started, the run stops.
* `Pool.admitted_of_interrupts`: **after such a start no batch gets a slot.**
-/

namespace BatchExec

/-- A signal that cancels the run comes right after the start. -/
def Plan.Interrupts (plan : Plan) : Prop :=
  ∃ signal ∈ Pool.cancellingSignals, signal ∈ plan.signals

namespace Pool

variable {threads : Threads} {listener : Listener} {launch : Launcher} {p q : Pool}

/-- The run is cancelled, or the controller has a signal to handle that cancels it. -/
def Stops (p : Pool) : Prop :=
  p.ledger.cancelled = true ∨ ∃ signal ∈ cancellingSignals, signal ∈ p.signals

theorem stops_perform (stops : p.Stops) (listener : Listener) (due : Due) :
    (perform listener p due).Stops := by
  cases due with
  | cancel => exact .inl rfl
  | finish b plan =>
    unfold perform finish
    dsimp only
    split
    · exact .inl ((Ledger.outlives_release _ listener b plan.ending).stays rfl)
    · rcases stops with stopped | pending
      · exact .inl ((p.ledger.outlives_release listener b plan.ending).stays stopped)
      · exact .inr pending

theorem signals_start (launch : Launcher) (p : Pool) (b : Batch) :
    (start launch p b).signals = p.signals ++ (launch p.launched p.now b).signals := by
  unfold start takeOff
  dsimp only
  split <;> rfl

theorem launched_start (launch : Launcher) (p : Pool) (b : Batch) :
    (start launch p b).launched = p.launched + 1 := by
  unfold start takeOff
  dsimp only
  split <;> rfl

theorem stops_start (stops : p.Stops) (launch : Launcher) (b : Batch) :
    (start launch p b).Stops := by
  unfold Stops
  rw [ledger_start, signals_start]
  exact stops.imp_right fun ⟨signal, cancels, pending⟩ =>
    ⟨signal, cancels, List.mem_append_left _ pending⟩

theorem stops_heed {signal : Nat} {rest : List Nat} (pending : p.signals = signal :: rest)
    (stops : p.Stops) : (heed { p with signals := rest } signal).Stops := by
  unfold heed
  split
  · exact .inl rfl
  · rename_i harmless
    rcases stops with stopped | ⟨other, cancels, listed⟩
    · exact .inl stopped
    · rw [pending] at listed
      rcases List.mem_cons.mp listed with rfl | later
      · exact absurd (List.contains_iff_mem.mpr cancels) harmless
      · exact .inr ⟨other, cancels, later⟩

/-- **Every step keeps to that.** -/
theorem stops_of_step (stops : p.Stops) (step : Step threads listener launch p q) : q.Stops := by
  cases step with
  | perform before due after =>
    exact stops_perform (p := { p with due := before ++ after }) stops listener due
  | start before b after =>
    exact stops_start (p := { p with taken := before ++ after }) stops launch b
  | heed signal rest pending => exact stops_heed pending stops
  | _ => exact stops

/-- **A run that stops gives no batch a slot.** -/
theorem admitted_of_stops (stops : p.Stops) (step : Step threads listener launch p q) :
    q.history.admitted = p.history.admitted := by
  obtain ⟨more, grown, brings⟩ := history_of_step step
  have none : more.admitted = [] := by
    cases brings with
    | idle more idle => exact admitted_of_idle idle
    | advance x rest advances idle =>
      have later := admitted_of_idle idle
      obtain ⟨time, what⟩ := x
      cases advances with
      | submit | start => exact later
      | accept b left stage goes room handled =>
        rcases stops with stopped | ⟨signal, -, pending⟩
        · exact absurd (goes.symm.trans stopped) Bool.false_ne_true
        · rw [handled] at pending
          exact absurd pending List.not_mem_nil
  rw [grown, History.admitted_append, none, List.append_nil]

theorem admitted_of_before (stops : p.Stops) (before : Before threads listener launch p q) :
    q.history.admitted = p.history.admitted := by
  suffices q.Stops ∧ q.history.admitted = p.history.admitted from this.2
  induction before with
  | refl => exact ⟨stops, rfl⟩
  | tail _ next ih =>
    have step := step_of_next? next
    exact ⟨stops_of_step ih.1 step, (admitted_of_stops ih.1 step).trans ih.2⟩

/-! ## Launches after which a signal comes -/

/-- Only a launch that starts adds to the number of launches. -/
theorem launched_of_step (step : Step threads listener launch p q) :
    q.launched = p.launched ∨
      ∃ before b after, p.taken = before ++ b :: after ∧
        q = start launch { p with taken := before ++ after } b := by
  cases step with
  | start before b after waits => exact .inr ⟨before, b, after, waits, rfl⟩
  | perform before due after =>
    obtain ⟨ledger, past, same⟩ := perform_same listener { p with due := before ++ after } due
    exact .inl (same ▸ rfl)
  | heed signal rest =>
    obtain ⟨ledger, past, same⟩ := heed_same { p with signals := rest } signal
    exact .inl (same ▸ rfl)
  | _ => exact .inl rfl

section

variable {k : Nat} (interrupts : ∀ time b, (launch k time b).Interrupts) {feed : Feed}
  {interruption : Interruption} {ledger : Ledger}
  (passes : Passes threads listener launch feed (initial ledger interruption) p)
include interrupts passes

/-- **Once a launch has started after whose start a signal cancels the run, the run stops.** -/
theorem stops_of_passes (started : k < p.launched) : p.Stops := by
  refine passes.invariant (fun p => k < p.launched → p.Stops) (fun none => ?_)
    (fun {p q} _ ih step later => ?_) started
  · have first : (initial ledger interruption).launched = 0 := by
      unfold initial
      dsimp only
      split <;> rfl
    exact absurd (first ▸ none) (Nat.not_lt_zero k)
  · by_cases before : k < p.launched
    · exact stops_of_step (ih before) step
    · rcases launched_of_step step with same | ⟨first, b, after, -, rfl⟩
      · exact absurd (same ▸ later) before
      · rw [launched_start] at later
        change k < p.launched + 1 at later
        obtain rfl : k = p.launched := by omega
        obtain ⟨signal, cancels, comes⟩ := interrupts p.now b
        refine .inr ⟨signal, cancels, ?_⟩
        rw [signals_start]
        exact List.mem_append_right _ comes

/-- **After the start of such a launch no batch gets a slot.** -/
theorem admitted_of_interrupts {before after : History} {time : Nat} {b : Batch}
    (split : p.history = before ++ ⟨time, .started b⟩ :: after)
    (counts : ∀ m, Passes threads listener launch feed (initial ledger interruption) m →
      m.launched = m.history.launched.length)
    (nth : before.launched.length = k) : after.admitted = [] := by
  obtain ⟨m, n, first, rest, reached, next, later, here, grown, brings⟩ :=
    exists_step passes split (by simp)
  obtain ⟨rfl, -⟩ := brings.advances rfl
  rw [List.append_nil] at here
  subst here
  have idle : History.admitted rest = [] := by
    cases brings with
    | idle _ idle => exact absurd (idle _ List.mem_cons_self) (by simp [Happening.isAdvance])
    | advance _ _ _ idle => exact admitted_of_idle idle
  have started : k < n.launched := by
    rw [counts n (reached.tail next), grown, List.nil_append, History.launched_append,
      List.length_append, nth]
    exact Nat.lt_add_of_pos_right (Nat.succ_pos _)
  have shut := admitted_of_before (stops_of_passes interrupts (reached.tail next) started) later
  rw [split, grown, List.nil_append, History.admitted_append, History.admitted_append] at shut
  exact (List.append_cancel_left shut).trans idle

end

end Pool

end BatchExec
