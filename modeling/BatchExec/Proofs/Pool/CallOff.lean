import BatchExec.Proofs.Ledger
import BatchExec.Proofs.Pool.Handover

/-!
# Blocking runs that are called off

In a blocking run the receiver of events hears of a result while the slot of its launch comes back.
If it cancels the run at that, the controller gets no other slot.

* `Pool.Heeds`: the run is cancelled if the receiver has heard of an event at which it does that.
* `Pool.heeds_of_step`: **every step keeps to that.**
* `Pool.heeds_of_passes`: so it is in every state.
* `Pool.admitted_of_calls`: **after such an event no batch gets a slot.**
* `Pool.launched_of_calls`: **where workers go first, no launch starts either.**
-/

namespace BatchExec

variable {react : Event → Reaction}

namespace Ledger

/-- A receiver that cancels the run when it is told of a result has cancelled it after that. -/
theorem cancelled_tell (l : Ledger) (r : Result) {e : Event}
    (told : .delivered e ∈ (l.tell (some react) r).2) (cancels : (react e).cancels = true) :
    (l.tell (some react) r).1.cancelled = true := by
  obtain ⟨made, hmade⟩ : ∃ made : Event, made = ⟨r, l.completed.length, l.active⟩ := ⟨_, rfl⟩
  obtain ⟨notes, -, -⟩ := l.tell_some react r made hmade
  rw [notes] at told
  have same : e = made := by
    simp only [List.mem_cons, List.mem_append, List.mem_map] at told
    rcases told with here | called | ⟨f, -, broken⟩
    · exact Happening.delivered.inj here
    · split at called
      · cases List.mem_singleton.mp called
      · exact absurd called List.not_mem_nil
    · cases broken
  rw [same] at cancels
  unfold tell
  dsimp only
  rw [← hmade, if_pos cancels]
  split <;> rfl

/-- So it has when a launch has given its slot back. -/
theorem cancelled_release (l : Ledger) (b : Batch) (ending : Ending) {e : Event}
    (told : .delivered e ∈ (l.release (some react) b ending).2)
    (cancels : (react e).cancels = true) :
    (l.release (some react) b ending).1.cancelled = true := by
  have recorded (l : Ledger) (r : Result) (told : .delivered e ∈ (l.record (some react) r).2) :
      (l.record (some react) r).1.cancelled = true := by
    unfold record at told ⊢
    simp only [List.mem_cons, List.mem_append, reduceCtorEq, false_or] at told
    rcases told with stopping | told
    · split at stopping
      · cases List.mem_singleton.mp stopping
      · exact absurd stopping List.not_mem_nil
    · exact cancelled_tell _ r told cancels
  revert told
  unfold release
  split
  · exact fun _ => rfl
  · split
    · exact fun _ => rfl
    · dsimp only
      split
      · exact recorded _ _
      · exact fun _ => rfl

end Ledger

namespace Pool

variable {p : Pool}

/-- The run is cancelled if the receiver has heard of an event at which it cancels the run. -/
def Heeds (react : Event → Reaction) (p : Pool) : Prop :=
  ∀ time e, ⟨time, .delivered e⟩ ∈ p.history → (react e).cancels = true →
    p.ledger.cancelled = true

/-- What is booked keeps a cancelled run cancelled, and the receiver that hears of it is heeded. -/
theorem Heeds.book (heeds : p.Heeds react) {outcome : Ledger × List Happening}
    (stays : p.ledger.cancelled = true → outcome.1.cancelled = true)
    (calls : ∀ e, .delivered e ∈ outcome.2 → (react e).cancels = true →
      outcome.1.cancelled = true) : (p.book outcome).Heeds react := by
  intro time e mem cancels
  have grown : (p.book outcome).history = p.history ++ outcome.2.map (⟨p.now, ·⟩) :=
    history_note { p with ledger := outcome.1 } outcome.2
  rw [grown] at mem
  rcases List.mem_append.mp mem with old | new
  · exact stays (heeds time e old cancels)
  · obtain ⟨what, listed, same⟩ := List.mem_map.mp new
    cases same
    exact calls e listed cancels

theorem Heeds.note (heeds : p.Heeds react) {happenings : List Happening}
    (silent : ∀ e, .delivered e ∉ happenings) : (p.note happenings).Heeds react :=
  have noted : (p.book (p.ledger, happenings)).Heeds react :=
    heeds.book id fun e mem _ => absurd mem (silent e)
  noted

theorem Heeds.cancel (heeds : p.Heeds react) : p.cancel.Heeds react :=
  heeds.book (fun _ => rfl) fun _ _ _ => rfl

/-! ## Launches -/

theorem Heeds.release (heeds : p.Heeds react) (b : Batch) (ending : Ending) :
    (p.book (p.ledger.release (some react) b ending)).Heeds react :=
  heeds.book (p.ledger.outlives_release _ b ending).stays fun _ told cancels =>
    p.ledger.cancelled_release b ending told cancels

theorem Heeds.finish (heeds : p.Heeds react) (b : Batch) (plan : Plan) :
    (Pool.finish (some react) p b plan).Heeds react := by
  have ended : (p.note (.ended b :: plan.closing.map .remarked)).Heeds react :=
    heeds.note (by simp)
  unfold Pool.finish
  dsimp only
  split
  · exact ended.cancel.release b _
  · exact ended.release b _

theorem Heeds.heed (heeds : p.Heeds react) (signal : Nat) : (p.heed signal).Heeds react := by
  unfold Pool.heed
  split
  · exact (heeds.note (by simp)).cancel
  · exact heeds

/-- A launch starts. -/
theorem Heeds.start (heeds : p.Heeds react) (launch : Launcher) (b : Batch) :
    (Pool.start launch p b).Heeds react := by
  have begun : (p.note (.started b :: (launch p.launched p.now b).opening.map .remarked ++
      (launch p.launched p.now b).attempt.toList.map .attempted)).Heeds react :=
    heeds.note (by simp)
  unfold Pool.start takeOff
  dsimp only
  split <;> exact begun

/-! ## Steps -/

variable {threads : Threads} {launch : Launcher} {q : Pool}

/-- **A step keeps to what the receiver of events has asked for.** -/
theorem heeds_of_step (heeds : p.Heeds react) (step : Step threads (some react) launch p q) :
    q.Heeds react := by
  cases step with
  | perform before due after =>
    cases due with
    | cancel => exact Heeds.cancel (p := { p with due := before ++ after }) heeds
    | finish b plan => exact Heeds.finish (p := { p with due := before ++ after }) heeds b plan
  | start before b after =>
    exact Heeds.start (p := { p with taken := before ++ after }) heeds launch b
  | heed signal rest => exact Heeds.heed (p := { p with signals := rest }) heeds signal
  | takeUp | doze | expire => exact heeds
  | close | ask | refuse | submit => exact heeds.note (by simp)
  | fetch =>
    have asked : (p.note [.requested]).Heeds react := heeds.note (by simp)
    exact asked.note (by simp)
  | accept b left =>
    have booked : (p.book (p.ledger.take, [.admitted b (p.ledger.active + 1)])).Heeds react :=
      heeds.book id (by simp)
    exact booked
  | arrive time item => exact Heeds.note (p := { p with now := max p.now time }) heeds (by simp)

variable {feed : Feed} {interruption : Interruption} {ledger : Ledger}

/-- **In every state the run is cancelled if the receiver has heard of an event at which it does
that.** -/
theorem heeds_of_passes
    (passes : Passes threads (some react) launch feed (initial ledger interruption) p) :
    p.Heeds react := by
  refine passes.invariant (Heeds react) ?_ fun _ heeds step => heeds_of_step heeds step
  intro time e mem
  have mem : ⟨time, .delivered e⟩ ∈ (initial ledger interruption).history := mem
  rw [history_initial] at mem
  split at mem <;> simp at mem

section

variable (passes : Passes threads (some react) launch feed (initial ledger interruption) p)
  {before after : History} {time : Nat} {e : Event}
  (split : p.history = before ++ ⟨time, .delivered e⟩ :: after) (cancels : (react e).cancels = true)
include passes split cancels

/-- When a batch moves on after an event at which the receiver cancels the run, the run is
cancelled. -/
theorem exists_advance_of_calls {x : Entry} (mem : x ∈ after) (moves : x.what.isAdvance = true) :
    ∃ m, Passes threads (some react) launch feed (initial ledger interruption) m ∧
      m.ledger.cancelled = true ∧ m.Advances x.what := by
  obtain ⟨between, rest, rfl⟩ := List.append_of_mem mem
  have later : p.history = (before ++ ⟨time, .delivered e⟩ :: between) ++ x :: rest := by
    rw [split, List.append_assoc]
    rfl
  obtain ⟨m, reached, -, here, advances⟩ := exists_advance passes later moves
  have heard : ⟨time, .delivered e⟩ ∈ m.history := by
    rw [here]
    exact List.mem_append_right before List.mem_cons_self
  exact ⟨m, reached, heeds_of_passes reached time e heard cancels, advances⟩

/-- **After an event at which the receiver cancels the run no batch gets a slot.** -/
theorem admitted_of_calls : after.admitted = [] := by
  refine List.filterMap_eq_nil_iff.mpr fun x mem => ?_
  obtain ⟨now, what⟩ := x
  cases what with
  | admitted b active =>
    obtain ⟨m, reached, stopped, advances⟩ := exists_advance_of_calls passes split cancels mem rfl
    cases advances with
    | accept b left stage goes => exact absurd (goes.symm.trans stopped) Bool.false_ne_true
  | _ => rfl

/-- **Where workers go first, no launch starts either.** -/
theorem launched_of_calls (first : threads.WorkersFirst) : after.launched = [] := by
  refine List.map_eq_nil_iff.mpr (List.filterMap_eq_nil_iff.mpr fun x mem => ?_)
  obtain ⟨now, what⟩ := x
  cases what with
  | started b =>
    obtain ⟨m, reached, stopped, advances⟩ := exists_advance_of_calls passes split cancels mem rfl
    cases advances with
    | start b taken =>
      have goes := (underway_of_taken first reached taken).goes
      exact absurd (goes.symm.trans stopped) Bool.false_ne_true
  | _ => rfl

end

end Pool

end BatchExec
