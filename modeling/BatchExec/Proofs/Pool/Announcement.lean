import BatchExec.Proofs.Ledger
import BatchExec.Proofs.Pool.Journal

/-!
# The events of a blocking run

In a blocking run the receiver of events is told of each result as soon as it comes in. So in every
state it has been told of all events that the history calls for.

* `Pool.Announces.finish`: the end of a launch.
* `Pool.announces_of_step`: **a step leaves the receiver told of every result**, whoever makes it.
* `Pool.announces_of_passes`: **in every state the receiver has been told of every result.**
-/

namespace BatchExec.Pool

variable {listener : Listener} {p : Pool}

/-- The books agree with the history, and the receiver has been told of every result. -/
def Announces (listener : Listener) (p : Pool) : Prop :=
  p.history.Announces listener p.ledger.active p.ledger.completed []

theorem Announces.note (announces : p.Announces listener) {happenings : List Happening}
    (silent : ∀ e ∈ happenings, e.isIdle = true ∧ e.event? = none) :
    (p.note happenings).Announces listener := by
  rw [Announces, history_note]
  exact announces.silent silent p.now

theorem Announces.cancel (announces : p.Announces listener) : p.cancel.Announces listener :=
  Announces.note (p := { p with ledger := p.ledger.cancel }) announces
    (by simp [Happening.isIdle, Happening.event?])

/-! ## Launches -/

/-- The receiver is told of the result that came in last. -/
theorem announces_tell {h : History} {l : Ledger} {r : Result}
    (announces : h.Announces listener l.active l.completed [⟨r, l.completed.length, l.active⟩])
    (now : Nat) :
    History.Announces listener (h ++ (l.tell listener r).2.map (⟨now, ·⟩)) l.active l.completed
      [] := by
  have taken := announces.delivered now
  cases listener with
  | none => exact taken
  | some react =>
    obtain ⟨notes, -, -⟩ := l.tell_some react r _ rfl
    rw [notes, List.map_cons, List.append_cons]
    refine taken.silent (fun e mem => ?_) now
    rcases List.mem_append.mp mem with cancelled | faulted
    · split at cancelled
      · rw [List.mem_singleton.mp cancelled]
        exact ⟨rfl, rfl⟩
      · exact absurd cancelled List.not_mem_nil
    · obtain ⟨f, -, rfl⟩ := List.mem_map.mp faulted
      exact ⟨rfl, rfl⟩

/-- The slot of a launch that has ended comes back, and the receiver is told of its result. -/
theorem announces_release (held : 0 < p.ledger.active) (f : Flight)
    (ended : p.history.landed.getLast? = some f.batch)
    (announces : p.history.Announces listener (p.ledger.active - 1) p.ledger.completed []) :
    (p.book (p.ledger.release listener f.batch f.plan.ending)).Announces listener := by
  obtain ⟨l, hl⟩ : ∃ l, l = p.ledger.settle f := ⟨_, rfl⟩
  have active : l.active = p.ledger.active - 1 := by rw [hl]; rfl
  have completed : l.completed = p.ledger.completed ++ f.result?.toList := by rw [hl]; rfl
  rw [Ledger.release_eq p.ledger held listener f, ← hl]
  cases brings : f.result? with
  | none =>
    rw [brings, Option.toList_none, List.append_nil] at completed
    rw [← active, ← completed] at announces
    rw [Announces, book, history_note]
    refine announces.silent (fun e mem => ?_) p.now
    obtain ⟨flaw, -, rfl⟩ := List.mem_map.mp mem
    exact ⟨rfl, rfl⟩
  | some r =>
    have only : ((p.ledger.stopping r).filter fun e => !e.isIdle) =
        (some r).toList.map .recorded := by
      unfold Ledger.stopping
      split <;> rfl
    have quiet : History.heard ((p.ledger.stopping r).map (⟨p.now, ·⟩)) = [] := by
      unfold Ledger.stopping
      split <;> rfl
    have own : ∀ x ∈ some r, ∃ b ∈ p.history.landed.getLast?, x.index = b.index := by
      rintro x ⟨⟩
      exact ⟨f.batch, ended, Flight.index_of_result? brings⟩
    have recorded := announces.notes only p.now own quiet
    have count : p.ledger.completed.length + 1 = l.completed.length := by
      simp [completed, brings]
    rw [← brings, ← completed, brings, ← active, count, List.nil_append, Option.toList_some,
      List.map_singleton] at recorded
    rw [Announces, book, history_note, List.map_append, ← List.append_assoc]
    show History.Announces listener _ (l.tell listener r).1.active
      (l.tell listener r).1.completed []
    rw [Ledger.active_tell, Ledger.completed_tell]
    exact announces_tell recorded p.now

/-- **The end of a launch.** -/
theorem Announces.finish (announces : p.Announces listener) (held : 0 < p.ledger.active)
    (f : Flight) : (Pool.finish listener p f.batch f.plan).Announces listener := by
  obtain ⟨noted, hnoted⟩ : ∃ noted,
    noted = p.note (.ended f.batch :: f.plan.closing.map .remarked) := ⟨_, rfl⟩
  have ended : noted.history.Announces listener (noted.ledger.active - 1) noted.ledger.completed
      [] := by
    rw [hnoted, history_note]
    exact History.Announces.ended announces p.now f.batch f.plan.closing
  have last : noted.history.landed.getLast? = some f.batch := by
    rw [hnoted, history_note]
    exact History.getLast?_landed _ _ _ _
  have active : 0 < noted.ledger.active := by
    rw [hnoted]
    exact held
  unfold Pool.finish
  dsimp only
  rw [← hnoted]
  split
  · have cancelled : noted.cancel.history = noted.history ++ [⟨noted.now, .cancelled⟩] := by
      rw [Pool.cancel, book, history_note]
      rfl
    refine announces_release (p := noted.cancel) active f ?_ ?_
    · rw [cancelled, ← last]
      exact congrArg List.getLast? (List.filterMap_append.trans (List.append_nil _))
    show noted.cancel.history.Announces listener _ _ _
    rw [cancelled]
    have silent : ∀ e ∈ [Happening.cancelled], e.isIdle = true ∧ e.event? = none := by
      simp [Happening.isIdle, Happening.event?]
    exact ended.silent silent noted.now
  · exact announces_release active f last ended

/-- What is due is done. -/
theorem Announces.perform {rules : Rules} {all : List Batch} (announces : p.Announces listener)
    {before after : List Due} {due : Due} (listed : p.due = before ++ due :: after)
    (sound : p.roster.Sound rules all) :
    (Pool.perform listener { p with due := before ++ after } due).Announces listener := by
  cases due with
  | cancel => exact Announces.cancel (p := { p with due := before ++ after }) announces
  | finish b plan =>
    have held : 0 < p.ledger.active := by
      refine sound.active_pos_of_running (f := ⟨b, plan⟩) ?_
      show _ ∈ p.flights
      rw [flights_split listed]
      simp [Due.flight?]
    exact Announces.finish (p := { p with due := before ++ after }) announces held ⟨b, plan⟩

theorem Announces.heed (announces : p.Announces listener) (signal : Nat) :
    (p.heed signal).Announces listener := by
  unfold Pool.heed
  split
  · exact (announces.note (by simp [Happening.isIdle, Happening.event?])).cancel
  · exact announces

/-- A launch starts. -/
theorem Announces.start (announces : p.Announces listener) (launch : Launcher) (b : Batch) :
    (Pool.start launch p b).Announces listener := by
  have begun : (p.note (.started b :: (launch p.launched p.now b).opening.map .remarked ++
      (launch p.launched p.now b).attempt.toList.map .attempted)).Announces listener := by
    refine announces.note fun e mem => ?_
    simp only [List.cons_append, List.mem_cons, List.mem_append, List.mem_map] at mem
    rcases mem with rfl | ⟨remark, -, rfl⟩ | ⟨attempt, -, rfl⟩ <;> exact ⟨rfl, rfl⟩
  unfold Pool.start takeOff
  dsimp only
  split <;> exact begun

/-! ## Steps -/

variable {threads : Threads} {rules : Rules} {all : List Batch} {q : Pool}

/-- **A step leaves the receiver told of every result**, whoever makes it. -/
theorem announces_of_step (announces : p.Announces listener) (sound : p.roster.Sound rules all)
    (step : Step threads listener rules.launch p q) : q.Announces listener := by
  have noted {q : Pool} (before : q.Announces listener) (e : Happening)
      (silent : e.isIdle = true ∧ e.event? = none) : (q.note [e]).Announces listener :=
    before.note fun e' mem => List.mem_singleton.mp mem ▸ silent
  cases step with
  | perform before due after listed => exact announces.perform listed sound
  | start before b after =>
    exact Announces.start (p := { p with taken := before ++ after }) announces _ b
  | heed signal rest => exact Announces.heed (p := { p with signals := rest }) announces signal
  | takeUp | doze | expire => exact announces
  | close | ask => exact noted announces .requested ⟨rfl, rfl⟩
  | fetch item =>
    exact noted (noted announces .requested ⟨rfl, rfl⟩) (.received item.batch) ⟨rfl, rfl⟩
  | accept b left =>
    show History.Announces listener (p.book _).history _ _ _
    rw [book, history_note]
    exact History.Announces.admitted announces p.now b _
  | refuse b => exact noted announces (.refused b) ⟨rfl, rfl⟩
  | submit b => exact noted announces (.submitted b) ⟨rfl, rfl⟩
  | arrive time item =>
    exact noted (q := { p with now := max p.now time }) announces (.received item.batch) ⟨rfl, rfl⟩

variable {feed : Feed} {interruption : Interruption}

theorem announces_initial : (initial rules.ledger interruption).Announces listener := by
  have fresh : Announces listener { ledger := rules.ledger } := History.announces_nil listener
  unfold initial
  dsimp only
  split
  · exact fresh.cancel
  · exact fresh

/-- **In every state the receiver has been told of every result.** -/
theorem announces_of_passes (allow : rules.Allow listener)
    (turns : threads.overtakes = true → rules.overtakes)
    (may : interruption = {} ∨ rules.cancels)
    (passes : Passes threads listener rules.launch feed (initial rules.ledger interruption) p) :
    p.Announces listener := by
  refine passes.invariant (Announces listener) ?_ fun passed announces step =>
    announces_of_step announces (sound_of_passes allow turns may passed) step
  show (initial rules.ledger interruption).Announces listener
  exact announces_initial

end BatchExec.Pool
