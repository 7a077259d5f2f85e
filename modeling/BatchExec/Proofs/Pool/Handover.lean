import BatchExec.Proofs.Pool.Demand

/-!
# Workers that go first

If workers always go before the controller, each launch starts as soon as its batch has got a slot:
the controller does nothing in between, and nobody cancels the run.

* `Threads.WorkersFirst`: workers always go before the controller.
* `Threads.workersFirst_of_choice`: they do if nothing is said.
* `Pool.Unhurried`: a batch that has a slot is on its way to a worker, and nothing comes in between.
* `Pool.unhurried_of_next?`: **every step keeps to that.**
* `Pool.unhurried_of_passes`: so it is in every state.
-/

namespace BatchExec

/-- Workers always go before the controller, and both before time passes: what happens next is
something that a worker does, or no worker can do anything and the controller goes on if it can. -/
def Threads.WorkersFirst (threads : Threads) : Prop :=
  ∀ (listener : Listener) (launch : Launcher) (p q : Pool),
    p.next? threads listener launch = some q →
      q ∈ Pool.workers listener launch threads p ∨
        Pool.workers listener launch threads p = [] ∧ ∀ r, p.control = some r → r = q

/-- Workers go first if it is always the first of the things that can happen that does. -/
theorem Threads.workersFirst_of_choice {threads : Threads} (first : ∀ p, threads.choice p = 0) :
    threads.WorkersFirst := by
  intro listener launch p q next
  have head : (p.successors threads listener launch).head? = some q := by
    unfold Pool.next? at next
    dsimp only at next
    rwa [first p, Nat.zero_mod, ← List.head?_eq_getElem?] at next
  unfold Pool.successors Pool.actions at head
  dsimp only at head
  cases works : Pool.workers listener launch threads p with
  | cons q' rest =>
    rw [works] at head
    exact .inl (Option.some.inj head ▸ List.mem_cons_self)
  | nil =>
    refine .inr ⟨rfl, fun r goes => ?_⟩
    rw [works, goes] at head
    exact Option.some.inj head

namespace Pool

variable {threads : Threads} {listener : Listener} {launch : Launcher} {p q : Pool} {b : Batch}

/-- The batch that has got the last slot is on its way to a worker: nothing is due, no signal is
pending, the run is not cancelled, and the controller has not asked for another batch. -/
structure Underway (p : Pool) (b : Batch) : Prop where
  only : p.roster.waiting = [b]
  due : p.due = []
  signals : p.signals = []
  goes : p.ledger.cancelled = false
  asked : p.stage.owed = 0
  latest : p.history.admitted.getLast? = some b

/-- A batch that has a slot is on its way to a worker, and nothing comes in between. -/
def Unhurried (p : Pool) : Prop := p.roster.waiting = [] ∨ ∃ b, p.Underway b

/-- If nothing is due and one batch has been taken up, workers can only start its launch. -/
theorem workers_of_taken (none : p.due = []) (taken : p.taken = [b]) (queue : p.queue = []) :
    workers listener launch threads p = [start launch { p with taken := [] } b] := by
  have due : picks p.due = [] := by rw [none]; rfl
  have others : picks p.taken = [(b, [])] := by rw [taken]; rfl
  have takes : p.takeUp = .none := by
    unfold takeUp
    rw [queue]
  unfold workers startable
  rw [due, others, takes]
  split <;> rfl

/-- If nothing is due and no batch has been taken up, workers can only take up the one that was
handed over first. -/
theorem workers_of_queue {rest : List Batch} (none : p.due = []) (free : p.taken = [])
    (queue : p.queue = b :: rest) : workers listener launch threads p =
      [{ p with queue := rest, taken := p.taken ++ [b] }] := by
  have due : picks p.due = [] := by rw [none]; rfl
  have others : picks p.taken = [] := by rw [free]; rfl
  have takes : p.takeUp = some { p with queue := rest, taken := p.taken ++ [b] } := by
    unfold takeUp
    split
    · rename_i empty
      exact absurd (empty.symm.trans queue) (List.cons_ne_nil _ _).symm
    · rename_i b' rest' listed
      obtain ⟨rfl, rfl⟩ := List.cons.inj (listed.symm.trans queue)
      rfl
  unfold workers startable
  rw [due, others, takes]
  split <;> rfl

theorem workers_of_idle (idle : p.Idle) : workers listener launch threads p = [] := by
  have due : picks p.due = [] := by rw [idle.due]; rfl
  have taken : picks p.taken = [] := by rw [idle.taken]; rfl
  have queue : p.takeUp = none := by
    unfold takeUp
    rw [idle.queue]
  unfold workers startable
  rw [due, taken, queue]
  split <;> rfl

/-- Workers do not do what the controller is doing. -/
theorem stage_of_workers (works : q ∈ workers listener launch threads p) : q.stage = p.stage := by
  simp only [workers, List.mem_append, List.mem_map, Prod.exists] at works
  rcases works with (⟨due, rest, -, rfl⟩ | ⟨b, rest, -, rfl⟩) | taken
  · obtain ⟨ledger, past, same⟩ := perform_same listener { p with due := rest } due
    rw [same]
  · exact stage_start launch _ b
  · unfold takeUp at taken
    split at taken
    · contradiction
    · rw [List.mem_singleton.mp taken]

theorem waiting_start (launch : Launcher) (p : Pool) (b : Batch) :
    (start launch p b).roster.waiting = p.roster.waiting := by
  unfold start takeOff
  dsimp only
  split <;> rfl

/-- A batch goes its way to a worker, and its launch starts there. -/
theorem Underway.next (first : threads.WorkersFirst)
    (next : next? threads listener launch p = some q) (way : p.Underway b) : q.Unhurried := by
  have only : p.taken ++ (p.queue ++ p.stage.waiting) = [b] := by
    rw [← List.append_assoc]
    exact way.only
  rcases first _ _ p q next with works | ⟨rested, goes⟩
  · cases taken : p.taken with
    | cons b' rest =>
      rw [taken] at only
      obtain ⟨-, none⟩ := List.cons.inj only
      obtain ⟨rfl, others⟩ := List.append_eq_nil_iff.mp none
      rw [workers_of_taken way.due taken (List.append_eq_nil_iff.mp others).1,
        List.mem_singleton] at works
      subst works
      exact .inl ((waiting_start launch _ b').trans ((List.append_assoc ..).trans none))
    | nil =>
      cases queue : p.queue with
      | nil =>
        rw [workers_of_idle ⟨way.due, taken, queue⟩] at works
        exact absurd works List.not_mem_nil
      | cons b' rest =>
        rw [workers_of_queue way.due taken queue, List.mem_singleton] at works
        subst works
        exact .inr ⟨b, { way with only := (roster_takeUp queue) ▸ way.only }⟩
  · have idle := idle_of_workers rested
    rw [idle.taken, idle.queue] at only
    cases stage : p.stage with
    | submitting b' left =>
      have handed := goes { p.note [.submitted b'] with
        queue := p.queue ++ [b'], stage := .asking left } (by
        rw [control, way.signals, Pool.proceed, stage])
      subst handed
      rw [stage] at only
      refine .inr ⟨b, { way with only := ?_, asked := rfl, latest := ?_ }⟩
      · show p.taken ++ (p.queue ++ [b']) ++ [] = [b]
        rw [idle.taken, idle.queue]
        exact only
      · show (History.admitted (p.note [.submitted b']).history).getLast? = some b
        rw [history_note, History.admitted_append]
        exact (congrArg List.getLast? (List.append_nil _)).trans way.latest
    | _ =>
      rw [stage] at only
      exact absurd only (List.cons_ne_nil _ _).symm

/-- **Every step keeps to that.** -/
theorem unhurried_of_next? (first : threads.WorkersFirst)
    (next : next? threads listener launch p = some q) (unhurried : p.Unhurried) : q.Unhurried := by
  rcases unhurried with free | ⟨b, way⟩
  · obtain ⟨both, waiting⟩ := List.append_eq_nil_iff.mp free
    obtain ⟨taken, queue⟩ := List.append_eq_nil_iff.mp both
    have stays {stage : Stage} (none : stage.waiting = []) :
        p.taken ++ p.queue ++ stage.waiting = [] := by rw [taken, queue, none]; rfl
    cases step_of_next? next with
    | perform before due after =>
      obtain ⟨ledger, past, same⟩ := perform_same listener { p with due := before ++ after } due
      exact .inl (same ▸ free)
    | start before b after waits =>
      rw [taken] at waits
      exact absurd waits (by simp)
    | takeUp b rest listed => exact absurd (queue.symm.trans listed) (List.cons_ne_nil _ _).symm
    | heed signal rest =>
      obtain ⟨ledger, past, same⟩ := heed_same { p with signals := rest } signal
      exact .inl (same ▸ free)
    | close | ask | fetch | refuse | arrive => exact .inl (stays rfl)
    | doze | expire => exact .inl free
    | submit b left stage => rw [stage] at waiting; contradiction
    | accept b left stage awake handled goes =>
      -- the controller goes on only because workers have nothing to do
      rcases first _ _ p _ next with works | ⟨rested, -⟩
      · have same := stage_of_workers works
        rw [stage] at same
        contradiction
      · have idle := idle_of_workers rested
        refine .inr ⟨b, ?_, idle.due, handled, goes, rfl, ?_⟩
        · show p.taken ++ p.queue ++ [b] = [b]
          rw [taken, queue]
          rfl
        · show (History.admitted (p.book _).history).getLast? = some b
          rw [book, history_note, History.admitted_append]
          exact List.getLast?_concat
  · exact way.next first next

variable {feed : Feed} {interruption : Interruption} {ledger : Ledger}

/-- **In every state a batch that has a slot is on its way to a worker, and nothing comes in
between.** -/
theorem unhurried_of_passes (first : threads.WorkersFirst)
    (passes : Passes threads listener launch feed (initial ledger interruption) p) :
    p.Unhurried := by
  unfold Passes at passes
  induction passes with
  | refl =>
    left
    unfold initial
    dsimp only
    split <;> rfl
  | tail _ next ih => exact unhurried_of_next? first next ih

/-- **A launch starts when the run goes on and the controller has asked for no other batch.** -/
theorem underway_of_taken (first : threads.WorkersFirst)
    (passes : Passes threads listener launch feed (initial ledger interruption) p)
    (taken : b ∈ p.taken) : p.Underway b := by
  have waits : b ∈ p.roster.waiting := List.mem_append_left _ (List.mem_append_left _ taken)
  rcases unhurried_of_passes first passes with free | ⟨b', way⟩
  · rw [free] at waits
    exact absurd waits List.not_mem_nil
  · rw [way.only] at waits
    exact List.mem_singleton.mp waits ▸ way

end Pool

end BatchExec
