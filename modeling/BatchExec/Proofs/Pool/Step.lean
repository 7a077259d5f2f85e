import BatchExec.Proofs.Chain
import BatchExec.Proofs.Summary
import BatchExec.Schedule.Pool

/-!
# Steps of a blocking run

What can happen in a blocking run, one thing at a time, whichever thread goes on.

* `Pool.Step`: what can happen next in a state.
* `Pool.step_of_next?`: **what happens next is a step.**
* `Pool.Idle`, `Pool.Still`: workers have nothing to do; nobody can go on before time passes.
* `Pool.work_lt_of_step`: every step lessens the work.
* `Pool.run_passes`: **a whole run passes through its states to one after which nothing can
  happen.**
-/

namespace BatchExec

theorem mem_picks {α : Type} {x : α} {others l : List α} :
    (x, others) ∈ picks l ↔
      ∃ before after, l = before ++ x :: after ∧ others = before ++ after := by
  induction l generalizing others with
  | nil => simp [picks]
  | cons y rest ih =>
    simp only [picks, List.mem_cons, Prod.mk.injEq, List.mem_map, Prod.exists]
    constructor
    · rintro (⟨rfl, rfl⟩ | ⟨z, left, mem, rfl, rfl⟩)
      · exact ⟨[], others, rfl, rfl⟩
      · obtain ⟨before, after, rfl, rfl⟩ := ih.mp mem
        exact ⟨y :: before, after, rfl, rfl⟩
    · rintro ⟨before, after, split, rfl⟩
      cases before with
      | nil =>
        obtain ⟨rfl, rfl⟩ := List.cons.inj split
        exact .inl ⟨rfl, rfl⟩
      | cons z before =>
        obtain ⟨rfl, rfl⟩ := List.cons.inj split
        exact .inr ⟨x, _, ih.mpr ⟨before, after, rfl, rfl⟩, rfl, rfl⟩

theorem picks_eq_nil {α : Type} {l : List α} (none : picks l = []) : l = [] := by
  cases l with
  | nil => rfl
  | cons x rest => exact absurd none (List.cons_ne_nil _ _)

namespace Pool

variable {threads : Threads} {listener : Listener} {launch : Launcher} {p q : Pool}

/-- Workers have nothing to do. -/
structure Idle (p : Pool) : Prop where
  due : p.due = []
  taken : p.taken = []
  queue : p.queue = []

/-- Nobody can go on before time passes: workers have nothing to do, no signal is pending, and the
controller waits. -/
structure Still (p : Pool) : Prop extends Idle p where
  signals : p.signals = []
  waits : p.proceed = none

/-- If nobody can go on, the controller waits for the source, for a slot or for the end. -/
theorem Still.stage (still : p.Still) :
    (∃ time item left, p.stage = .pulling time item left) ∨
      (∃ b left, p.stage = .holding b left ∧ p.ledger.asleep = true) ∨
      ∃ cut, p.stage = .closing cut := by
  have waits := still.waits
  unfold Pool.proceed at waits
  cases stage : p.stage with
  | asking left => cases left <;> simp [stage] at waits
  | pulling time item left => exact .inl ⟨time, item, left, rfl⟩
  | holding b left => exact .inr (.inl ⟨b, left, rfl, by simpa [stage] using waits⟩)
  | submitting b left => simp [stage] at waits
  | closing cut => exact .inr (.inr ⟨cut, rfl⟩)

/-- What can happen next in a state. -/
inductive Step (threads : Threads) (listener : Listener) (launch : Launcher) (p : Pool) :
    Pool → Prop where
  /-- What is due is done. -/
  | perform (before : List Due) (due : Due) (after : List Due)
      (listed : p.due = before ++ due :: after) :
      Step threads listener launch p (perform listener { p with due := before ++ after } due)
  /-- The launch of a batch starts that has been taken up. -/
  | start (before : List Batch) (b : Batch) (after : List Batch)
      (waits : p.taken = before ++ b :: after) (turn : before = [] ∨ threads.overtakes = true) :
      Step threads listener launch p (start launch { p with taken := before ++ after } b)
  | takeUp (b : Batch) (rest : List Batch) (first : p.queue = b :: rest) :
      Step threads listener launch p { p with queue := rest, taken := p.taken ++ [b] }
  | heed (signal : Nat) (rest : List Nat) (pending : p.signals = signal :: rest) :
      Step threads listener launch p (heed { p with signals := rest } signal)
  /-- The source has no more batches. -/
  | close (stage : p.stage = .asking []) :
      Step threads listener launch p { p.note [.requested] with stage := .closing none }
  /-- The controller asks for a batch and has to wait for it. -/
  | ask (item : FeedItem) (left : List FeedItem) (stage : p.stage = .asking (item :: left))
      (slow : item.delay ≠ 0) :
      Step threads listener launch p
        { p.note [.requested] with stage := .pulling (p.now + item.delay) item left }
  /-- The controller asks for a batch and gets it at once. -/
  | fetch (item : FeedItem) (left : List FeedItem) (stage : p.stage = .asking (item :: left))
      (prompt : item.delay = 0) :
      Step threads listener launch p ((p.note [.requested]).receive item.batch left)
  | accept (b : Batch) (left : List FeedItem) (stage : p.stage = .holding b left)
      (awake : p.ledger.asleep = false) (handled : p.signals = [])
      (goes : p.ledger.cancelled = false) (room : p.ledger.full = false) :
      Step threads listener launch p
        { p.book (p.ledger.take, [.admitted b (p.ledger.active + 1)]) with
          stage := .submitting b left }
  | refuse (b : Batch) (left : List FeedItem) (stage : p.stage = .holding b left)
      (awake : p.ledger.asleep = false) (stopped : p.ledger.cancelled = true) :
      Step threads listener launch p { p.note [.refused b] with stage := .closing (some left) }
  /-- The controller falls asleep. -/
  | doze (b : Batch) (left : List FeedItem) (stage : p.stage = .holding b left)
      (awake : p.ledger.asleep = false) (blocked : p.ledger.blocked = true) :
      Step threads listener launch p { p with ledger := p.ledger.sleep }
  | submit (b : Batch) (left : List FeedItem) (stage : p.stage = .submitting b left)
      (handled : p.signals = []) :
      Step threads listener launch p
        { p.note [.submitted b] with queue := p.queue ++ [b], stage := .asking left }
  /-- Time passes until the next timer goes off. -/
  | expire (t : Timer) (rest : List Timer) (next : p.timers = t :: rest)
      (quiet : threads.lags = true ∨ p.Still ∨ t.time ≤ p.now) :
      Step threads listener launch p (p.expire t rest)
  /-- Time passes until the source comes up with a batch. -/
  | arrive (time : Nat) (item : FeedItem) (left : List FeedItem)
      (stage : p.stage = .pulling time item left) :
      Step threads listener launch p
        (receive { p with now := max p.now time } item.batch left)

/-! ## Steps -/

theorem step_of_workers (mem : q ∈ workers listener launch threads p) :
    Step threads listener launch p q := by
  simp only [workers, List.mem_append, List.mem_map, Prod.exists] at mem
  rcases mem with (⟨due, others, picked, rfl⟩ | ⟨b, others, picked, rfl⟩) | taken
  · obtain ⟨before, after, split, rfl⟩ := mem_picks.mp picked
    exact .perform before due after split
  · unfold startable at picked
    split at picked
    · rename_i free
      obtain ⟨before, after, split, rfl⟩ := mem_picks.mp picked
      exact .start before b after split (.inr free)
    · cases taken : p.taken with
      | nil => simp [taken, picks] at picked
      | cons first rest =>
        simp only [taken, picks, List.take_succ_cons, List.take_zero, List.mem_singleton,
          Prod.mk.injEq] at picked
        obtain ⟨rfl, rfl⟩ := picked
        exact .start [] b others taken (.inl rfl)
  · unfold takeUp at taken
    split at taken
    · contradiction
    · rename_i b rest queue
      obtain rfl := List.mem_singleton.mp taken
      exact .takeUp b rest queue

theorem step_of_request {b : Batch} {left : List FeedItem} (stage : p.stage = .holding b left)
    (awake : p.ledger.asleep = false) (handled : p.signals = []) :
    Step threads listener launch p (p.request b left) := by
  unfold request Ledger.request
  cases stopped : p.ledger.cancelled with
  | true => exact .refuse b left stage awake stopped
  | false =>
    cases full : p.ledger.full with
    | true => exact .doze b left stage awake (by simp [Ledger.blocked, stopped, full])
    | false => exact .accept b left stage awake handled stopped full

theorem step_of_control (goes : p.control = some q) : Step threads listener launch p q := by
  unfold control at goes
  split at goes
  · rename_i signal rest pending
    cases goes
    exact .heed signal rest pending
  · rename_i handled
    unfold proceed at goes
    split at goes
    · rename_i stage
      cases goes
      exact .close stage
    · rename_i item left stage
      obtain rfl := Option.some.inj goes
      split
      · rename_i prompt
        exact .fetch item left stage prompt
      · rename_i slow
        exact .ask item left stage slow
    · rename_i b left stage
      split at goes
      · contradiction
      · rename_i awake
        cases goes
        exact step_of_request stage (eq_false_of_ne_true awake) handled
    · rename_i b left stage
      cases goes
      exact .submit b left stage handled
    all_goals contradiction

theorem idle_of_workers (none : workers listener launch threads p = []) : p.Idle := by
  obtain ⟨others, queue⟩ := List.append_eq_nil_iff.mp none
  obtain ⟨due, taken⟩ := List.append_eq_nil_iff.mp others
  refine ⟨picks_eq_nil (List.map_eq_nil_iff.mp due), ?_, ?_⟩
  · have none := List.map_eq_nil_iff.mp taken
    unfold startable at none
    split at none
    · exact picks_eq_nil none
    · cases taken : p.taken with
      | nil => rfl
      | cons first rest => simp [taken, picks] at none
  · unfold takeUp at queue
    split at queue
    · assumption
    · contradiction

theorem still_of_actions (none : actions threads listener launch p = []) : p.Still := by
  obtain ⟨workers, control⟩ := List.append_eq_nil_iff.mp none
  have signals : p.signals = [] := by
    unfold Pool.control at control
    split at control
    · contradiction
    · assumption
  refine ⟨idle_of_workers workers, signals, ?_⟩
  unfold Pool.control at control
  rw [signals] at control
  simpa using control

theorem step_of_elapse (passes : p.elapse = some q)
    (quiet : threads.lags = true ∨ p.Still ∨ q.now = p.now) :
    Step threads listener launch p q := by
  have expires {t : Timer} {rest : List Timer} (next : p.timers = t :: rest)
      (goes : q = p.expire t rest) : Step threads listener launch p q := by
    subst goes
    exact .expire t rest next (quiet.imp_right (.imp_right fun same =>
      Nat.le_trans (Nat.le_max_right p.now t.time) (Nat.le_of_eq same)))
  unfold elapse at passes
  split at passes
  · rename_i time item left _ stage
    cases passes
    exact .arrive time item left stage
  · rename_i t rest time item left next stage
    obtain rfl := Option.some.inj passes
    split
    · rename_i due
      rw [if_pos due] at expires
      exact expires next rfl
    · exact .arrive time item left stage
  · rename_i t rest cut next stage
    split at passes
    · exact expires next (Option.some.inj passes).symm
    · contradiction
  · rename_i t rest next _ _
    exact expires next (Option.some.inj passes).symm
  · contradiction

theorem step_of_successor (mem : q ∈ successors threads listener launch p) :
    Step threads listener launch p q := by
  unfold successors at mem
  rcases List.mem_append.mp mem with acts | passes
  · rcases List.mem_append.mp acts with works | goes
    · exact step_of_workers works
    · exact step_of_control (Option.mem_toList.mp goes)
  · obtain ⟨elapses, quiet⟩ := Option.filter_eq_some_iff.mp (Option.mem_toList.mp passes)
    simp only [Bool.or_eq_true, List.isEmpty_iff, beq_iff_eq] at quiet
    refine step_of_elapse elapses ?_
    rcases quiet with (lags | none) | same
    · exact .inl lags
    · exact .inr (.inl (still_of_actions none))
    · exact .inr (.inr same)

/-- **What happens next is a step.** -/
theorem step_of_next? (next : next? threads listener launch p = some q) :
    Step threads listener launch p q :=
  step_of_successor (List.mem_of_getElem? next)

/-- When nothing can happen next, nobody can go on, and nobody waits for time to pass. -/
theorem still_of_halted (halted : next? threads listener launch p = none) :
    p.Still ∧ p.elapse = none := by
  have none : successors threads listener launch p = [] := by
    unfold next? at halted
    dsimp only at halted
    by_contra some
    have := List.getElem?_eq_none_iff.mp halted
    have := Nat.mod_lt (threads.choice p) (List.length_pos_iff.mpr some)
    omega
  obtain ⟨acts, passes⟩ := List.append_eq_nil_iff.mp none
  refine ⟨still_of_actions acts, ?_⟩
  rw [acts] at passes
  cases elapses : p.elapse with
  | none => rfl
  | some q => simp [elapses] at passes

/-! ## Runs end -/

/-- What is due concerns only the books. -/
theorem perform_same (listener : Listener) (p : Pool) (due : Due) :
    ∃ ledger past, perform listener p due = { p with ledger, past } := by
  cases due with
  | cancel => exact ⟨_, _, rfl⟩
  | finish b plan =>
    unfold perform finish
    dsimp only
    split <;> exact ⟨_, _, rfl⟩

/-- So does a signal. -/
theorem heed_same (p : Pool) (signal : Nat) :
    ∃ ledger past, p.heed signal = { p with ledger, past } := by
  unfold heed
  split
  · exact ⟨_, _, rfl⟩
  · exact ⟨p.ledger, p.past, rfl⟩

theorem stage_start (launch : Launcher) (p : Pool) (b : Batch) :
    (start launch p b).stage = p.stage := by
  unfold start takeOff
  dsimp only
  split <;> rfl

/-- The books make the controller wake up at most. -/
theorem work_books_le (p : Pool) (ledger : Ledger) (past : List Entry) :
    work { p with ledger, past } ≤ p.work + 1 := by
  have one := Bool.toNat_le (!ledger.asleep)
  simp only [work]
  omega

theorem length_insert (t : Timer) (timers : List Timer) :
    (Timer.insert t timers).length = timers.length + 1 := by
  induction timers with
  | nil => rfl
  | cons next rest ih =>
    unfold Timer.insert
    split
    · rw [List.length_cons, ih, List.length_cons]
    · rfl

theorem length_signals_le (plan : Plan) : plan.signals.length ≤ 2 := by
  unfold Plan.signals
  cases plan.signal <;> cases plan.otherSignal? <;> simp

theorem work_start_lt (launch : Launcher) (p : Pool) (b : Batch) :
    (start launch p b).work < p.work + 8 := by
  have few := length_signals_le (launch p.launched p.now b)
  unfold start takeOff began
  dsimp only
  split <;>
  · simp only [work, note, List.length_append, List.length_cons, length_insert]
    omega

/-- **Every step lessens the work.** -/
theorem work_lt_of_step (step : Step threads listener launch p q) : q.work < p.work := by
  cases step with
  | perform before due after listed =>
    obtain ⟨ledger, past, same⟩ := perform_same listener { p with due := before ++ after } due
    have le := work_books_le { p with due := before ++ after } ledger past
    rw [same]
    simp only [work, listed, List.length_append, List.length_cons] at le ⊢
    omega
  | start before b after waits turn =>
    have lt := work_start_lt launch { p with taken := before ++ after } b
    simp only [work, waits, List.length_append, List.length_cons] at lt ⊢
    omega
  | takeUp b rest first =>
    simp only [work, first, List.length_append, List.length_cons, List.length_nil]
    omega
  | heed signal rest pending =>
    obtain ⟨ledger, past, same⟩ := heed_same { p with signals := rest } signal
    have le := work_books_le { p with signals := rest } ledger past
    rw [same]
    simp only [work, pending, List.length_cons] at le ⊢
    omega
  | close stage | ask item left stage | fetch item left stage | refuse b left stage =>
    simp only [work, receive, note, stage, Stage.work, List.length_cons]
    omega
  | accept b left stage awake =>
    simp only [work, book, note, Ledger.take, stage, awake, Stage.work]
    omega
  | doze b left stage awake =>
    simp only [work, Ledger.sleep, awake]
    simp
  | submit b left stage =>
    simp only [work, note, stage, Stage.work, List.length_append, List.length_cons,
      List.length_nil]
    omega
  | expire t rest next =>
    simp only [work, expire, next, List.length_append, List.length_cons, List.length_nil]
    omega
  | arrive time item left stage =>
    simp only [work, receive, note, stage, Stage.work]
    omega

theorem settle_of_halted (steps : Nat) (halted : next? threads listener launch p = none) :
    settle threads listener launch steps p = p := by
  cases steps <;> simp [settle, halted]

/-- A run that goes on for as many steps as it has work is over. -/
theorem halted_settle (steps : Nat) (p : Pool) (enough : p.work ≤ steps) :
    next? threads listener launch (settle threads listener launch steps p) = none := by
  induction steps generalizing p with
  | zero =>
    cases next : next? threads listener launch p with
    | none => exact next
    | some q => have := work_lt_of_step (step_of_next? next); omega
  | succ steps ih =>
    cases next : next? threads listener launch p with
    | none => rw [settle_of_halted _ next, next]
    | some q =>
      have less := work_lt_of_step (step_of_next? next)
      simp only [settle, next]
      exact ih q (by omega)

/-! ## Whole runs -/

/-- One state of a run comes before another, or it is the same. -/
abbrev Before (threads : Threads) (listener : Listener) (launch : Launcher) : Pool → Pool → Prop :=
  Chain (next? threads listener launch)

/-- A run with a feed, from some state on, passes through a state. -/
def Passes (threads : Threads) (listener : Listener) (launch : Launcher) (feed : Feed)
    (p q : Pool) : Prop :=
  Before threads listener launch { p with stage := .asking feed.items } q

theorem before_settle (steps : Nat) (p : Pool) :
    Before threads listener launch p (settle threads listener launch steps p) := by
  induction steps generalizing p with
  | zero => exact .refl
  | succ steps ih =>
    unfold settle
    split
    · rename_i q next
      exact .head next (ih q)
    · exact .refl

/-- **A whole run passes through its states to one after which nothing can happen.** -/
theorem run_passes (threads : Threads) (listener : Listener) (launch : Launcher) (feed : Feed)
    (p : Pool) :
    Passes threads listener launch feed p (run threads listener launch feed p).pool ∧
      next? threads listener launch (run threads listener launch feed p).pool = none ∧
      (run threads listener launch feed p).result =
        feed.verdict (run threads listener launch feed p).pool.stage.refused
          (run threads listener launch feed p).pool.ledger.fault
          (run threads listener launch feed p).pool.ledger.completed
          (run threads listener launch feed p).pool.now
          (run threads listener launch feed p).pool.ledger.peak :=
  ⟨before_settle _ _, halted_settle _ _ (Nat.le_refl _), rfl⟩

/-- What holds of the state before a run and is kept by every step holds in every state of the run.
-/
theorem Passes.invariant {feed : Feed} (P : Pool → Prop)
    (first : P { p with stage := .asking feed.items })
    (kept : ∀ {a b}, Passes threads listener launch feed p a → P a →
      Step threads listener launch a b → P b)
    (passes : Passes threads listener launch feed p q) : P q := by
  unfold Passes at passes
  induction passes with
  | refl => exact first
  | tail passed next ih => exact kept passed ih (step_of_next? next)

end Pool

end BatchExec
