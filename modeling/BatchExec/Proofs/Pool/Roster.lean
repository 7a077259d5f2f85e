import BatchExec.Proofs.Pool.Step
import BatchExec.Proofs.Roster
import Mathlib.Tactic.Set

/-!
# The roster of a blocking run

Each step of a blocking run, whichever thread makes it, is a chain of moves of its roster.

* `Pool.roster`: where the batches are in a state.
* `Pool.moves_of_step`: **a step is a chain of moves.**
-/

namespace BatchExec

/-! ## Ledgers -/

/-- Whether something is news of a result or of a fault. -/
def Happening.isNews : Happening → Bool
  | .recorded _ | .stopping _ | .faulted _ | .delivered _ | .cancelled => true
  | _ => false

namespace Ledger

/-- The ledger after the end of a launch, before the receiver is told. -/
def settle (l : Ledger) (f : Flight) : Ledger :=
  { l with
    active := l.active - 1
    completed := l.completed ++ f.result?.toList
    fault := l.fault.or f.flaw?
    cancelled := l.cancelled || f.flaw?.isSome || l.stopOnError && f.fails
    asleep := false }

/-- What is noted of a result before the receiver is told. -/
def stopping (l : Ledger) (r : Result) : List Happening :=
  .recorded r :: if l.stopOnError && !r.success && !l.cancelled then [.stopping r] else []

theorem release_eq (l : Ledger) (held : 0 < l.active) (listener : Listener) (f : Flight) :
    l.release listener f.batch f.plan.ending =
      match f.result? with
      | some r =>
        (((l.settle f).tell listener r).1, l.stopping r ++ ((l.settle f).tell listener r).2)
      | none => (l.settle f, f.flaw?.toList.map .faulted) := by
  have free : ¬ l.active ≤ 0 := by omega
  cases f.ends with
  | raised failure ending none flaw =>
    rw [none]
    cases broken : l.fault <;> simp [release, ending, fail, settle, none, flaw, broken]
  | invalid fine none flaw =>
    have unreported : f.plan.ending.resultFor? f.batch = Option.none := none
    rw [none]
    unfold release
    split
    · rename_i failure raised
      exact absurd raised (fine failure)
    · cases broken : l.fault <;> simp [free, unreported, fail, settle, none, flaw, broken]
  | delivered r ending own brings flaw =>
    have reported : (Ending.returned r).resultFor? f.batch = some r := ending ▸ brings
    have same : l.settle f =
        { l with
          active := l.active - 1
          completed := l.completed ++ [r]
          cancelled := l.cancelled || (l.stopOnError && !r.success && !l.cancelled)
          asleep := false } := by
      simp only [settle, brings, flaw, Flight.fails, Option.toList_some, Option.or_none,
        Option.isSome_none, Bool.or_false, Option.any_some]
      cases l.cancelled <;> simp
    rw [brings, same, ending]
    simp only [release, if_neg free, reported]
    rfl

/-- Who is told of a result may cancel the run or break it. -/
theorem news_tell (l : Ledger) (listener : Listener) (r : Result) :
    ∀ e ∈ (l.tell listener r).2, e.isNews = true := by
  unfold tell
  split
  · exact fun e mem => absurd mem List.not_mem_nil
  · dsimp only
    split <;> split <;> simp [fail, Happening.isNews]

/-- When a slot comes back there is news of what it held, and no more. -/
theorem news_release (l : Ledger) (listener : Listener) (b : Batch) (ending : Ending) :
    ∀ e ∈ (l.release listener b ending).2, e.isNews = true := by
  have faulty (l : Ledger) (f : Fault) : ∀ e ∈ (l.fail f).2, e.isNews = true := by
    simp [fail, Happening.isNews]
  unfold release
  split
  · exact faulty _ _
  · split
    · exact faulty _ _
    · dsimp only
      split
      · rename_i r _
        unfold record
        dsimp only
        intro e mem
        simp only [List.cons_append, List.mem_cons, List.mem_append] at mem
        rcases mem with rfl | stopping | told
        · rfl
        · split at stopping
          · rw [List.mem_singleton.mp stopping]
            rfl
          · exact absurd stopping List.not_mem_nil
        · exact news_tell _ listener r e told
      · exact faulty _ _

end Ledger

namespace Roster

variable {rules : Rules} {listener : Listener}

/-- The roster with the counters and results of a ledger. -/
def withLedger (r : Roster) (l : Ledger) : Roster :=
  { r with
    active := l.active
    peak := l.peak
    completed := l.completed
    cancelled := l.cancelled
    fault := l.fault }

theorem moves_note (r : Roster) {happenings : List Happening}
    (quiet : ∀ e ∈ happenings, e.isQuiet = true) : Moves rules r (r.note happenings) :=
  .single (.note r happenings quiet)

/-- Somebody cancels the run. -/
theorem moves_cancel (r : Roster) (may : rules.cancels) :
    Moves rules r (r.cancel.note [.cancelled]) :=
  (Relation.ReflTransGen.single (.cancel r may)).trans
    (moves_note _ (by simp [Happening.isQuiet]))

/-- A fault comes to light. -/
theorem moves_fail (r : Roster) (f : Fault) (may : rules.breaks) :
    Moves rules r ((r.fail f).note [.faulted f]) :=
  (Relation.ReflTransGen.single (.fail r f may)).trans
    (moves_note _ (by simp [Happening.isQuiet]))

/-- The receiver is told of a result; it may cancel or break the run. -/
theorem moves_tell (allow : rules.Allow listener) (r : Roster) (l : Ledger) (x : Result) :
    Moves rules (r.withLedger l)
      ((r.withLedger (l.tell listener x).1).note (l.tell listener x).2) := by
  cases heard : listener with
  | none => exact .single (.note _ [] (by simp))
  | some react =>
    set e : Event := ⟨x, l.completed.length, l.active⟩ with he
    have delivered : Moves rules (r.withLedger l) ((r.withLedger l).note [.delivered e]) :=
      moves_note _ (by simp [Happening.isQuiet])
    have breaks (failure : Failure) (raised : (react e).raises = some failure) : rules.breaks :=
      allow.raises react heard e (by simp [raised])
    by_cases cancels : (react e).cancels = true
    · have cancelled := delivered.trans
        (moves_cancel _ (allow.reacts react heard e cancels))
      cases raised : (react e).raises with
      | none =>
        simp only [Ledger.tell, ← he, cancels, raised, if_true]
        exact cancelled
      | some failure =>
        simp only [Ledger.tell, ← he, cancels, raised, if_true]
        exact cancelled.trans (moves_fail _ _ (breaks failure raised))
    · cases raised : (react e).raises with
      | none =>
        simp only [Ledger.tell, ← he, cancels, raised, Bool.false_eq_true, if_false]
        exact delivered
      | some failure =>
        simp only [Ledger.tell, ← he, cancels, raised, Bool.false_eq_true, if_false]
        exact delivered.trans (moves_fail _ _ (breaks failure raised))

end Roster

/-! ## States -/

/-- The flight that ends when something is due, if it is one. -/
def Due.flight? : Due → Option Flight
  | .finish b plan => some ⟨b, plan⟩
  | .cancel => none

/-- The flight that a timer ends, if it is one of a launch. -/
def Timer.flight? (t : Timer) : Option Flight := t.due.flight?

theorem Timer.insert_perm (t : Timer) (timers : List Timer) :
    (Timer.insert t timers).Perm (t :: timers) := by
  induction timers with
  | nil => exact .refl _
  | cons next rest ih =>
    unfold insert
    split
    · exact (ih.cons next).trans (.swap ..)
    · exact .refl _

namespace Pool

/-- The launches that are running. -/
def flights (p : Pool) : Multiset Flight :=
  (p.due.filterMap Due.flight? ++ p.timers.filterMap Timer.flight? : List Flight)

namespace Stage

/-- What the source has not handed over. -/
def left : Stage → List FeedItem
  | .asking left | .holding _ left | .submitting _ left => left
  | .pulling _ item left => item :: left
  | .closing cut => cut.getD []

/-- The batch that waits for a slot. -/
def held : Stage → Option Batch
  | .holding b _ => some b
  | _ => none

/-- The batch that has a slot but has not been handed over. -/
def waiting : Stage → List Batch
  | .submitting b _ => [b]
  | _ => []

end Stage

/-- Where the batches of a blocking run are when the controller is at some stage. -/
def rosterAt (p : Pool) (stage : Stage) : Roster where
  now := p.now
  left := stage.left.map FeedItem.batch
  held := stage.held
  refused := stage.refused
  waiting := p.taken ++ p.queue ++ stage.waiting
  running := p.flights
  started := p.launched
  active := p.ledger.active
  peak := p.ledger.peak
  completed := p.ledger.completed
  cancelled := p.ledger.cancelled
  fault := p.ledger.fault
  past := p.past

/-- Where the batches are in a state of a blocking run. -/
def roster (p : Pool) : Roster := p.rosterAt p.stage

/-- A state of a blocking run keeps to the rules. -/
structure Fits (rules : Rules) (p : Pool) : Prop where
  bound : p.ledger.bound = rules.bound
  stopOnError : p.ledger.stopOnError = rules.stopOnError
  punctual : rules.launch.Reaps → ∀ t ∈ p.timers, ∀ f ∈ t.flight?, f.plan.SettledBy t.time
  settled : rules.launch.Reaps → ∀ d ∈ p.due, ∀ f ∈ d.flight?, f.plan.SettledBy p.now
  timed : ∀ t ∈ p.timers, t.flight? = none → rules.cancels
  called : ∀ d ∈ p.due, d.flight? = none → rules.cancels
  signalled : p.signals ≠ [] → rules.cancels

variable {threads : Threads} {rules : Rules} {listener : Listener}

/-- The receiver is told of the result of a launch that has ended. -/
theorem moves_release (allow : rules.Allow listener) (p : Pool) (f : Flight)
    (held : 0 < p.ledger.active) :
    Roster.Moves rules (p.roster.withLedger (p.ledger.settle f))
      (p.book (p.ledger.release listener f.batch f.plan.ending)).roster := by
  rw [Ledger.release_eq p.ledger held listener f]
  cases f.result? with
  | none =>
    refine Roster.moves_note _ ?_
    intro e mem
    obtain ⟨fault, -, rfl⟩ := List.mem_map.mp mem
    rfl
  | some x =>
    have stopped : Roster.Moves rules (p.roster.withLedger (p.ledger.settle f))
        ((p.roster.withLedger (p.ledger.settle f)).note (p.ledger.stopping x)) :=
      Roster.moves_note _ (quiet_recorded x _)
    have told := Roster.moves_tell allow
      (p.roster.note (p.ledger.stopping x)) (p.ledger.settle f) x
    have same : (p.book (((p.ledger.settle f).tell listener x).1,
        p.ledger.stopping x ++ ((p.ledger.settle f).tell listener x).2)).roster =
        ((p.roster.withLedger ((p.ledger.settle f).tell listener x).1).note
          (p.ledger.stopping x)).note ((p.ledger.settle f).tell listener x).2 := by
      rw [← Roster.note_append]
      rfl
    simp only [same]
    exact stopped.trans told

theorem Fits.release {p : Pool} (fits : p.Fits rules) (f : Flight) (held : 0 < p.ledger.active) :
    (p.book (p.ledger.release listener f.batch f.plan.ending)).Fits rules := by
  have told (l : Ledger) (x : Result) : (l.tell listener x).1.bound = l.bound ∧
      (l.tell listener x).1.stopOnError = l.stopOnError := by
    unfold Ledger.tell
    split
    · exact ⟨rfl, rfl⟩
    · dsimp only
      split <;> split <;> exact ⟨rfl, rfl⟩
  rw [Ledger.release_eq p.ledger held listener f]
  cases f.result? with
  | none => exact { fits with }
  | some x =>
    have kept := told (p.ledger.settle f) x
    exact { fits with bound := kept.1.trans fits.bound
                      stopOnError := kept.2.trans fits.stopOnError }

/-- **The end of a launch**, which counts as running until then. -/
theorem moves_finish (allow : rules.Allow listener) (p : Pool) (f : Flight)
    (fits : p.Fits rules) (held : 0 < p.ledger.active)
    (settled : rules.launch.Reaps → f.plan.SettledBy p.now)
    (cancels : f.plan.cancels = true → rules.cancels) :
    Roster.Moves rules { p.roster with running := f ::ₘ p.flights }
        (finish listener p f.batch f.plan).roster ∧
      (finish listener p f.batch f.plan).Fits rules := by
  set r : Roster := { p.roster with running := f ::ₘ p.flights } with hr
  have landed : Roster.Moves rules r (r.land rules.stopOnError f p.flights) :=
    .single (.land r f p.flights rfl settled)
  set noted := p.note (.ended f.batch :: f.plan.closing.map .remarked) with hnoted
  have same : r.land rules.stopOnError f p.flights =
      noted.roster.withLedger (noted.ledger.settle f) := by
    rw [← fits.stopOnError]
    rfl
  rw [same] at landed
  have fitting : noted.Fits rules := { fits with }
  by_cases wants : f.plan.cancels = true
  · have cancelled := Roster.moves_cancel
      (noted.roster.withLedger (noted.ledger.settle f)) (cancels wants)
    have released := moves_release allow noted.cancel f held
    have fitted : noted.cancel.Fits rules := { fitting with }
    simp only [finish, ← hnoted, wants, if_true]
    exact ⟨landed.trans (cancelled.trans released), fitted.release f held⟩
  · simp only [finish, ← hnoted, wants, Bool.false_eq_true, if_false]
    exact ⟨landed.trans (moves_release allow noted f held), fitting.release f held⟩

/-! ## Workers -/

variable {all : List Batch} {p q : Pool}

theorem flights_split {p : Pool} {before after : List Due} {due : Due}
    (listed : p.due = before ++ due :: after) :
    p.flights = (due.flight?.toList : Multiset Flight) +
      flights { p with due := before ++ after } := by
  have perm : p.due.Perm (due :: (before ++ after)) := listed ▸ List.perm_middle
  have same : (p.due.filterMap Due.flight?).Perm
      (due.flight?.toList ++ (before ++ after).filterMap Due.flight?) := by
    refine (perm.filterMap Due.flight?).trans (.of_eq ?_)
    cases flight : due.flight? <;> simp [flight]
  unfold flights
  rw [Multiset.coe_add, ← List.append_assoc]
  exact Multiset.coe_eq_coe.mpr (same.append_right _)

/-- What is due is done. -/
theorem moves_perform (allow : rules.Allow listener) {before after : List Due} {due : Due}
    (listed : p.due = before ++ due :: after) (fits : p.Fits rules)
    (sound : p.roster.Sound rules all) :
    Roster.Moves rules p.roster (perform listener { p with due := before ++ after } due).roster ∧
      (perform listener { p with due := before ++ after } due).Fits rules := by
  have here : due ∈ p.due := by simp [listed]
  have others : ∀ d ∈ before ++ after, d ∈ p.due := by
    intro d mem
    rw [listed]
    exact (List.mem_append.mp mem).elim (List.mem_append_left _)
      fun later => List.mem_append_right _ (List.mem_cons_of_mem _ later)
  set q : Pool := { p with due := before ++ after } with hq
  have fitting : q.Fits rules :=
    { fits with
      settled := fun reaps d mem => fits.settled reaps d (others d mem)
      called := fun d mem => fits.called d (others d mem) }
  have flights := flights_split listed
  cases due with
  | cancel =>
    have same : p.roster = q.roster := by
      rw [Due.flight?, Option.toList_none, Multiset.coe_nil, Multiset.zero_add] at flights
      simp only [roster, rosterAt, flights]
      rfl
    rw [same]
    exact ⟨Roster.moves_cancel _ (fits.called _ here rfl), { fitting with }⟩
  | finish b plan =>
    rw [Due.flight?, Option.toList_some, Multiset.coe_singleton, Multiset.singleton_add] at flights
    have same : p.roster = { q.roster with running := ⟨b, plan⟩ ::ₘ q.flights } := by
      simp only [roster, rosterAt, flights]
      rfl
    have aloft : (⟨b, plan⟩ : Flight) ∈ p.roster.running := by
      change _ ∈ p.flights
      simp [flights]
    have held : 0 < q.ledger.active := sound.active_pos_of_running aloft
    obtain ⟨ordinal, time, planned⟩ := sound.plan_of_mem aloft
    rw [same]
    exact moves_finish allow q ⟨b, plan⟩ fitting held
      (fun reaps => fits.settled reaps _ here ⟨b, plan⟩ rfl)
      (fun cancels => allow.plans ordinal time b (planned ▸ cancels))

theorem flights_takeOff (p : Pool) (f : Flight) :
    (takeOff p f.batch f.plan).flights = f ::ₘ p.flights := by
  unfold takeOff
  split
  · rfl
  · rename_i duration _
    have perm := (Timer.insert_perm ⟨p.now + duration, .finish f.batch f.plan⟩
      p.timers).filterMap Timer.flight?
    exact Multiset.coe_eq_coe.mpr ((perm.append_left _).trans List.perm_middle)

/-- A launch that counts as running takes off. -/
theorem moves_takeOff (f : Flight) (fits : p.Fits rules)
    (reaped : rules.launch.Reaps → f.plan.SettledBy (p.now + f.plan.duration.getD 0)) :
    (takeOff p f.batch f.plan).roster = { p.roster with running := f ::ₘ p.flights } ∧
      (takeOff p f.batch f.plan).Fits rules := by
  have flies :
      (takeOff p f.batch f.plan).roster = { p.roster with running := f ::ₘ p.flights } := by
    rw [← flights_takeOff]
    unfold takeOff
    split <;> rfl
  refine ⟨flies, ?_⟩
  unfold takeOff
  cases lasts : f.plan.duration with
  | none =>
    rw [lasts] at reaped
    refine { fits with settled := ?_, called := ?_ }
    · intro reaps d mem g flight
      rcases List.mem_cons.mp mem with rfl | old
      · cases flight
        exact reaped reaps
      · exact fits.settled reaps d old g flight
    · intro d mem flight
      rcases List.mem_cons.mp mem with rfl | old
      · contradiction
      · exact fits.called d old flight
  | some duration =>
    rw [lasts] at reaped
    refine { fits with punctual := ?_, timed := ?_ }
    · intro reaps t mem g flight
      rcases List.mem_cons.mp ((Timer.insert_perm _ _).mem_iff.mp mem) with rfl | old
      · cases flight
        exact reaped reaps
      · exact fits.punctual reaps t old g flight
    · intro t mem flight
      rcases List.mem_cons.mp ((Timer.insert_perm _ _).mem_iff.mp mem) with rfl | old
      · contradiction
      · exact fits.timed t old flight

/-- **The start of a launch**, whose batch has been taken up. -/
theorem moves_start (allow : rules.Allow listener) {before after : List Batch} {b : Batch}
    (waits : p.taken = before ++ b :: after) (turn : before = [] ∨ rules.overtakes)
    (fits : p.Fits rules) :
    Roster.Moves rules p.roster (start rules.launch { p with taken := before ++ after } b).roster ∧
      (start rules.launch { p with taken := before ++ after } b).Fits rules := by
  obtain ⟨plan, planned⟩ : ∃ plan, plan = rules.launch p.launched p.now b := ⟨_, rfl⟩
  set begun : Pool := began { p with taken := before ++ after } b plan with hbegun
  have starts : start rules.launch { p with taken := before ++ after } b =
      begun.takeOff b plan := by
    rw [hbegun, planned]
    rfl
  have signalled : begun.signals ≠ [] → rules.cancels := by
    intro pending
    by_cases old : p.signals = []
    · refine allow.signals p.launched p.now b ?_
      rw [← planned]
      by_contra none
      have first : plan.signal = .none := Option.not_isSome_iff_eq_none.mp none
      simp [hbegun, began, note, old, Plan.signals, Plan.otherSignal?, first] at pending
    · exact fits.signalled old
  have fitting : begun.Fits rules := { fits with signalled }
  obtain ⟨flies, fitted⟩ := moves_takeOff ⟨b, plan⟩ fitting
    fun reaps => planned ▸ reaps p.launched p.now b
  rw [starts, flies]
  refine ⟨.single ?_, fitted⟩
  have split : p.roster.waiting = before ++ b :: (after ++ p.queue ++ p.stage.waiting) := by
    simp [roster, rosterAt, waits]
  have move : Roster.Move rules _ _ := .start p.roster b before _ split turn
  convert move using 1
  simp only [roster, rosterAt, hbegun, began, note, Roster.start, Roster.note, planned,
    List.append_assoc]
  rfl

/-- A worker takes up a batch. -/
theorem roster_takeUp {b : Batch} {rest : List Batch} (first : p.queue = b :: rest) :
    roster { p with queue := rest, taken := p.taken ++ [b] } = p.roster := by
  simp [roster, rosterAt, first, flights]

/-! ## The controller -/

theorem moves_heed {signal : Nat} {rest : List Nat} (pending : p.signals = signal :: rest)
    (fits : p.Fits rules) :
    Roster.Moves rules p.roster (heed { p with signals := rest } signal).roster ∧
      (heed { p with signals := rest } signal).Fits rules := by
  have may : rules.cancels := fits.signalled (by rw [pending]; exact List.cons_ne_nil _ _)
  have fitting : Fits rules { p with signals := rest } := { fits with signalled := fun _ => may }
  unfold heed
  split
  · have noted : Roster.Moves rules p.roster
        (p.note [.remarked (.logged (signalRecord signal))]).roster :=
      Roster.moves_note _ (by simp [Happening.isQuiet])
    exact ⟨noted.trans (Roster.moves_cancel _ may), { fitting with }⟩
  · exact ⟨.refl, fitting⟩

/-- The source hands over a batch at some time. -/
theorem moves_receive {time : Nat} (item : FeedItem) (left : List FeedItem) (le : p.now ≤ time)
    (fits : p.Fits rules) :
    Roster.Moves rules (p.rosterAt (.asking (item :: left)))
        (receive { p with now := time } item.batch left).roster ∧
      (receive { p with now := time } item.batch left).Fits rules := by
  set r := p.rosterAt (.asking (item :: left)) with hr
  have passed : Roster.Moves rules r (r.pass time) := .single (.pass _ _ le)
  have received : Roster.Move rules (r.pass time)
      ((r.pass time).receive item.batch (left.map FeedItem.batch)) := .receive _ _ _ rfl rfl rfl
  refine ⟨passed.tail received, { fits with settled := ?_ }⟩
  exact fun reaps d mem f flight => (fits.settled reaps d mem f flight).mono le

/-- What a timer was set for is due when it goes off. -/
theorem flights_expire {t : Timer} {rest : List Timer} (next : p.timers = t :: rest) :
    (p.expire t rest).flights = p.flights := by
  simp only [Pool.flights, expire, next, List.filterMap_append, List.append_assoc]
  congr 2
  cases flight : t.due.flight? <;> simp [Timer.flight?, flight]

/-- Time passes until the next timer goes off. -/
theorem moves_expire {t : Timer} {rest : List Timer} (next : p.timers = t :: rest)
    (fits : p.Fits rules) :
    Roster.Moves rules p.roster (p.expire t rest).roster ∧ (p.expire t rest).Fits rules := by
  have later : p.now ≤ max p.now t.time := le_max_left _ _
  have passed : Roster.Moves rules p.roster (p.roster.pass (max p.now t.time)) :=
    .single (.pass _ _ later)
  have flights := flights_expire next
  have same : p.roster.pass (max p.now t.time) = (p.expire t rest).roster := by
    simp only [Roster.pass, roster, rosterAt, flights]
    rfl
  have first : t ∈ p.timers := by simp [next]
  have others : ∀ u ∈ rest, u ∈ p.timers := fun u mem => by simp [next, mem]
  refine ⟨same ▸ passed, { fits with punctual := ?_, settled := ?_, timed := ?_, called := ?_ }⟩
  · exact fun reaps u mem => fits.punctual reaps u (others u mem)
  · intro reaps d mem f flight
    rcases List.mem_append.mp mem with old | new
    · exact (fits.settled reaps d old f flight).mono later
    · obtain rfl := List.mem_singleton.mp new
      exact (fits.punctual reaps t first f flight).mono (le_max_right _ _)
  · exact fun u mem => fits.timed u (others u mem)
  · intro d mem flight
    rcases List.mem_append.mp mem with old | new
    · exact fits.called d old flight
    · obtain rfl := List.mem_singleton.mp new
      exact fits.timed t first flight

/-- A ledger that is not full has room. -/
theorem room_of_not_full {l : Ledger} (room : l.full = false) :
    ∀ n, l.bound = some n → l.active < n := by
  intro n slots
  simpa [Ledger.full, slots] using room

/-- **A step is a chain of moves**, whichever thread makes it. -/
theorem moves_of_step (allow : rules.Allow listener)
    (turns : threads.overtakes = true → rules.overtakes) (fits : p.Fits rules)
    (sound : p.roster.Sound rules all) (step : Step threads listener rules.launch p q) :
    Roster.Moves rules p.roster q.roster ∧ q.Fits rules := by
  have quiet (happening : Happening) (silent : happening.isQuiet = true) (r : Roster) :
      Roster.Moves rules r (r.note [happening]) :=
    Roster.moves_note r (by simpa using silent)
  have here {stage : Stage} (set : p.stage = stage) : p.roster = p.rosterAt stage := by
    rw [roster, set]
  cases step with
  | perform before due after listed => exact moves_perform allow listed fits sound
  | start before b after waits turn => exact moves_start allow waits (turn.imp_right turns) fits
  | takeUp b rest first => exact ⟨roster_takeUp first ▸ .refl, { fits with }⟩
  | heed signal rest pending => exact moves_heed pending fits
  | close stage =>
    rw [here stage]
    exact ⟨quiet .requested rfl _, { fits with }⟩
  | ask item left stage =>
    rw [here stage]
    exact ⟨quiet .requested rfl _, { fits with }⟩
  | fetch item left stage prompt =>
    have asked : (p.note [.requested]).Fits rules := { fits with }
    obtain ⟨received, fitted⟩ := moves_receive item left (Nat.le_refl _) asked
    rw [here stage]
    exact ⟨(quiet .requested rfl _).trans received, fitted⟩
  | accept b left stage awake handled goes room =>
    have free := room_of_not_full room
    rw [fits.bound] at free
    rw [here stage]
    refine ⟨.single ?_, { fits with }⟩
    have move : Roster.Move rules _ _ :=
      .accept (p.rosterAt (.holding b left)) b rfl goes free
    convert move using 1
    simp only [roster, rosterAt, Roster.accept, Roster.note, Stage.waiting, List.append_nil]
    rfl
  | refuse b left stage awake stopped =>
    have refused : Roster.Moves rules (p.rosterAt (.holding b left)) _ :=
      .single (.refuse _ b rfl stopped)
    rw [here stage]
    exact ⟨refused.trans (quiet (.refused b) rfl _), { fits with }⟩
  | doze b left stage => exact ⟨.refl, { fits with }⟩
  | submit b left stage =>
    rw [here stage]
    refine ⟨?_, { fits with }⟩
    convert quiet (.submitted b) rfl (p.rosterAt (.submitting b left)) using 1
    simp only [roster, rosterAt, Roster.note, Stage.waiting, List.append_assoc, List.append_nil]
    rfl
  | expire t rest next => exact moves_expire next fits
  | arrive time item left stage =>
    rw [here stage]
    exact moves_receive item left (le_max_left _ _) fits

end Pool

end BatchExec
