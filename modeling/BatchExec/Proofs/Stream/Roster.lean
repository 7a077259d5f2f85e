import BatchExec.Proofs.Roster
import BatchExec.Proofs.Stream.Leaving

/-!
# The roster of an event-driven run

Every operation of an event-driven run is a chain of moves of its roster, as long as its books are
steady: the free slots, the running launches and a slot that is kept for the producer add up to the
number of slots.

* `Stream.roster`: where the batches are.
* `Stream.Steady`: the books are in order, and every turn that is to come keeps to the rules.
* `Stream.Leads`: an operation is a chain of moves and leaves the books steady.
-/

namespace BatchExec

/-! ## Tallies -/

namespace Tally

/-- The tally after the end of a launch. -/
def settle (t : Tally) (f : Flight) : Tally :=
  { t with
    free := t.free.map (· + 1)
    active := t.active - 1
    completed := t.completed ++ f.result?.toList
    fault := t.fault.or f.flaw?
    stopped := t.stopped || f.flaw?.isSome || t.stopOnError && f.fails }

theorem finish_eq (t : Tally) (held : 0 < t.active) (f : Flight) :
    (t.finish f.batch f.plan.ending).1 = t.settle f ∧
      ∀ e ∈ (t.finish f.batch f.plan.ending).2.1, e.isQuiet = true := by
  have busy : t.active ≠ 0 := by omega
  cases f.ends with
  | raised failure ending none flaw =>
    cases broken : t.fault <;>
      simp [finish, release, busy, ending, fail, giveBack, settle, none, flaw, broken,
        Happening.isQuiet]
  | invalid fine none flaw =>
    have unreported : f.plan.ending.resultFor? f.batch = Option.none := none
    unfold finish
    dsimp only
    split
    · rename_i raised
      exact absurd raised (fine _)
    · cases broken : t.fault <;>
        simp [release, busy, fail, giveBack, settle, none, flaw, broken, Happening.isQuiet]
    · rename_i reported _
      exact absurd (unreported.symm.trans reported) (Option.some_ne_none _).symm
  | delivered r ending own brings flaw =>
    have reported : (Ending.returned r).resultFor? f.batch = some r := ending ▸ brings
    have same : t.settle f =
        { t.giveBack with
          active := t.active - 1
          completed := t.completed ++ [r]
          stopped := t.stopped || (t.stopOnError && !r.success && !t.stopped) } := by
      simp only [settle, giveBack, brings, flaw, Flight.fails, Option.toList_some, Option.or_none,
        Option.isSome_none, Bool.or_false, Option.any_some]
      cases t.stopped <;> simp
    rw [same, ending]
    simp only [finish, release, if_neg busy, reported]
    exact ⟨rfl, quiet_recorded r _⟩

theorem cancelled_settle (t : Tally) (f : Flight) :
    (t.settle f).cancelled = (t.cancelled || f.flaw?.isSome || t.stopOnError && f.fails) := by
  simp only [cancelled, settle]
  cases t.stopped <;> cases t.cancelRequested <;> simp

theorem reserve?_eq {t t' : Tally} (reserved : t.reserve? = some t') :
    t' = { t with free := t'.free } ∧ t'.free.map (· + 1) = t.free := by
  unfold reserve? at reserved
  split at reserved
  · rename_i free
    cases reserved
    exact ⟨rfl, by rw [free]; rfl⟩
  · contradiction
  · rename_i n free
    cases reserved
    exact ⟨rfl, by rw [free]; rfl⟩

theorem free_of_reserve? {t : Tally} (full : t.reserve? = none) : t.free = some 0 := by
  unfold reserve? at full
  split at full
  · contradiction
  · assumption
  · contradiction

theorem cancelled_of_reserve? {t t' : Tally} (reserved : t.reserve? = some t') :
    t'.cancelled = t.cancelled := by
  rw [(reserve?_eq reserved).1]
  rfl

end Tally

/-! ## Turns -/

/-- The batch whose launch a turn starts, if it starts one. -/
def Turn.start? : Turn → Option Batch
  | .start b => some b
  | _ => none

/-- The running launch whose turn it is, if it is one of a running launch. -/
def Turn.flight? : Turn → Option Flight
  | .relay b plan _ => some ⟨b, plan⟩
  | _ => none

/-- A turn that comes at some time keeps to the rules of a run whose consumer has not left. -/
def Turn.Fits (rules : Rules) (time : Nat) : Turn → Prop
  | .cancel => rules.cancels
  | .relay _ plan _ => rules.launch.Reaps → plan.SettledBy time
  | .abort _ _ => False
  | _ => True

theorem Turn.Fits.mono {rules : Rules} {time later : Nat} {turn : Turn}
    (fits : turn.Fits rules time) (le : time ≤ later) : turn.Fits rules later := by
  cases turn with
  | relay b plan turns => exact fun reaps => (fits reaps).mono le
  | _ => exact fits

/-- The batch that the producer has got and that has not been admitted. -/
def ProducerState.held? : ProducerState → Option Batch
  | .blocked b | .granted b => some b
  | _ => none

/-- The number of slots that are kept for the producer. -/
def ProducerState.reserved : ProducerState → Nat
  | .granted _ | .halted true => 1
  | _ => 0

/-- Whether the producer has been cut off. -/
def ProducerState.isCut : ProducerState → Bool
  | .halted _ | .gathering _ true => true
  | _ => false

/-- Whether the producer asks for no more although no batch was refused. -/
def ProducerState.isSpent : ProducerState → Bool
  | .gathering false _ | .finished false => true
  | _ => false

namespace Stream

/-- Where the batches are. -/
def roster (s : Stream) : Roster where
  now := s.now
  left := s.feed.map FeedItem.batch
  held := s.producer.held?
  refused := s.producer.stoppedEarly
  waiting := (s.ready ++ s.upcoming).filterMap Turn.start?
  running := (s.turns.filterMap Turn.flight? : List Flight)
  started := s.launched
  active := s.tally.active
  peak := s.tally.peak
  completed := s.tally.completed
  cancelled := s.tally.cancelled
  fault := s.tally.fault
  past := s.past

/-- The books are in order, and every turn that is to come keeps to the rules. -/
structure Steady (rules : Rules) (s : Stream) : Prop where
  stopOnError : s.tally.stopOnError = rules.stopOnError
  slots : s.tally.free.map (· + s.tally.active + s.producer.reserved) = rules.bound
  near : ∀ turn ∈ s.ready ++ s.upcoming, turn.Fits rules s.now
  far : ∀ t ∈ s.timers, t.turn.Fits rules t.time
  late : ∀ t ∈ s.timers, t.turn.start? = none
  /-- A task is over when its launch is no longer active. -/
  tasks : s.tasks = s.done + s.tally.active
  going : s.producer.isCut = false
  spent : s.producer.isSpent = true → s.feed = []

/-- What comes next is a chain of moves and leaves the books steady. -/
def Leads (rules : Rules) (s t : Stream) : Prop :=
  s.Steady rules → Roster.Moves rules s.roster t.roster ∧ t.Steady rules

variable {rules : Rules} {s t u : Stream}

theorem Leads.refl (s : Stream) : Leads rules s s := fun steady => ⟨.refl, steady⟩

theorem Leads.trans (first : Leads rules s t) (second : Leads rules t u) : Leads rules s u := by
  intro steady
  obtain ⟨moves, steady'⟩ := first steady
  obtain ⟨more, steady''⟩ := second steady'
  exact ⟨moves.trans more, steady''⟩

/-! ## Notes and calls -/

theorem leads_note (s : Stream) {happenings : List Happening}
    (quiet : ∀ e ∈ happenings, e.isQuiet = true) : Leads rules s (s.note happenings) :=
  fun steady => ⟨.single (.note _ happenings quiet), { steady with }⟩

theorem leads_cancel (s : Stream) (may : rules.cancels) : Leads rules s s.cancel := by
  intro steady
  unfold cancel
  split
  · have cancelled : Roster.Moves rules s.roster (s.roster.cancel.note [.cancelled]) :=
      (Relation.ReflTransGen.single (.cancel _ may)).tail
        (.note _ _ (by simp [Happening.isQuiet]))
    have same : (note { s with tally := s.tally.cancel } [.cancelled]).roster =
        s.roster.cancel.note [.cancelled] := by
      simp only [roster, note, Tally.cancelled, Tally.cancel, Bool.or_true]
      rfl
    exact ⟨same ▸ cancelled, { steady with }⟩
  · exact ⟨.refl, steady⟩

/-- Somebody who neither starts nor ends a launch gets a turn. -/
theorem roster_call (s : Stream) {turn : Turn} (idle : turn.start? = none)
    (free : turn.flight? = none) : (s.call turn).roster = s.roster := by
  simp only [roster, turns, call, List.filterMap_append, List.filterMap_cons, idle, free,
    List.filterMap_nil, List.append_nil]

theorem Steady.call (steady : s.Steady rules) {turn : Turn} (fits : turn.Fits rules s.now) :
    (s.call turn).Steady rules := by
  refine { steady with near := ?_ }
  intro other mem
  simp only [Stream.call, ← List.append_assoc] at mem
  rcases List.mem_append.mp mem with old | new
  · exact steady.near other old
  · rw [List.mem_singleton.mp new]
    exact fits

theorem leads_call (s : Stream) {turn : Turn} (idle : turn.start? = none)
    (free : turn.flight? = none) (fits : turn.Fits rules s.now) :
    Leads rules s (s.call turn) := by
  intro steady
  refine ⟨?_, steady.call fits⟩
  rw [roster_call s idle free]

/-- Somebody who neither starts nor ends a launch gets a turn after some time. -/
theorem roster_callAfter (s : Stream) (time : Nat) {turn : Turn} (free : turn.flight? = none) :
    (s.callAfter time turn).roster = s.roster := by
  have running := (turns_callAfter s time turn).filterMap Turn.flight?
  rw [List.filterMap_cons_none free] at running
  have same := Multiset.coe_eq_coe.mpr running
  simp only [roster, same]
  rfl

theorem Steady.callAfter (steady : s.Steady rules) {time : Nat} {turn : Turn}
    (idle : turn.start? = none) (fits : turn.Fits rules (s.now + time)) :
    (s.callAfter time turn).Steady rules := by
  refine { steady with far := ?_, late := ?_ }
  all_goals
    intro other mem
    rcases List.mem_cons.mp ((TurnTimer.insert_perm _ _).mem_iff.mp mem) with rfl | old
  · exact fits
  · exact steady.far other old
  · exact idle
  · exact steady.late other old

end Stream

end BatchExec
