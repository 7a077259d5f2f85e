import BatchExec.Proofs.Chain
import BatchExec.Proofs.Stream.Peak
import BatchExec.Proofs.Stream.Sentinel

/-!
# Whole event-driven runs

An event-driven run passes through a chain of states, one for each turn and each new round. Up to
the state in which the consumer leaves, if it does, the roster is sound; if it does not, the run
comes to rest.

* `Stream.run_passes`: a whole run passes through its states to a last one.
* `Stream.moves_of_passes`: **every state of a run is reached by moves, unless the consumer has
  left.**
* `Stream.rests_of_over`: **when a run is over and the consumer is there, nothing is under way.**
* `Stream.peak_roster_of_next?`: the peak keeps up with the active launches.
-/

namespace BatchExec

/-- The tally before a run with some rules. -/
def Rules.tally (rules : Rules) : Tally := { free := rules.bound, stopOnError := rules.stopOnError }

/-- A consumer that leaves at no event. -/
def Consumer.Stays (c : Consumer) : Prop := ∀ e, c.departure? e = none

namespace Stream

variable (consumer : Consumer) (launch : Launcher) (detour : Bool)

/-- One state of a run comes before another, or it is the same. -/
abbrev Before : Stream → Stream → Prop := Chain (next? consumer launch detour)

/-- A run with a feed, from some state on, passes through a state. -/
def Passes (feed : Feed) (s t : Stream) : Prop :=
  Before consumer launch detour (pull detour feed.items s) t

theorem settle_before (steps : Nat) (s : Stream) :
    Before consumer launch detour s (settle consumer launch detour steps s) := by
  induction steps generalizing s with
  | zero => exact .refl
  | succ steps ih =>
    rw [settle]
    cases next : next? consumer launch detour s with
    | none => exact .refl
    | some t => exact .head next (ih t)

/-- A whole run passes through its states to a last one. -/
theorem run_passes (feed : Feed) (s : Stream) :
    Passes consumer launch detour feed s (run consumer launch detour feed s).stream ∧
      next? consumer launch detour (run consumer launch detour feed s).stream = none :=
  ⟨settle_before consumer launch detour _ _,
    next?_settle consumer launch detour _ _ (Nat.le_refl _)⟩

variable {consumer launch detour}
variable {rules : Rules} {feed : Feed} {interruption : Interruption} {cancellable : Bool}
variable {s t : Stream}

/-! ## The first state -/

theorem steady_fresh (rules : Rules) (cancellable : Bool) (feed : List FeedItem) :
    Steady rules { tally := rules.tally, cancellable, feed } := by
  refine ⟨rfl, ?_, ?_, ?_, ?_, rfl, rfl, fun ended => by cases ended⟩
  · change rules.bound.map _ = rules.bound
    cases rules.bound <;> rfl
  all_goals
    intro t mem
    exact absurd mem List.not_mem_nil

/-- A cancellation at some time is set up when nobody has a turn. -/
theorem leads_interrupt (idle : s.turns = []) {time : Option Nat}
    (may : ∀ t, time = some t → rules.cancels) :
    Leads rules s { s with timers := time.toList.map (⟨·, .cancel⟩) } := by
  intro steady
  have near : s.ready ++ s.upcoming = [] := (List.append_eq_nil_iff.mp idle).1
  refine ⟨?_, { steady with far := ?_, late := ?_ }⟩
  · have same : roster { s with timers := time.toList.map (⟨·, .cancel⟩) } = s.roster := by
      simp only [roster, idle]
      cases time <;> simp [Stream.turns, near, Turn.flight?]
    rw [same]
  · intro t mem
    obtain ⟨instant, timed, rfl⟩ := List.mem_map.mp mem
    exact may instant (Option.mem_toList.mp timed)
  · intro t mem
    obtain ⟨instant, -, rfl⟩ := List.mem_map.mp mem
    rfl

theorem moves_initial (cancellable : Bool) (feed : Feed) (may : interruption = {} ∨ rules.cancels) :
    Roster.Moves rules (Roster.initial feed.batches)
        (roster { initial rules.tally cancellable interruption with feed := feed.items }) ∧
      Steady rules { initial rules.tally cancellable interruption with feed := feed.items } := by
  set fresh : Stream := { tally := rules.tally, cancellable, feed := feed.items } with hfresh
  have cancelled : Leads rules fresh (if interruption.beforehand then fresh.cancel else fresh) := by
    split
    · rename_i early
      rcases may with rfl | cancels
      · exact absurd early Bool.false_ne_true
      · exact leads_cancel fresh cancels
    · exact .refl fresh
  set began : Stream := if interruption.beforehand then fresh.cancel else fresh with hbegan
  have idle : began.turns = [] := by
    rw [hbegan]
    unfold cancel
    split
    · split <;> rfl
    · rfl
  have interrupted : Leads rules began
      { began with timers := interruption.time.toList.map (⟨·, .cancel⟩) } := by
    refine leads_interrupt idle fun t timed => ?_
    rcases may with rfl | cancels
    · exact absurd timed.symm (Option.some_ne_none t)
    · exact cancels
  have same : { initial rules.tally cancellable interruption with feed := feed.items } =
      { began with timers := interruption.time.toList.map (⟨·, .cancel⟩) } := by
    cases can : cancellable <;> cases early : interruption.beforehand <;>
      simp only [hbegan, hfresh, initial, cancel, can, early] <;> rfl
  have first : fresh.roster = Roster.initial feed.batches := rfl
  rw [same, ← first]
  exact (cancelled.trans interrupted) (steady_fresh rules cancellable feed.items)

theorem initial_asks (tally : Tally) (cancellable : Bool) (interruption : Interruption) :
    (initial tally cancellable interruption).producer = .asking ∧
      (initial tally cancellable interruption).consumer = .idle ∧
      (initial tally cancellable interruption).queue = [] := by
  cases can : cancellable <;> cases early : interruption.beforehand <;>
    simp only [initial, cancel, early] <;> exact ⟨rfl, rfl, rfl⟩

/-! ## From state to state -/

/-- A consumer that has left does not come back. -/
theorem Deserts.of_next? {u : Stream} (deserts : Deserts consumer s t)
    (next : next? consumer launch detour t = some u) : Deserts consumer s u := by
  obtain ⟨e, error, departs, winds⟩ := deserts
  exact ⟨e, error, departs, winds.of_next? next⟩

theorem Deserts.of_before {u : Stream} (deserts : Deserts consumer s t)
    (before : Before consumer launch detour t u) : Deserts consumer s u := by
  induction before with
  | refl => exact deserts
  | tail _ next ih => exact ih.of_next? next

theorem moves_of_before (allow : rules.Allow consumer.listener) (steady : s.Steady rules)
    {all : List Batch} (sound : s.roster.Sound rules all)
    (before : Before consumer rules.launch detour s t) :
    ∃ u, Roster.Moves rules s.roster u.roster ∧ u.Steady rules ∧
      (t = u ∨ Deserts consumer u t) := by
  induction before with
  | refl => exact ⟨s, .refl, steady, .inl rfl⟩
  | tail _ next ih =>
    obtain ⟨u, moves, steady', rfl | deserts⟩ := ih
    · obtain ⟨w, more, steady'', outcome⟩ :=
        moves_of_next? allow steady' (sound.of_moves moves) next
      exact ⟨w, moves.trans more, steady'', outcome⟩
    · exact ⟨u, moves, steady', .inr (deserts.of_next? next)⟩

/-- **Every state of a run is reached by moves, unless the consumer has left.** -/
theorem moves_of_passes (allow : rules.Allow consumer.listener)
    (may : interruption = {} ∨ rules.cancels)
    (passes : Passes consumer rules.launch detour feed
      (initial rules.tally cancellable interruption) t) :
    ∃ u, Roster.Moves rules (Roster.initial feed.batches) u.roster ∧ u.Steady rules ∧
      (t = u ∨ Deserts consumer u t) := by
  obtain ⟨began, steady⟩ := moves_initial cancellable feed may
  have asks := (initial_asks rules.tally cancellable interruption).1
  obtain ⟨asked, steady'⟩ := leads_pull detour feed.items _ asks steady
  have first : Roster.Moves rules (Roster.initial feed.batches) _ := began.trans asked
  obtain ⟨u, moves, steady'', outcome⟩ := moves_of_before allow steady' first.sound passes
  exact ⟨u, first.trans moves, steady'', outcome⟩

/-! ## Consumers that are there -/

/-- The consumer has not left. -/
def Here (s : Stream) : Prop := ∀ error, s.consumer ≠ .leaving error ∧ s.consumer ≠ .gone error

theorem here_of_state {state : ConsumerState} (there : s.consumer = state)
    (stays : ∀ error, state ≠ .leaving error ∧ state ≠ .gone error) : s.Here := by
  unfold Here
  rw [there]
  exact stays

theorem here_of_idle (idle : s.consumer = .idle) : s.Here :=
  here_of_state idle fun _ => ⟨nofun, nofun⟩

theorem Winds.not_here {error : Option RunError} (winds : Winds error s t) : ¬ t.Here := by
  intro here
  exact winds.consumer.elim (here error).1 (here error).2

theorem Deserts.not_here (deserts : Deserts consumer s t) : ¬ t.Here := by
  obtain ⟨e, error, -, winds⟩ := deserts
  exact winds.not_here

/-- Every state of a run is reached by moves if the consumer is there. -/
theorem moves_of_here (allow : rules.Allow consumer.listener)
    (may : interruption = {} ∨ rules.cancels)
    (passes : Passes consumer rules.launch detour feed
      (initial rules.tally cancellable interruption) t) (here : t.Here) :
    Roster.Moves rules (Roster.initial feed.batches) t.roster ∧ t.Steady rules := by
  obtain ⟨u, moves, steady, rfl | deserts⟩ := moves_of_passes allow may passes
  · exact ⟨moves, steady⟩
  · exact absurd here deserts.not_here

/-- Later states of a run are reached by moves from earlier ones if the consumer is there. -/
theorem moves_later (allow : rules.Allow consumer.listener) (steady : s.Steady rules)
    {all : List Batch} (sound : s.roster.Sound rules all)
    (before : Before consumer rules.launch detour s t) (here : t.Here) :
    Roster.Moves rules s.roster t.roster := by
  obtain ⟨u, moves, steady, rfl | deserts⟩ := moves_of_before allow steady sound before
  · exact moves
  · exact absurd here deserts.not_here

theorem Departed.not_here (departed : Departed consumer t) : ¬ t.Here := by
  obtain ⟨s, deserts⟩ := departed
  exact deserts.not_here

theorem Attended.here (attended : s.Attended) : s.Here := by
  have served := attended.consumer
  unfold ServesConsumer at served
  refine fun error => ⟨fun leaving => ?_, fun gone => ?_⟩
  · rwa [leaving] at served
  · rwa [gone] at served

theorem attended_initial {tally : Tally} :
    (pull detour feed.items (initial tally cancellable interruption)).Attended := by
  obtain ⟨-, idle, empty⟩ := initial_asks tally cancellable interruption
  refine Attended.pull _ _ _ ?_
  unfold ServesConsumer
  rw [idle]
  exact empty

theorem open_initial (tally : Tally) : (initial tally cancellable interruption).Open := by
  have fresh : Open { tally, cancellable } :=
    ⟨Nat.le_refl _, List.not_mem_nil, rfl, nofun, [], rfl⟩
  have began : Open (if interruption.beforehand then cancel { tally, cancellable }
      else { tally, cancellable }) := by
    split
    · exact fresh.cancel
    · exact fresh
  have idle : (if interruption.beforehand then cancel { tally, cancellable }
      else { tally, cancellable }).turns = [] := by
    unfold cancel
    split
    · split <;> rfl
    · rfl
  have near := (List.append_eq_nil_iff.mp idle).1
  unfold initial
  refine { began with turns := fun mem => ?_ }
  simp only [turns, near, List.nil_append] at mem
  obtain ⟨timer, listed, called⟩ := List.mem_map.mp mem
  obtain ⟨instant, -, rfl⟩ := List.mem_map.mp listed
  contradiction

theorem attended_of_passes {tally : Tally}
    (passes : Passes consumer launch detour feed (initial tally cancellable interruption) t) :
    t.Attended ∨ Departed consumer t := by
  unfold Passes at passes
  induction passes with
  | refl => exact .inl attended_initial
  | tail _ next ih =>
    rcases ih with attended | ⟨s, deserts⟩
    · exact attended.of_next? next
    · exact .inr ⟨s, deserts.of_next? next⟩

/-- A consumer that is there in a state of a run has been there in all states before. -/
theorem Here.of_before (here : t.Here) {tally : Tally}
    (passes : Passes consumer launch detour feed (initial tally cancellable interruption) s)
    (before : Before consumer launch detour s t) : s.Here := by
  rcases attended_of_passes passes with attended | ⟨u, deserts⟩
  · exact attended.here
  · exact absurd here (deserts.of_before before).not_here

/-- **In every state of a run the end of the events comes last, unless the consumer has left.** -/
theorem sealed_of_passes (allow : rules.Allow consumer.listener)
    (may : interruption = {} ∨ rules.cancels)
    (passes : Passes consumer rules.launch detour feed
      (initial rules.tally cancellable interruption) t) :
    t.Attended ∧ t.Sealed ∨ Departed consumer t := by
  unfold Passes at passes
  induction passes with
  | refl => exact .inl ⟨attended_initial, Open.pull _ _ _ (open_initial rules.tally)⟩
  | tail passed next ih =>
    rcases ih with ⟨attended, closes⟩ | ⟨s, deserts⟩
    · obtain ⟨moves, steady⟩ := moves_of_here allow may passed attended.here
      rcases attended.of_next? next with attended' | departed
      · exact (closes.of_next? attended steady moves.sound next).imp_left (⟨attended', ·⟩)
      · exact .inr departed
    · exact .inr ⟨s, deserts.of_next? next⟩

/-- What holds of a state of a run in which the consumer is there. -/
structure Present (rules : Rules) (all : List Batch) (s : Stream) : Prop where
  steady : s.Steady rules
  sound : s.roster.Sound rules all
  attended : s.Attended
  closes : s.Sealed

/-- **As long as the consumer is there, all is as it should be.** -/
theorem present_of_here (allow : rules.Allow consumer.listener)
    (may : interruption = {} ∨ rules.cancels)
    (passes : Passes consumer rules.launch detour feed
      (initial rules.tally cancellable interruption) t) (here : t.Here) :
    t.Present rules feed.batches := by
  obtain ⟨moves, steady⟩ := moves_of_here allow may passes here
  obtain ⟨attended, closes⟩ := (sealed_of_passes allow may passes).resolve_right
    fun departed => departed.not_here here
  exact ⟨steady, moves.sound, attended, closes⟩

theorem here_of_stays (stays : consumer.Stays) {tally : Tally}
    (passes : Passes consumer launch detour feed (initial tally cancellable interruption) t) :
    t.Here := by
  rcases attended_of_passes passes with attended | ⟨s, e, error, leaves, -⟩
  · exact attended.here
  · exact absurd ((stays e).symm.trans leaves) (Option.some_ne_none error).symm

/-- **When a run is over and the consumer is there, it has taken all events, and nothing is under
way.** -/
theorem ended_of_over (allow : rules.Allow consumer.listener)
    (may : interruption = {} ∨ rules.cancels)
    (passes : Passes consumer rules.launch detour feed
      (initial rules.tally cancellable interruption) t)
    (halted : next? consumer rules.launch detour t = none) (here : t.Here) :
    t.consumer = .joining ∧ t.queue = [] ∧ t.Over ∧ t.roster.Rests := by
  obtain ⟨steady, sound, attended, closes⟩ := present_of_here allow may passes here
  exact closes.rests attended allow.positive steady sound halted

theorem rests_of_over (allow : rules.Allow consumer.listener)
    (may : interruption = {} ∨ rules.cancels)
    (passes : Passes consumer rules.launch detour feed
      (initial rules.tally cancellable interruption) t)
    (halted : next? consumer rules.launch detour t = none) (here : t.Here) : t.roster.Rests :=
  (ended_of_over allow may passes halted here).2.2.2

/-- What a run ends with if the consumer is still there. -/
theorem result_of_here {feed : Feed} {s : Stream}
    (here : (run consumer launch detour feed s).stream.Here) :
    (run consumer launch detour feed s).result =
      (run consumer launch detour feed s).stream.roster.verdict (feed.relayed detour) := by
  simp only [run] at here ⊢
  generalize settle consumer launch detour _ (pull detour feed.items s) = last at here ⊢
  change _ = (feed.relayed detour).verdict last.producer.stoppedEarly last.tally.fault
    last.tally.completed last.now last.tally.peak
  unfold Feed.verdict
  generalize (if last.producer.stoppedEarly then none else (feed.relayed detour).failure) = failure
  cases state : last.consumer with
  | gone error => exact absurd state (here error).2
  | _ => cases failure <;> cases last.tally.fault <;> rfl

/-! ## The peak -/

theorem peak_roster_of_next? (next : next? consumer launch detour s = some t) :
    t.roster.peak = s.roster.peak ∨ t.roster.peak = max s.roster.peak t.roster.active := by
  have grown := peak_of_next? next
  simp only [roster]
  omega

theorem peak_initial (cancellable : Bool) (interruption : Interruption) (items : List FeedItem) :
    (pull detour items (initial rules.tally cancellable interruption)).roster.peak =
      (pull detour items (initial rules.tally cancellable interruption)).roster.active := by
  have fresh : (initial rules.tally cancellable interruption).tally.active = 0 ∧
      (initial rules.tally cancellable interruption).tally.peak = 0 := by
    cases can : cancellable <;> cases early : interruption.beforehand <;>
      simp only [initial, cancel, early] <;> exact ⟨rfl, rfl⟩
  have climbs := climbs_pull detour items (initial rules.tally cancellable interruption)
  unfold Tally.Climbs at climbs
  simp only [roster]
  omega

end Stream

end BatchExec
