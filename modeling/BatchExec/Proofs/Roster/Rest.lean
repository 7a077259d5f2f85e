import BatchExec.Proofs.Roster
import BatchExec.Proofs.Summary
import Mathlib.Data.Multiset.Count

/-!
# Rosters in the course of a run

What holds from one roster of a run to a later one, and what holds when nothing is under way any
more.

* `Roster.initial`: the roster before a run.
* `Roster.Follows.of_moves`: **nothing that happened is taken back, and a run that has stopped
  admits nothing.**
* `Roster.Sound.length_living_le_bound`: **no more children are alive than there are slots.**
* `Roster.Sound.length_living_le_active`: **the children that are alive belong to active launches.**
* `Roster.Rests`: nothing is under way.
-/

namespace BatchExec

/-- The batches of a feed, in order. -/
def Feed.batches (feed : Feed) : List Batch := feed.items.map FeedItem.batch

/-- The launches of some batches end with results of their own, be they successes or not. -/
def Launcher.Delivers (launch : Launcher) (batches : List Batch) : Prop :=
  ∀ ordinal time, ∀ b ∈ batches,
    ∃ r, (launch ordinal time b).ending = .returned r ∧ r.index = b.index

theorem Launcher.Delivers.result? {launch : Launcher} {batches : List Batch}
    (delivers : launch.Delivers batches) {f : Flight} (mem : f.batch ∈ batches)
    (planned : ∃ ordinal time, f.plan = launch ordinal time f.batch) : f.result?.isSome = true := by
  obtain ⟨ordinal, time, plan⟩ := planned
  obtain ⟨r, returned, own⟩ := delivers ordinal time f.batch mem
  simp [Flight.result?, plan, returned, Ending.resultFor?, own]

/-- Every batch that has got a slot has been launched, in the same order unless launches may
overtake others. -/
structure History.LaunchesAdmitted (h : History) (overtakes : Prop) : Prop where
  all : h.launched.Perm h.admitted
  order : ¬ overtakes → h.launched = h.admitted

namespace Roster

variable {rules : Rules} {all : List Batch} {r r' r'' : Roster}

/-- The roster before a run. -/
def initial (all : List Batch) : Roster where
  now := 0
  left := all
  held := none
  refused := false
  waiting := []
  running := 0
  started := 0
  active := 0
  peak := 0
  completed := []
  cancelled := false
  fault := none
  past := []

theorem sound_initial (rules : Rules) (all : List Batch) : (initial all).Sound rules all where
  landed := ⟨[], by
    refine ⟨rfl, rfl, rfl, ?_, ?_, ?_, ?_, fun n _ => Int.natCast_nonneg n⟩
    · exact fun _ f mem => absurd mem List.not_mem_nil
    · exact fun broken => absurd broken Bool.false_ne_true
    · exact fun _ f mem => absurd mem List.not_mem_nil
    · exact fun f mem => absurd mem List.not_mem_nil⟩
  source := rfl
  going := fun _ => rfl
  shut := fun refused => absurd refused Bool.false_ne_true
  slotted := .refl _
  order := fun _ => rfl
  started := rfl
  attempts := rfl
  active := rfl
  bounded := fun n _ => Int.natCast_nonneg n
  peak := Int.le_refl 0
  cause := fun stopped => absurd stopped Bool.false_ne_true
  stops := fun _ before x after split => by
    have length := congrArg List.length split
    simp [initial] at length

/-- A chain of moves from the roster before a run leads to a sound one. -/
theorem Moves.sound (moves : Moves rules (initial all) r) : r.Sound rules all :=
  (sound_initial rules all).of_moves moves

/-- What a run ends with whose last roster is this one. -/
def verdict (r : Roster) (feed : Feed) : Except RunError Summary :=
  feed.verdict r.refused r.fault r.completed r.now r.peak

/-! ## Later rosters -/

/-- One roster comes after another. -/
structure Follows (r r' : Roster) : Prop where
  history : r.history <+: r'.history
  completed : r.completed <+: r'.completed
  whole : r'.fault = none → r.fault = none
  stopped : r.cancelled = true → r'.cancelled = true ∧ r'.history.admitted = r.history.admitted

theorem Follows.refl (r : Roster) : r.Follows r :=
  ⟨List.prefix_rfl, List.prefix_rfl, id, fun stopped => ⟨stopped, rfl⟩⟩

theorem Follows.trans (first : r.Follows r') (second : r'.Follows r'') : r.Follows r'' where
  history := first.history.trans second.history
  completed := first.completed.trans second.completed
  whole := first.whole ∘ second.whole
  stopped := fun stopped => by
    obtain ⟨stays, same⟩ := first.stopped stopped
    obtain ⟨ends, same'⟩ := second.stopped stays
    exact ⟨ends, same'.trans same⟩

theorem Follows.of_move (move : Move rules r r') : r.Follows r' := by
  cases move with
  | note happenings quiet =>
    have adds := History.adds_of_quiet r.history quiet r.now
    rw [← history_note] at adds
    refine ⟨⟨_, (history_note r happenings).symm⟩, List.prefix_rfl, id,
      fun stopped => ⟨stopped, ?_⟩⟩
    rw [adds.admitted, List.append_nil]
  | pass time le => exact ⟨List.prefix_rfl, List.prefix_rfl, id, fun stopped => ⟨stopped, rfl⟩⟩
  | cancel may => exact ⟨List.prefix_rfl, List.prefix_rfl, id, fun _ => ⟨rfl, rfl⟩⟩
  | fail f may =>
    exact ⟨List.prefix_rfl, List.prefix_rfl, fun whole => absurd whole (Option.some_ne_none _),
      fun _ => ⟨rfl, rfl⟩⟩
  | receive b rest next free asks =>
    have adds := History.adds_received r.history r.now b
    rw [← history_receive r b rest] at adds
    refine ⟨⟨_, (history_receive r b rest).symm⟩, List.prefix_rfl, id, fun stopped => ⟨stopped, ?_⟩⟩
    rw [adds.admitted, List.append_nil]
  | refuse b held stopped =>
    exact ⟨List.prefix_rfl, List.prefix_rfl, id, fun stopped => ⟨stopped, rfl⟩⟩
  | accept b held goes room =>
    refine ⟨⟨_, (history_accept r b).symm⟩, List.prefix_rfl, id, fun stopped => ?_⟩
    exact absurd (goes.symm.trans stopped) Bool.false_ne_true
  | start b before after waits turn =>
    obtain ⟨f, hf⟩ : ∃ f : Flight, f = ⟨b, rules.launch r.started r.now b⟩ := ⟨_, rfl⟩
    rw [← hf]
    have adds := History.adds_start r.history r.now f.batch f.plan.opening f.plan.attempt
    rw [← history_start r f (before ++ after)] at adds
    refine ⟨⟨_, (history_start r f (before ++ after)).symm⟩, List.prefix_rfl, id,
      fun stopped => ⟨stopped, ?_⟩⟩
    rw [adds.admitted, List.append_nil]
  | land f rest aloft settled =>
    have adds := History.adds_ended r.history r.now f.batch f.plan.closing
    rw [← history_land r rules.stopOnError f rest] at adds
    refine ⟨⟨_, (history_land r rules.stopOnError f rest).symm⟩, List.prefix_append _ _,
      fun whole => (Option.or_eq_none_iff.mp whole).1, fun stopped => ⟨?_, ?_⟩⟩
    · simp [land, Roster.note, stopped]
    · rw [adds.admitted, List.append_nil]

/-- **Nothing that happened is taken back, and a run that has stopped admits nothing.** -/
theorem Follows.of_moves (moves : Moves rules r r') : r.Follows r' := by
  induction moves with
  | refl => exact .refl r
  | tail _ move ih => exact ih.trans (.of_move move)

/-- A broken run is cancelled. -/
theorem cancelled_of_fault (moves : Moves rules r r')
    (halts : r.fault.isSome = true → r.cancelled = true) (broken : r'.fault.isSome = true) :
    r'.cancelled = true := by
  induction moves with
  | refl => exact halts broken
  | tail _ move ih =>
    cases move with
    | note | pass | receive | refuse | accept | start => exact ih broken
    | cancel | fail => rfl
    | land f rest aloft settled =>
      simp only [Roster.land, Roster.note, Option.isSome_or, Bool.or_eq_true] at broken ⊢
      exact .inl (broken.imp_left ih)

/-- A run that goes on is not broken. -/
theorem whole_of_going {all : List Batch} (moves : Moves rules (initial all) r)
    (goes : r.cancelled = false) : r.fault = none := by
  by_contra broken
  have stopped := cancelled_of_fault moves (fun none => absurd none Bool.false_ne_true)
    (Option.isSome_iff_ne_none.mpr broken)
  exact Bool.false_ne_true (goes.symm.trans stopped)

/-! ## Children -/

/-- Whether the child of a flight is alive at some time. -/
def isAlive (time : Nat) (f : Flight) : Bool :=
  f.plan.attempt.any fun a => a.spawned && decide (a.time ≤ time) && decide (time < a.ended)

theorem Landed.mem_flights {ended : List Flight} (e : r.Landed rules ended) {f : Flight}
    (mem : f ∈ ended) : f ∈ r.history.flights rules.launch := by
  have listed : f ∈ (r.history.flights rules.launch : Multiset Flight) := by
    rw [← e.all]
    exact Multiset.mem_add.mpr (.inl (Multiset.mem_coe.mpr mem))
  exact Multiset.mem_coe.mp listed

theorem raises_of_isAlive {f : Flight} {now time : Nat} (settled : f.plan.SettledBy now)
    (later : now ≤ time) (alive : isAlive time f = true) : f.plan.raises = true := by
  by_contra fine
  obtain ⟨a, tried, living⟩ := (Option.any_eq_true _ _).mp alive
  simp only [Bool.and_eq_true, decide_eq_true_eq] at living
  have := settled (eq_false_of_ne_true fine) a tried living.1.1
  omega

theorem Sound.length_living (s : r.Sound rules all) (time : Nat) :
    (r.history.living time).length = (r.history.flights rules.launch).countP (isAlive time) := by
  rw [History.living, s.attempts, ← List.countP_eq_length_filter, List.countP_filterMap]
  refine List.countP_congr fun f _ => ?_
  simp only [isAlive]
  cases f.plan.attempt <;> simp

/-- A child that is alive belongs to a running launch or to one that has ended. -/
theorem Sound.length_living_le (s : r.Sound rules all) {ended : List Flight}
    (e : r.Landed rules ended) (time : Nat) :
    ((r.history.living time).length : Int) ≤ r.active + ended.countP (isAlive time) := by
  have counted := congrArg (Multiset.countP (isAlive time · = true)) e.all
  simp only [Multiset.countP_add, Multiset.coe_countP, Bool.decide_eq_true] at counted
  change ended.countP (isAlive time) + _ = (r.history.flights rules.launch).countP (isAlive time)
    at counted
  have running : r.running.countP (isAlive time · = true) ≤ r.running.card :=
    Multiset.countP_le_card _ _
  have active := s.active
  rw [s.length_living, ← counted]
  omega

/-- **No more children are alive than there are slots**, if a launch ends before its child only with
an error. -/
theorem Sound.length_living_le_bound (s : r.Sound rules all) (reaps : rules.launch.Reaps) {n : Nat}
    (bound : rules.bound = some n) {time : Nat} (later : r.now ≤ time) :
    (r.history.living time).length ≤ n := by
  obtain ⟨ended, e⟩ := s.landed
  have left : ended.countP (isAlive time) ≤ ended.countP (·.flaw?.isSome) :=
    List.countP_mono_left fun f mem alive =>
      Flight.flaw?_of_raises (raises_of_isAlive (e.settled reaps f mem) later alive)
  have living := s.length_living_le e time
  have slots := e.slots n bound
  omega

/-- **The children that are alive belong to active launches**, if a launch never ends before its
child. -/
theorem Sound.length_living_le_active (s : r.Sound rules all) (reaps : rules.launch.Reaps)
    (attends : rules.launch.Attends) {time : Nat} (later : r.now ≤ time) :
    ((r.history.living time).length : Int) ≤ r.active := by
  obtain ⟨ended, e⟩ := s.landed
  have gone : ended.countP (isAlive time) = 0 := by
    rw [List.countP_eq_zero]
    intro f mem alive
    have raises := raises_of_isAlive (e.settled reaps f mem) later alive
    obtain ⟨ordinal, start, plan⟩ := History.plan_of_mem_flights (e.mem_flights mem)
    obtain ⟨a, tried, living⟩ := (Option.any_eq_true _ _).mp alive
    rw [plan] at raises tried
    simp [attends ordinal start f.batch raises a tried] at living
  have living := s.length_living_le e time
  omega

/-! ## Positions -/

/-- The batches that have got a slot are the first ones of the source. -/
theorem Sound.admitted_prefix (s : r.Sound rules all) : r.history.admitted <+: all := by
  refine List.IsPrefix.trans ?_ ⟨r.left, s.source⟩
  cases refused : r.refused with
  | false => exact ⟨_, (s.going refused).symm⟩
  | true =>
    obtain ⟨-, -, b, turned⟩ := s.shut refused
    exact ⟨_, turned.symm⟩

/-- At most one batch has come out of the source and has got no slot. -/
theorem Sound.length_received (s : r.Sound rules all) :
    r.history.admitted.length ≤ r.history.received.length ∧
      r.history.received.length ≤ r.history.admitted.length + 1 := by
  cases refused : r.refused with
  | false =>
    rw [s.going refused, List.length_append]
    cases r.held <;> simp
  | true =>
    obtain ⟨-, -, b, turned⟩ := s.shut refused
    rw [turned, List.length_append, List.length_singleton]
    omega

/-- When an active launch lands, it leaves fewer launches active than there are slots. -/
theorem Sound.room (s : r.Sound rules all) (held : 0 < r.active) :
    0 ≤ r.active - 1 ∧ ∀ n, rules.bound = some n → r.active - 1 < n := by
  refine ⟨by omega, fun n bound => ?_⟩
  have most := s.bounded n bound
  have peak := s.peak
  omega

theorem Sound.mem_all (s : r.Sound rules all) {f : Flight}
    (mem : f ∈ r.history.flights rules.launch) : f.batch ∈ all := by
  have started : f.batch ∈ r.history.launched := by
    rw [← History.map_batch_flights rules.launch]
    exact List.mem_map_of_mem mem
  exact s.admitted_prefix.subset (s.slotted.subset (List.mem_append_left _ started))

/-- Every flight brings a result, if the launches deliver. -/
theorem Sound.result?_isSome (s : r.Sound rules all) (delivers : rules.launch.Delivers all)
    {f : Flight} (mem : f ∈ r.history.flights rules.launch) : f.result?.isSome = true :=
  delivers.result? (s.mem_all mem) (History.plan_of_mem_flights mem)

/-- Every launch that has started is running or has ended. -/
theorem Sound.length_running (s : r.Sound rules all) :
    r.history.landed.length + r.running.card = r.history.launched.length := by
  obtain ⟨ended, e⟩ := s.landed
  have counted := congrArg Multiset.card e.all
  rw [Multiset.card_add, Multiset.coe_card, Multiset.coe_card, History.length_flights] at counted
  rw [e.batches, List.length_map, counted, History.launched, List.length_map]

/-- A run whose launches deliver and whose receiver of events is calm does not break. -/
theorem Sound.fault_eq_none (s : r.Sound rules all) (delivers : rules.launch.Delivers all)
    (calm : ¬ rules.breaks) : r.fault = none := by
  obtain ⟨ended, e⟩ := s.landed
  by_contra broken
  rcases e.flaw (Option.isSome_iff_ne_none.mpr broken) with may | ⟨f, mem, flawed⟩
  · exact calm may
  · have brings := s.result?_isSome delivers (e.mem_flights mem)
    rw [(f.result?_isSome_iff).mp brings] at flawed
    exact absurd flawed Bool.false_ne_true

/-- A run that does not break ends with the summary of its results. -/
theorem Sound.verdict_eq (s : r.Sound rules all) (delivers : rules.launch.Delivers all)
    (calm : ¬ rules.breaks) {feed : Feed} (whole : feed.failure = none) :
    r.verdict feed = .ok (Summary.ofCompleted r.completed r.refused (.upTo r.now) r.peak) := by
  unfold verdict Feed.verdict
  rw [s.fault_eq_none delivers calm, whole, ite_self]

/-- The results so far are those of the launches that have ended, if the run is not broken. -/
theorem Sound.index_completed (s : r.Sound rules all) (whole : r.fault = none) :
    r.completed.map Result.index = r.history.landed.map Batch.index := by
  obtain ⟨ended, e⟩ := s.landed
  have brings : ∀ f ∈ ended, f.result?.isSome = true := fun f mem =>
    f.result?_isSome_iff.mpr (e.clean whole f mem)
  rw [e.results, e.batches, List.map_map]
  exact Flight.map_index_results brings

/-- Every launch that has started is running or has brought a result, if the run is not broken. -/
theorem Sound.length_completed (s : r.Sound rules all) (whole : r.fault = none) :
    r.completed.length + r.running.card = r.history.launched.length := by
  have landed := congrArg List.length (s.index_completed whole)
  rw [List.length_map, List.length_map] at landed
  rw [landed, s.length_running]

/-- When as many launches are active as there are slots, and none waits to start, so many are
running. -/
theorem Sound.running_of_full (s : r.Sound rules all) {n : Nat} (limited : rules.bound = some n)
    (full : n ≤ r.active) (waiting : r.waiting = []) : r.running.card = n := by
  have active := s.active
  have peak := s.peak
  have bounded := s.bounded n limited
  rw [waiting, List.length_nil] at active
  omega

/-- No more batches have a slot and have not started than there are slots. -/
theorem Sound.length_admitted_le (s : r.Sound rules all) {n : Nat} (bound : rules.bound = some n) :
    r.history.admitted.length ≤ r.history.launched.length + n := by
  have slotted := s.slotted.length_eq
  rw [List.length_append] at slotted
  have active := s.active
  have bounded := s.bounded n bound
  have peak := s.peak
  omega

/-! ## Rest -/

/-- Nothing is under way. -/
structure Rests (r : Roster) : Prop where
  running : r.running = 0
  waiting : r.waiting = []
  held : r.held = none
  left : r.refused = false → r.left = []

/-- At rest the launches of all batches that have got a slot have started. -/
theorem Sound.launched_perm (s : r.Sound rules all) (rests : r.Rests) :
    r.history.launched.Perm r.history.admitted := by
  have slotted := s.slotted
  rwa [rests.waiting, List.append_nil] at slotted

theorem Sound.launchesAdmitted (s : r.Sound rules all) (rests : r.Rests) :
    r.history.LaunchesAdmitted rules.overtakes where
  all := s.launched_perm rests
  order := fun orderly => by rw [← s.order orderly, rests.waiting, List.append_nil]

/-- At rest every batch has got a slot, unless one has been turned away. -/
theorem Sound.admitted_of_rests (s : r.Sound rules all) (rests : r.Rests)
    (asks : r.refused = false) : r.history.admitted = all := by
  have handed := s.source
  rwa [rests.left asks, List.append_nil, s.going asks, rests.held, Option.toList_none,
    List.append_nil] at handed

theorem Sound.active_of_rests (s : r.Sound rules all) (rests : r.Rests) : r.active = 0 := by
  rw [s.active, rests.waiting, rests.running]
  rfl

/-- At rest a batch has been turned away if and only if some batch has not started. -/
theorem Sound.refused_iff (s : r.Sound rules all) (rests : r.Rests) :
    r.refused = true ↔ r.history.launched.length < all.length := by
  rw [(s.launched_perm rests).length_eq, ← s.source, List.length_append]
  cases refused : r.refused with
  | false =>
    rw [s.going refused, rests.held, rests.left refused, Option.toList_none, List.append_nil,
      List.length_nil]
    simp
  | true =>
    obtain ⟨-, -, b, turned⟩ := s.shut refused
    rw [turned, List.length_append, List.length_singleton]
    simp
    omega

/-- At rest every launch has ended. -/
theorem Sound.landed_perm (s : r.Sound rules all) (rests : r.Rests) :
    ∃ ended, r.Landed rules ended ∧ ended.Perm (r.history.flights rules.launch) := by
  obtain ⟨ended, e⟩ := s.landed
  refine ⟨ended, e, Multiset.coe_eq_coe.mp ?_⟩
  rw [← e.all, rests.running, Multiset.add_zero]

/-- At rest a run in which a launch has raised an error is broken. -/
theorem Sound.fault_isSome_of_raises (s : r.Sound rules all) (rests : r.Rests) {f : Flight}
    (mem : f ∈ r.history.flights rules.launch) (raises : f.plan.raises = true) :
    r.fault.isSome = true := by
  obtain ⟨ended, e, perm⟩ := s.landed_perm rests
  by_contra whole
  have clean := e.clean (Option.not_isSome_iff_eq_none.mp whole) f (perm.mem_iff.mpr mem)
  have flawed := Flight.flaw?_of_raises raises
  rw [clean] at flawed
  contradiction

/-- At rest the results are those of the launches. -/
theorem Sound.completed_perm (s : r.Sound rules all) (rests : r.Rests) :
    r.completed.Perm ((r.history.flights rules.launch).filterMap Flight.result?) := by
  obtain ⟨ended, e, perm⟩ := s.landed_perm rests
  rw [e.results]
  exact perm.filterMap _

/-- At rest the launches of all batches that have got a slot have ended. -/
theorem Sound.landed_perm_admitted (s : r.Sound rules all) (rests : r.Rests) :
    r.history.landed.Perm r.history.admitted := by
  obtain ⟨ended, e, perm⟩ := s.landed_perm rests
  have launched := s.launched_perm rests
  rw [← History.map_batch_flights rules.launch] at launched
  rw [e.batches]
  exact (perm.map _).trans launched

end Roster

end BatchExec
