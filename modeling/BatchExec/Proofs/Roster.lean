import BatchExec.Proofs.Flight
import Mathlib.Data.Multiset.AddSub
import Mathlib.Logic.Relation

/-!
# The roster of a run

A blocking and an event-driven run keep their books in different ways. Both come down to a roster,
which says where each batch of the source is: still in the source, waiting for a slot, admitted, in
flight or ended. Whatever a schedule does is a chain of moves of its roster.

* `Roster`, `Roster.Move`: the positions of all batches, and the single moves.
* `Roster.Sound`: the positions fit the history, the counters and the number of slots.
* `Roster.Sound.of_moves`: **every chain of moves keeps a roster sound.**
-/

namespace BatchExec

/-- What a run goes by: these do not change in its course. -/
structure Rules where
  launch : Launcher
  /-- The number of slots, if it is limited. -/
  bound : Option Nat
  /-- Whether a result that is no success stops the run. -/
  stopOnError : Bool
  /-- Whether somebody may cancel the run. -/
  cancels : Prop
  /-- Whether the receiver of events may break the run. -/
  breaks : Prop
  /-- Whether a launch may start before that of a batch that has got its slot earlier. -/
  overtakes : Prop

/-- The rules allow for whatever the launches and the receiver of events may do to a run. -/
structure Rules.Allow (rules : Rules) (listener : Listener) : Prop where
  positive : rules.bound ≠ some 0
  plans : ∀ ordinal time b, (rules.launch ordinal time b).cancels = true → rules.cancels
  signals : ∀ ordinal time b, (rules.launch ordinal time b).signal.isSome = true → rules.cancels
  reacts : ∀ react ∈ listener, ∀ e, (react e).cancels = true → rules.cancels
  raises : ∀ react ∈ listener, ∀ e, (react e).raises.isSome = true → rules.breaks

/-- Where the batches of a run are. -/
structure Roster where
  now : Nat
  /-- The batches that the source has not handed over. -/
  left : List Batch
  /-- The batch that waits for a slot. -/
  held : Option Batch
  /-- Whether a batch has been turned away. -/
  refused : Bool
  /-- The batches that have a slot but have not started, in order. -/
  waiting : List Batch
  running : Multiset Flight
  /-- The number of launches that have started. -/
  started : Nat
  active : Int
  peak : Int
  completed : List Result
  cancelled : Bool
  fault : Option Fault
  /-- What has happened, the latest first. -/
  past : List Entry

namespace Roster

/-- What has happened so far, in order. -/
def history (r : Roster) : History := r.past.reverse

/-! ## Moves -/

/-- Adds to the history what happens now. -/
def note (r : Roster) (happenings : List Happening) : Roster :=
  { r with past := (happenings.map (⟨r.now, ·⟩)).reverse ++ r.past }

/-- Lets time pass. -/
def pass (r : Roster) (time : Nat) : Roster := { r with now := time }

/-- Stops the run. -/
def cancel (r : Roster) : Roster := { r with cancelled := true }

/-- Takes note of a fault, which stops the run. -/
def fail (r : Roster) (f : Fault) : Roster :=
  { r with fault := some (r.fault.getD f), cancelled := true }

/-- The source hands over a batch and has these left. -/
def receive (r : Roster) (b : Batch) (rest : List Batch) : Roster :=
  note { r with left := rest, held := some b } [.received b]

/-- The batch that waits for a slot is turned away. -/
def refuse (r : Roster) : Roster := { r with held := none, refused := true }

/-- A batch gets a slot. -/
def accept (r : Roster) (b : Batch) : Roster :=
  note
    { r with
      held := none
      waiting := r.waiting ++ [b]
      active := r.active + 1
      peak := max r.peak (r.active + 1) }
    [.admitted b (r.active + 1)]

/-- A launch starts, and these wait on. -/
def start (r : Roster) (f : Flight) (rest : List Batch) : Roster :=
  note { r with waiting := rest, running := f ::ₘ r.running, started := r.started + 1 }
    (.started f.batch :: f.plan.opening.map .remarked ++ f.plan.attempt.toList.map .attempted)

/-- A launch ends, and these fly on. -/
def land (r : Roster) (stopOnError : Bool) (f : Flight) (rest : Multiset Flight) : Roster :=
  note
    { r with
      running := rest
      active := r.active - 1
      completed := r.completed ++ f.result?.toList
      fault := r.fault.or f.flaw?
      cancelled := r.cancelled || f.flaw?.isSome || stopOnError && f.fails }
    (.ended f.batch :: f.plan.closing.map .remarked)

/-- One move of a roster. -/
inductive Move (rules : Rules) : Roster → Roster → Prop where
  | note (r : Roster) (happenings : List Happening)
      (quiet : ∀ e ∈ happenings, e.isQuiet = true) : Move rules r (r.note happenings)
  | pass (r : Roster) (time : Nat) (le : r.now ≤ time) : Move rules r (r.pass time)
  | cancel (r : Roster) (may : rules.cancels) : Move rules r r.cancel
  | fail (r : Roster) (f : Fault) (may : rules.breaks) : Move rules r (r.fail f)
  | receive (r : Roster) (b : Batch) (rest : List Batch) (next : r.left = b :: rest)
      (free : r.held = none) (asks : r.refused = false) : Move rules r (r.receive b rest)
  | refuse (r : Roster) (b : Batch) (held : r.held = some b) (stopped : r.cancelled = true) :
      Move rules r r.refuse
  | accept (r : Roster) (b : Batch) (held : r.held = some b) (goes : r.cancelled = false)
      (room : ∀ n, rules.bound = some n → r.active < n) : Move rules r (r.accept b)
  | start (r : Roster) (b : Batch) (before after : List Batch)
      (waits : r.waiting = before ++ b :: after) (turn : before = [] ∨ rules.overtakes) :
      Move rules r (r.start ⟨b, rules.launch r.started r.now b⟩ (before ++ after))
  | land (r : Roster) (f : Flight) (rest : Multiset Flight) (aloft : r.running = f ::ₘ rest)
      (settled : rules.launch.Reaps → f.plan.SettledBy r.now) :
      Move rules r (r.land rules.stopOnError f rest)

/-- A chain of moves. -/
abbrev Moves (rules : Rules) : Roster → Roster → Prop := Relation.ReflTransGen (Move rules)

theorem history_note (r : Roster) (happenings : List Happening) :
    (r.note happenings).history = r.history ++ happenings.map (⟨r.now, ·⟩) := by
  simp [history, note]

theorem history_receive (r : Roster) (b : Batch) (rest : List Batch) :
    (r.receive b rest).history = r.history ++ [⟨r.now, .received b⟩] :=
  history_note { r with left := rest, held := some b } _

theorem history_accept (r : Roster) (b : Batch) :
    (r.accept b).history = r.history ++ [⟨r.now, .admitted b (r.active + 1)⟩] := by
  rw [accept, history_note]
  rfl

theorem history_start (r : Roster) (f : Flight) (rest : List Batch) :
    (r.start f rest).history = r.history ++ (Happening.started f.batch ::
      f.plan.opening.map Happening.remarked ++ f.plan.attempt.toList.map Happening.attempted).map
        (⟨r.now, ·⟩) := by
  rw [start, history_note]
  rfl

theorem history_land (r : Roster) (stopOnError : Bool) (f : Flight) (rest : Multiset Flight) :
    (r.land stopOnError f rest).history = r.history ++ (Happening.ended f.batch ::
      f.plan.closing.map Happening.remarked).map (⟨r.now, ·⟩) := by
  rw [land, history_note]
  rfl

theorem note_append (r : Roster) (first second : List Happening) :
    r.note (first ++ second) = (r.note first).note second := by
  simp [note]

/-! ## Sound rosters -/

/-- These flights have ended, in this order. -/
structure Landed (rules : Rules) (r : Roster) (ended : List Flight) : Prop where
  all : (ended : Multiset Flight) + r.running = (r.history.flights rules.launch : Multiset Flight)
  batches : r.history.landed = ended.map Flight.batch
  results : r.completed = ended.filterMap Flight.result?
  settled : rules.launch.Reaps → ∀ f ∈ ended, f.plan.SettledBy r.now
  flaw : r.fault.isSome = true → rules.breaks ∨ ∃ f ∈ ended, f.flaw?.isSome = true
  clean : r.fault = none → ∀ f ∈ ended, f.flaw? = none
  grounds : ∀ f ∈ ended, f.flaw?.isSome = true → r.cancelled = true
  /-- After a flight with a flaw its slot stays empty. -/
  slots : ∀ n, rules.bound = some n → (ended.countP (·.flaw?.isSome) : Int) + r.active ≤ n

/-- The positions of the batches of a source fit the history, the counters and the slots. -/
structure Sound (rules : Rules) (all : List Batch) (r : Roster) : Prop where
  landed : ∃ ended, r.Landed rules ended
  source : r.history.received ++ r.left = all
  going : r.refused = false → r.history.received = r.history.admitted ++ r.held.toList
  shut : r.refused = true →
    r.held = none ∧ r.cancelled = true ∧ ∃ b, r.history.received = r.history.admitted ++ [b]
  /-- Every batch that has a slot has been launched or waits, -/
  slotted : (r.history.launched ++ r.waiting).Perm r.history.admitted
  /-- in the order in which they have got their slots unless launches overtake others. -/
  order : ¬ rules.overtakes → r.history.launched ++ r.waiting = r.history.admitted
  started : r.started = r.history.starts.length
  attempts : r.history.attempts = (r.history.flights rules.launch).filterMap (·.plan.attempt)
  active : r.active = r.waiting.length + r.running.card
  bounded : ∀ n, rules.bound = some n → r.peak ≤ n
  peak : r.active ≤ r.peak
  cause : r.cancelled = true →
    rules.cancels ∨ rules.stopOnError = true ∨ r.fault.isSome = true
  /-- After the first result that is no success no more come in than launches were running. -/
  stops : rules.stopOnError = true → ∀ before x after, r.completed = before ++ x :: after →
    x.success = false → r.cancelled = true ∧
      ∀ n, rules.bound = some n → after.length + r.active < n

variable {rules : Rules} {all : List Batch} {r r' : Roster}

theorem Sound.plan_of_mem (s : r.Sound rules all) {f : Flight} (mem : f ∈ r.running) :
    ∃ ordinal time, f.plan = rules.launch ordinal time f.batch := by
  obtain ⟨ended, e⟩ := s.landed
  have listed : f ∈ (r.history.flights rules.launch : Multiset Flight) := by
    rw [← e.all]
    exact Multiset.mem_add.mpr (.inr mem)
  exact History.plan_of_mem_flights (Multiset.mem_coe.mp listed)

/-- A running launch is active. -/
theorem Sound.active_pos_of_running (s : r.Sound rules all) {f : Flight} (aloft : f ∈ r.running) :
    0 < r.active := by
  have active := s.active
  have some : 0 < r.running.card := Multiset.card_pos_iff_exists_mem.mpr ⟨f, aloft⟩
  omega

/-- A launch that has a slot but has not started is active. -/
theorem Sound.active_pos_of_waiting (s : r.Sound rules all) {b : Batch} (waits : b ∈ r.waiting) :
    0 < r.active := by
  have active := s.active
  have some : 0 < r.waiting.length := List.length_pos_of_mem waits
  omega

/-! ## Moves that move no batch on -/

theorem Sound.note (s : r.Sound rules all) {happenings : List Happening}
    (quiet : ∀ e ∈ happenings, e.isQuiet = true) : (r.note happenings).Sound rules all := by
  have adds := History.adds_of_quiet r.history quiet r.now
  rw [← history_note] at adds
  have flights := adds.flights_eq rules.launch
  obtain ⟨received, admitted, starts, landed, attempts⟩ := adds
  rw [List.append_nil] at received admitted starts landed attempts
  obtain ⟨ended, e⟩ := s.landed
  refine { s with landed := ⟨ended, { e with all := ?_, batches := ?_ }⟩, source := ?_, going := ?_,
                  shut := ?_, slotted := ?_, order := ?_, started := ?_, attempts := ?_ }
  · rw [flights]; exact e.all
  · rw [landed]; exact e.batches
  · rw [received]; exact s.source
  · rw [received, admitted]; exact s.going
  · rw [received, admitted]; exact s.shut
  · rw [History.launched, starts, admitted]; exact s.slotted
  · rw [History.launched, starts, admitted]; exact s.order
  · rw [starts]; exact s.started
  · rw [attempts, flights]; exact s.attempts

theorem Sound.pass (s : r.Sound rules all) {time : Nat} (le : r.now ≤ time) :
    (r.pass time).Sound rules all := by
  obtain ⟨ended, e⟩ := s.landed
  exact { s with
    landed := ⟨ended, { e with settled := fun reaps f mem => (e.settled reaps f mem).mono le }⟩ }

theorem Sound.cancel (s : r.Sound rules all) (may : rules.cancels) : r.cancel.Sound rules all := by
  obtain ⟨ended, e⟩ := s.landed
  refine { s with landed := ⟨ended, { e with grounds := fun _ _ _ => rfl }⟩, shut := ?_,
                  cause := ?_, stops := ?_ }
  · intro refused
    exact ⟨(s.shut refused).1, rfl, (s.shut refused).2.2⟩
  · exact fun _ => .inl may
  · intro stop before x after split failed
    exact ⟨rfl, (s.stops stop before x after split failed).2⟩

theorem Sound.fail (s : r.Sound rules all) (f : Fault) (may : rules.breaks) :
    (r.fail f).Sound rules all := by
  obtain ⟨ended, e⟩ := s.landed
  refine { s with landed := ⟨ended, { e with
                    flaw := fun _ => .inl may
                    clean := fun whole => absurd whole (Option.some_ne_none _)
                    grounds := fun _ _ _ => rfl }⟩
                  shut := ?_, cause := ?_, stops := ?_ }
  · intro refused
    exact ⟨(s.shut refused).1, rfl, (s.shut refused).2.2⟩
  · exact fun _ => .inr (.inr rfl)
  · intro stop before x after split failed
    exact ⟨rfl, (s.stops stop before x after split failed).2⟩

/-! ## Moves of a batch -/

theorem Sound.asks_of_held (s : r.Sound rules all) {b : Batch} (held : r.held = some b) :
    r.refused = false := by
  by_contra refused
  have free := (s.shut (eq_true_of_ne_false refused)).1
  exact Option.some_ne_none b (held.symm.trans free)

theorem Sound.receive (s : r.Sound rules all) {b : Batch} {rest : List Batch}
    (next : r.left = b :: rest) (free : r.held = none) (asks : r.refused = false) :
    (r.receive b rest).Sound rules all := by
  have adds := History.adds_received r.history r.now b
  rw [← history_receive r b rest] at adds
  have flights := adds.flights_eq rules.launch
  obtain ⟨received, admitted, starts, landed, attempts⟩ := adds
  rw [List.append_nil] at admitted starts landed attempts
  obtain ⟨ended, e⟩ := s.landed
  refine { s with landed := ⟨ended, { e with all := ?_, batches := ?_ }⟩, source := ?_, going := ?_,
                  shut := ?_, slotted := ?_, order := ?_, started := ?_, attempts := ?_ }
  · rw [flights]; exact e.all
  · rw [landed]; exact e.batches
  · rw [received, List.append_assoc]
    have split := s.source
    rwa [next] at split
  · intro _
    have before := s.going asks
    rw [free, Option.toList_none, List.append_nil] at before
    rw [received, admitted, before]
    rfl
  · intro refused
    exact absurd (asks.symm.trans refused) Bool.false_ne_true
  · rw [History.launched, starts, admitted]; exact s.slotted
  · rw [History.launched, starts, admitted]; exact s.order
  · rw [starts]; exact s.started
  · rw [attempts, flights]; exact s.attempts

theorem Sound.refuse (s : r.Sound rules all) {b : Batch} (held : r.held = some b)
    (stopped : r.cancelled = true) : r.refuse.Sound rules all := by
  have before := s.going (s.asks_of_held held)
  rw [held, Option.toList_some] at before
  obtain ⟨ended, e⟩ := s.landed
  refine { s with landed := ⟨ended, { e with }⟩, going := ?_, shut := ?_ }
  · intro asks
    exact absurd asks.symm Bool.false_ne_true
  · exact fun _ => ⟨rfl, stopped, b, before⟩

theorem Sound.accept (s : r.Sound rules all) {b : Batch} (held : r.held = some b)
    (goes : r.cancelled = false) (room : ∀ n, rules.bound = some n → r.active < n) :
    (r.accept b).Sound rules all := by
  have asks := s.asks_of_held held
  have adds := History.adds_admitted r.history r.now b (r.active + 1)
  rw [← history_accept r b] at adds
  have flights := adds.flights_eq rules.launch
  obtain ⟨received, admitted, starts, landed, attempts⟩ := adds
  rw [List.append_nil] at received starts landed attempts
  obtain ⟨ended, e⟩ := s.landed
  have sane : ended.countP (·.flaw?.isSome) = 0 := List.countP_eq_zero.mpr fun f mem flawed =>
    Bool.false_ne_true (goes.symm.trans (e.grounds f mem flawed))
  refine { s with landed := ⟨ended, { e with all := ?_, batches := ?_, slots := ?_ }⟩
                  source := ?_, going := ?_, shut := ?_, slotted := ?_, order := ?_
                  started := ?_, attempts := ?_, active := ?_, bounded := ?_, peak := ?_
                  stops := ?_ }
  · rw [flights]; exact e.all
  · rw [landed]; exact e.batches
  · intro n slots
    have free := room n slots
    simp only [sane, Roster.accept, Roster.note]
    omega
  · rw [received]; exact s.source
  · intro _
    have before := s.going asks
    rw [held, Option.toList_some] at before
    rw [received, admitted, before]
    exact (List.append_nil _).symm
  · intro refused
    exact absurd (asks.symm.trans refused) Bool.false_ne_true
  · rw [History.launched, starts, admitted]
    exact (List.append_assoc _ r.waiting [b]).symm ▸ s.slotted.append_right [b]
  · intro orderly
    rw [History.launched, starts, admitted, ← s.order orderly, List.append_assoc]
    rfl
  · rw [starts]; exact s.started
  · rw [attempts, flights]; exact s.attempts
  · have before := s.active
    simp only [Roster.accept, Roster.note, List.length_append, List.length_singleton]
    omega
  · intro n slots
    have free := room n slots
    have most := s.bounded n slots
    simp only [Roster.accept, Roster.note]
    omega
  · simp only [Roster.accept, Roster.note]
    omega
  · intro stop before x after split failed
    have stopped := (s.stops stop before x after split failed).1
    exact absurd (goes.symm.trans stopped) Bool.false_ne_true

/-- The launcher is asked for the launch that starts. -/
theorem Sound.flights_start (s : r.Sound rules all) (b : Batch) (rest : List Batch) :
    (r.start ⟨b, rules.launch r.started r.now b⟩ rest).history.flights rules.launch =
      r.history.flights rules.launch ++ [⟨b, rules.launch r.started r.now b⟩] := by
  have adds := History.adds_start r.history r.now b (rules.launch r.started r.now b).opening
    (rules.launch r.started r.now b).attempt
  rw [← history_start r ⟨b, rules.launch r.started r.now b⟩ rest] at adds
  rw [History.flights, adds.starts, List.mapIdx_concat, ← s.started]
  rfl

theorem Sound.start (s : r.Sound rules all) {b : Batch} {before after : List Batch}
    (waits : r.waiting = before ++ b :: after) (turn : before = [] ∨ rules.overtakes) :
    (r.start ⟨b, rules.launch r.started r.now b⟩ (before ++ after)).Sound rules all := by
  obtain ⟨f, hf⟩ : ∃ f : Flight, f = ⟨b, rules.launch r.started r.now b⟩ := ⟨_, rfl⟩
  rw [← hf]
  have adds := History.adds_start r.history r.now f.batch f.plan.opening f.plan.attempt
  rw [← history_start r f (before ++ after)] at adds
  obtain ⟨received, admitted, starts, landed, attempts⟩ := adds
  rw [List.append_nil] at received admitted landed
  have flights : (r.start f (before ++ after)).history.flights rules.launch =
      r.history.flights rules.launch ++ [f] := by
    rw [hf]
    exact s.flights_start b (before ++ after)
  have launched : (r.start f (before ++ after)).history.launched = r.history.launched ++ [b] := by
    rw [History.launched, starts, List.map_append, hf]
    rfl
  obtain ⟨ended, e⟩ := s.landed
  refine { s with landed := ⟨ended, { e with all := ?_, batches := ?_ }⟩, source := ?_, going := ?_,
                  shut := ?_, slotted := ?_, order := ?_, started := ?_, attempts := ?_,
                  active := ?_ }
  · rw [flights, ← Multiset.coe_add, ← e.all, Multiset.add_assoc, Multiset.coe_singleton,
      Multiset.add_comm r.running, Multiset.singleton_add]
    rfl
  · rw [landed]; exact e.batches
  · rw [received]; exact s.source
  · rw [received, admitted]; exact s.going
  · rw [received, admitted]; exact s.shut
  · rw [launched, admitted, List.append_assoc]
    refine .trans (.append_left _ ?_) s.slotted
    rw [waits]
    show (b :: (before ++ after)).Perm _
    exact List.perm_middle.symm
  · intro orderly
    obtain rfl := turn.resolve_right orderly
    rw [launched, admitted, ← s.order orderly, waits, List.append_assoc]
    rfl
  · rw [starts, List.length_append, ← s.started]
    rfl
  · rw [attempts, flights, List.filterMap_append, ← s.attempts]
    cases tried : f.plan.attempt <;> simp [tried]
  · have busy := s.active
    rw [waits, List.length_append, List.length_cons] at busy
    simp only [Roster.start, Roster.note, Multiset.card_cons, List.length_append]
    omega

/-- A launch that ends moves on to the flights that have ended. -/
theorem Landed.land {ended : List Flight} (e : r.Landed rules ended) {f : Flight}
    {rest : Multiset Flight} (aloft : r.running = f ::ₘ rest)
    (settled : rules.launch.Reaps → f.plan.SettledBy r.now) :
    (r.land rules.stopOnError f rest).Landed rules (ended ++ [f]) := by
  have adds := History.adds_ended r.history r.now f.batch f.plan.closing
  rw [← history_land r rules.stopOnError f rest] at adds
  refine ⟨?_, ?_, ?_, ?_, ?_, ?_, ?_, ?_⟩
  · rw [adds.flights_eq, ← e.all, aloft, ← Multiset.coe_add, Multiset.add_assoc]
    rfl
  · rw [adds.landed, e.batches, List.map_append]
    rfl
  · have before := e.results
    simp only [Roster.land, Roster.note, List.filterMap_append, before]
    cases result : f.result? <;> simp [result]
  · intro reaps g mem
    rcases List.mem_append.mp mem with old | new
    · exact e.settled reaps g old
    · rw [List.mem_singleton.mp new]
      exact settled reaps
  · intro broken
    cases flaw : f.flaw? with
    | some fault => exact .inr ⟨f, by simp, by simp [flaw]⟩
    | none =>
      have earlier : r.fault.isSome = true := by
        simpa [Roster.land, Roster.note, flaw] using broken
      rcases e.flaw earlier with may | ⟨g, mem, flawed⟩
      · exact .inl may
      · exact .inr ⟨g, List.mem_append_left _ mem, flawed⟩
  · intro whole g mem
    obtain ⟨earlier, own⟩ := Option.or_eq_none_iff.mp whole
    rcases List.mem_append.mp mem with old | new
    · exact e.clean earlier g old
    · rw [List.mem_singleton.mp new]
      exact own
  · intro g mem flawed
    simp only [Roster.land, Roster.note, Bool.or_eq_true]
    rcases List.mem_append.mp mem with old | new
    · exact .inl (.inl (e.grounds g old flawed))
    · rw [List.mem_singleton.mp new] at flawed
      exact .inl (.inr flawed)
  · intro n bound
    have before := e.slots n bound
    have counted : (ended ++ [f]).countP (·.flaw?.isSome) ≤ ended.countP (·.flaw?.isSome) + 1 := by
      rw [List.countP_append]
      exact Nat.add_le_add_left List.countP_le_length _
    simp only [Roster.land, Roster.note]
    omega

/-- After the first result that is no success, one more result leaves one launch less. -/
theorem Sound.stops_land (s : r.Sound rules all) (f : Flight) (stop : rules.stopOnError = true)
    {before after : List Result} {x : Result}
    (split : r.completed ++ f.result?.toList = before ++ x :: after) (failed : x.success = false) :
    (r.cancelled = true ∨ f.fails = true) ∧
      ∀ n, rules.bound = some n → after.length + (r.active - 1) < n := by
  have most := s.peak
  cases result : f.result? with
  | none =>
    rw [result, Option.toList_none, List.append_nil] at split
    obtain ⟨stopped, few⟩ := s.stops stop before x after split failed
    refine ⟨.inl stopped, fun n slots => ?_⟩
    have := few n slots
    omega
  | some y =>
    rw [result, Option.toList_some] at split
    -- the failed result is the one that comes in, or an earlier one
    rcases List.eq_nil_or_concat after with rfl | ⟨earlier, z, rfl⟩
    · obtain ⟨-, same⟩ := List.append_inj' split rfl
      obtain rfl : y = x := List.singleton_inj.mp same
      refine ⟨.inr (by simp [Flight.fails, result, failed]), fun n slots => ?_⟩
      have := s.bounded n slots
      simp only [List.length_nil]
      omega
    · rw [List.concat_eq_append, ← List.cons_append, ← List.append_assoc] at split
      obtain ⟨old, -⟩ := List.append_inj' split rfl
      obtain ⟨stopped, few⟩ := s.stops stop before x earlier old failed
      refine ⟨.inl stopped, fun n slots => ?_⟩
      have := few n slots
      simp only [List.concat_eq_append, List.length_append, List.length_singleton]
      omega

theorem Sound.land (s : r.Sound rules all) {f : Flight} {rest : Multiset Flight}
    (aloft : r.running = f ::ₘ rest) (settled : rules.launch.Reaps → f.plan.SettledBy r.now) :
    (r.land rules.stopOnError f rest).Sound rules all := by
  have adds := History.adds_ended r.history r.now f.batch f.plan.closing
  rw [← history_land r rules.stopOnError f rest] at adds
  have flights := adds.flights_eq rules.launch
  obtain ⟨received, admitted, starts, -, attempts⟩ := adds
  rw [List.append_nil] at received admitted starts attempts
  obtain ⟨ended, e⟩ := s.landed
  refine { s with landed := ⟨ended ++ [f], e.land aloft settled⟩, source := ?_, going := ?_,
                  shut := ?_, slotted := ?_, order := ?_, started := ?_, attempts := ?_,
                  active := ?_, peak := ?_, cause := ?_, stops := ?_ }
  · rw [received]; exact s.source
  · rw [received, admitted]; exact s.going
  · intro refused
    rw [received, admitted]
    obtain ⟨free, stopped, turned⟩ := s.shut refused
    exact ⟨free, by simp [Roster.land, Roster.note, stopped], turned⟩
  · rw [History.launched, starts, admitted]; exact s.slotted
  · rw [History.launched, starts, admitted]; exact s.order
  · rw [starts]; exact s.started
  · rw [attempts, flights]; exact s.attempts
  · have before := s.active
    rw [aloft, Multiset.card_cons] at before
    simp only [Roster.land, Roster.note]
    omega
  · have most := s.peak
    simp only [Roster.land, Roster.note]
    omega
  · intro stopped
    simp only [Roster.land, Roster.note, Bool.or_eq_true, Bool.and_eq_true] at stopped ⊢
    rcases stopped with (before | flawed) | ⟨stop, _⟩
    · rcases s.cause before with may | stop | broken
      · exact .inl may
      · exact .inr (.inl stop)
      · exact .inr (.inr (by simp [broken]))
    · exact .inr (.inr (by simp [flawed]))
    · exact .inr (.inl stop)
  · intro stop before x after split failed
    obtain ⟨stopped, few⟩ := s.stops_land f stop split failed
    refine ⟨?_, few⟩
    simp only [Roster.land, Roster.note, stop, Bool.true_and, Bool.or_eq_true]
    exact stopped.elim (.inl ∘ .inl) .inr

/-! ## Chains of moves -/

theorem Sound.of_move (move : Move rules r r') (s : r.Sound rules all) : r'.Sound rules all := by
  cases move with
  | note happenings quiet => exact s.note quiet
  | pass time le => exact s.pass le
  | cancel may => exact s.cancel may
  | fail f may => exact s.fail f may
  | receive b rest next free asks => exact s.receive next free asks
  | refuse b held stopped => exact s.refuse held stopped
  | accept b held goes room => exact s.accept held goes room
  | start b before after waits turn => exact s.start waits turn
  | land f rest aloft settled => exact s.land aloft settled

/-- **Every chain of moves keeps a roster sound.** -/
theorem Sound.of_moves (moves : Moves rules r r') (s : r.Sound rules all) :
    r'.Sound rules all := by
  induction moves with
  | refl => exact s
  | tail _ move ih => exact ih.of_move move

end Roster

end BatchExec
