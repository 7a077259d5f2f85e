import BatchExec.Proofs.Faults

/-!
# A single slot

A schedule with a single slot runs its batches one after another. Whatever goes on beside the
launches, what comes of them is what comes of a plain loop over the batches.

* `Loop.run`: the loop, which stops after a launch that breaks or stops the run.
* `Roster.InTurn`: the launches of a roster took their turns.
* `Roster.Moves.orderly`: **with a single slot no launch can overtake another.**
* `Roster.InTurn.of_moves`: **with a single slot every chain of moves lets launches take turns.**
* `Setting.single_slot_loops`: **with a single slot both schedules are the loop.**
-/

namespace BatchExec

/-! ## The loop -/

/-- Whether a loop stops after a launch: it is broken, or the launch fails and that stops it. -/
def Flight.halts (stopOnError : Bool) (f : Flight) : Bool :=
  f.flaw?.isSome || stopOnError && f.fails

/-- What has come of a loop: the launches that it ran, in order, and the batches that it left. -/
structure Loop where
  flights : List Flight
  left : List Batch

namespace Loop

/-- The plain loop over batches. The script says how each launch ends, given how many launches were
before it. -/
def run (stopOnError : Bool) (script : Nat → Batch → Ending) : Nat → List Batch → Loop
  | _, [] => ⟨[], []⟩
  | ordinal, b :: rest =>
    let f : Flight := ⟨b, { ending := script ordinal b }⟩
    if f.halts stopOnError then ⟨[f], rest⟩
    else
      let loop := run stopOnError script (ordinal + 1) rest
      ⟨f :: loop.flights, loop.left⟩

variable (l : Loop)

/-- The results of a loop, in order. -/
def results : List Result := l.flights.filterMap Flight.result?

/-- The event of each result: no launch is active when it comes in. -/
def events : List Event := l.results.mapIdx fun k r => ⟨r, k + 1, 0⟩

/-- What breaks a loop, if something does. -/
def fault? : Option Fault := l.flights.findSome? Flight.flaw?

/-- What a loop ends with, with some time and some peak. -/
def verdict (time : Nat) (peak : Int) : Except RunError Summary :=
  match l.fault? with
  | some fault => .error (.fault fault)
  | none => .ok (Summary.ofCompleted l.results (!l.left.isEmpty) (.upTo time) peak)

variable {l} {stopOnError : Bool} {script : Nat → Batch → Ending}

/-- The launches of a loop are known by three things: they end as the script says, only the last one
may halt it, and it does if batches are left. -/
theorem run_eq (ordinal : Nat) (flights : List Flight) (left : List Batch)
    (planned : ∀ (k : Nat) (f : Flight), flights[k]? = some f →
      f.plan = { ending := script (ordinal + k) f.batch })
    (goes : ∀ f ∈ flights.dropLast, f.halts stopOnError = false)
    (halted : left ≠ [] → flights.any (Flight.halts stopOnError) = true) :
    run stopOnError script ordinal (flights.map Flight.batch ++ left) = ⟨flights, left⟩ := by
  induction flights generalizing ordinal with
  | nil =>
    have none : left = [] := by
      by_contra some
      exact Bool.false_ne_true (halted some)
    subst none
    rfl
  | cons f flights ih =>
    have own : (⟨f.batch, { ending := script ordinal f.batch }⟩ : Flight) = f := by
      have plan : f.plan = { ending := script ordinal f.batch } := planned 0 f rfl
      rw [← plan]
    have next (k : Nat) (g : Flight) (nth : flights[k]? = some g) :
        g.plan = { ending := script (ordinal + 1 + k) g.batch } := by
      rw [planned (k + 1) g nth, Nat.add_right_comm, Nat.add_assoc]
    rw [List.map_cons, List.cons_append, run, own]
    by_cases halts : f.halts stopOnError = true
    · -- nothing comes after a launch that halts the loop
      cases flights with
      | nil => rw [if_pos halts, List.map_nil, List.nil_append]
      | cons g flights =>
        have runs_on := goes f List.mem_cons_self
        exact absurd (runs_on.symm.trans halts) Bool.false_ne_true
    · have goes' (g : Flight) (mem : g ∈ flights.dropLast) : g.halts stopOnError = false := by
        apply goes g
        cases flights with
        | nil => exact absurd mem List.not_mem_nil
        | cons g' flights => exact List.mem_cons_of_mem f mem
      have halted' (some : left ≠ []) : flights.any (Flight.halts stopOnError) = true := by
        have any := halted some
        rwa [List.any_cons, eq_false_of_ne_true halts, Bool.false_or] at any
      rw [if_neg halts, ih (ordinal + 1) next goes' halted']

end Loop

/-! ## Turns -/

/-- The start or the end of a launch. -/
inductive Mark where
  | takesOff (b : Batch)
  | lands (b : Batch)
  deriving DecidableEq, Repr

/-- Whether an entry says that a launch starts or ends. -/
def Entry.mark? (e : Entry) : Option Mark :=
  match e.what with
  | .started b => some (.takesOff b)
  | .ended b => some (.lands b)
  | _ => none

/-- The starts and the ends of launches, in order. -/
def History.marks (h : History) : List Mark := h.filterMap Entry.mark?

/-- What a launch leaves in a history that it has for itself. -/
def Flight.marks (f : Flight) : List Mark := [.takesOff f.batch, .lands f.batch]

namespace History

variable (h : History) (now : Nat) (b : Batch)

theorem marks_of_quiet {happenings : List Happening}
    (quiet : ∀ e ∈ happenings, e.isQuiet = true) :
    marks (h ++ happenings.map (⟨now, ·⟩)) = h.marks := by
  have none : (happenings.map (⟨now, ·⟩)).filterMap Entry.mark? = [] :=
    filterMap_of_quiet quiet now _ fun e => by cases e <;> simp [Happening.isQuiet, Entry.mark?]
  rw [marks, List.filterMap_append, none, List.append_nil]
  rfl

theorem marks_start (opening : List Remark) (attempt : Option Attempt) :
    marks (h ++ (Happening.started b :: opening.map Happening.remarked ++
      attempt.toList.map Happening.attempted).map (⟨now, ·⟩)) = h.marks ++ [.takesOff b] := by
  cases attempt <;> simp [marks, Entry.mark?, Function.comp_def]

theorem marks_ended (closing : List Remark) :
    marks (h ++ (Happening.ended b :: closing.map Happening.remarked).map (⟨now, ·⟩)) =
      h.marks ++ [.lands b] := by
  simp [marks, Entry.mark?, Function.comp_def]

end History

namespace Roster

/-- The launches of a roster took their turns: these are done, in this order, and these are still in
the air. -/
structure InTurn (rules : Rules) (done aloft : List Flight) (r : Roster) : Prop where
  running : r.running = (aloft : Multiset Flight)
  flights : r.history.flights rules.launch = done ++ aloft
  marks : r.history.marks = done.flatMap Flight.marks ++ aloft.map (.takesOff ·.batch)
  completed : r.completed = done.filterMap Flight.result?
  fault : r.fault = done.findSome? Flight.flaw?
  cancelled : r.cancelled = done.any (Flight.halts rules.stopOnError)
  /-- At most the last launch has halted the run. -/
  goes : ∀ f ∈ done.dropLast, f.halts rules.stopOnError = false
  /-- As long as the slot is taken, none has. -/
  taken : 0 < r.active → ∀ f ∈ done, f.halts rules.stopOnError = false

variable {rules : Rules} {all : List Batch} {r r' : Roster} {done aloft : List Flight}

theorem inTurn_initial (rules : Rules) (all : List Batch) : (initial all).InTurn rules [] [] where
  running := rfl
  flights := rfl
  marks := rfl
  completed := rfl
  fault := rfl
  cancelled := rfl
  goes := fun _ mem => absurd mem List.not_mem_nil
  taken := fun _ _ mem => absurd mem List.not_mem_nil

theorem InTurn.note (t : r.InTurn rules done aloft) {happenings : List Happening}
    (quiet : ∀ e ∈ happenings, e.isQuiet = true) : (r.note happenings).InTurn rules done aloft := by
  have adds := History.adds_of_quiet r.history quiet r.now
  have marks := History.marks_of_quiet r.history r.now quiet
  rw [← history_note] at adds marks
  exact { t with
    flights := (adds.flights_eq rules.launch).trans t.flights
    marks := marks.trans t.marks }

theorem InTurn.receive (t : r.InTurn rules done aloft) (b : Batch) (rest : List Batch) :
    (r.receive b rest).InTurn rules done aloft := by
  have adds := History.adds_received r.history r.now b
  have marks : History.marks (r.history ++ [⟨r.now, .received b⟩]) = r.history.marks := by
    simp [History.marks, Entry.mark?]
  rw [← history_receive r b rest] at adds marks
  exact { t with
    flights := (adds.flights_eq rules.launch).trans t.flights
    marks := marks.trans t.marks }

/-- A batch gets the slot only if nothing has halted the run. -/
theorem InTurn.accept (t : r.InTurn rules done aloft) (b : Batch) (goes : r.cancelled = false) :
    (r.accept b).InTurn rules done aloft := by
  have adds := History.adds_admitted r.history r.now b (r.active + 1)
  have marks : History.marks (r.history ++ [⟨r.now, .admitted b (r.active + 1)⟩]) =
      r.history.marks := by
    simp [History.marks, Entry.mark?]
  rw [← history_accept r b] at adds marks
  rw [t.cancelled, List.any_eq_false] at goes
  exact { t with
    flights := (adds.flights_eq rules.launch).trans t.flights
    marks := marks.trans t.marks
    taken := fun _ f mem => eq_false_of_ne_true (goes f mem) }

/-- With a single slot a batch that waits for its launch is alone. -/
theorem Sound.alone (s : r.Sound rules all) (single : rules.bound = some 1) {b : Batch}
    {before after : List Batch} (waits : r.waiting = before ++ b :: after) :
    before = [] ∧ after = [] ∧ r.running = 0 := by
  have most := Int.le_trans s.peak (s.bounded 1 single)
  rw [s.active, waits, List.length_append, List.length_cons] at most
  exact ⟨List.length_eq_zero_iff.mp (by omega), List.length_eq_zero_iff.mp (by omega),
    Multiset.card_eq_zero.mp (by omega)⟩

/-- **With a single slot no launch can overtake another.** -/
theorem Moves.orderly (single : rules.bound = some 1) (moves : Moves rules (initial all) r) :
    Moves { rules with overtakes := False } (initial all) r := by
  induction moves with
  | refl => exact .refl
  | tail passed move ih =>
    refine ih.tail ?_
    cases move with
    | note happenings quiet => exact .note _ happenings quiet
    | pass time le => exact .pass _ time le
    | cancel may => exact .cancel _ may
    | fail f may => exact .fail _ f may
    | receive b rest next free asks => exact .receive _ b rest next free asks
    | refuse b held stopped => exact .refuse _ b held stopped
    | accept b held goes room => exact .accept _ b held goes room
    | start b before after waits turn =>
      obtain ⟨first, -⟩ := (Moves.sound passed).alone single waits
      exact .start _ b before after waits (.inl first)
    | land f rest aloft settled => exact .land _ f rest aloft settled

/-- With a single slot a launch starts when no other is in the air. -/
theorem InTurn.start (t : r.InTurn rules done aloft) (s : r.Sound rules all)
    (single : rules.bound = some 1) {b : Batch} {before after : List Batch}
    (waits : r.waiting = before ++ b :: after) :
    (r.start ⟨b, rules.launch r.started r.now b⟩ (before ++ after)).InTurn rules done
      [⟨b, rules.launch r.started r.now b⟩] := by
  obtain ⟨rfl, rfl, none⟩ := s.alone single waits
  obtain rfl : aloft = [] := (Multiset.coe_eq_zero _).mp (t.running.symm.trans none)
  obtain ⟨f, hf⟩ : ∃ f : Flight, f = ⟨b, rules.launch r.started r.now b⟩ := ⟨_, rfl⟩
  have flights := s.flights_start b ([] ++ [])
  rw [← hf] at flights ⊢
  have marks := History.marks_start r.history r.now f.batch f.plan.opening f.plan.attempt
  rw [← history_start r f ([] ++ [])] at marks
  refine { t with running := ?_, flights := ?_, marks := ?_ }
  · show f ::ₘ r.running = _
    rw [t.running]
    rfl
  · rw [flights, t.flights, List.append_nil]
  · rw [marks, t.marks, List.map_nil, List.append_nil]
    rfl

/-- The launch that is in the air lands before anything else starts. -/
theorem InTurn.land (t : r.InTurn rules done aloft) (s : r.Sound rules all)
    (single : rules.bound = some 1) {f : Flight} {rest : Multiset Flight}
    (flies : r.running = f ::ₘ rest) :
    (r.land rules.stopOnError f rest).InTurn rules (done ++ [f]) [] := by
  have most := Int.le_trans s.peak (s.bounded 1 single)
  have active := s.active
  rw [flies, Multiset.card_cons] at active
  have last : rest = 0 := Multiset.card_eq_zero.mp (by omega)
  subst last
  have only : aloft = [f] := by
    have same : (aloft : Multiset Flight) = {f} := t.running.symm.trans flies
    exact Multiset.coe_eq_singleton.mp same
  subst only
  have adds := History.adds_ended r.history r.now f.batch f.plan.closing
  have marks := History.marks_ended r.history r.now f.batch f.plan.closing
  rw [← history_land r rules.stopOnError f 0] at adds marks
  refine ⟨rfl, ?_, ?_, ?_, ?_, ?_, ?_, ?_⟩
  · rw [adds.flights_eq, t.flights, List.append_nil]
  · rw [marks, t.marks, List.flatMap_append]
    simp [Flight.marks]
  · show r.completed ++ f.result?.toList = _
    rw [t.completed, Journal.filterMap_concat]
  · show r.fault.or f.flaw? = _
    rw [t.fault, List.findSome?_append, List.findSome?_singleton]
  · show (r.cancelled || f.flaw?.isSome || rules.stopOnError && f.fails) = _
    rw [t.cancelled, List.any_append, Bool.or_assoc]
    simp [Flight.halts]
  · rw [List.dropLast_concat]
    exact t.taken (by omega)
  · intro taken
    have free : (r.land rules.stopOnError f 0).active = r.active - 1 := rfl
    omega

theorem InTurn.of_move (single : rules.bound = some 1) (loyal : ¬ rules.cancels)
    (calm : ¬ rules.breaks) (move : Move rules r r') (s : r.Sound rules all)
    (t : r.InTurn rules done aloft) : ∃ done aloft, r'.InTurn rules done aloft := by
  cases move with
  | note happenings quiet => exact ⟨_, _, t.note quiet⟩
  | pass time le => exact ⟨_, _, { t with }⟩
  | cancel may => exact absurd may loyal
  | fail f may => exact absurd may calm
  | receive b rest next free asks => exact ⟨_, _, t.receive b rest⟩
  | refuse b held stopped => exact ⟨_, _, { t with }⟩
  | accept b held goes room => exact ⟨_, _, t.accept b goes⟩
  | start b before after waits turn => exact ⟨_, _, t.start s single waits⟩
  | land f rest flies settled => exact ⟨_, _, t.land s single flies⟩

/-- **With a single slot every chain of moves lets launches take turns.** -/
theorem InTurn.of_moves (single : rules.bound = some 1) (loyal : ¬ rules.cancels)
    (calm : ¬ rules.breaks) (moves : Moves rules (initial all) r) :
    ∃ done aloft, r.InTurn rules done aloft := by
  induction moves with
  | refl => exact ⟨_, _, inTurn_initial rules all⟩
  | tail passed move ih =>
    obtain ⟨done, aloft, t⟩ := ih
    exact t.of_move single loyal calm move (Moves.sound passed)

end Roster

/-! ## Runs with a single slot -/

/-- What the loop knows of a launch. -/
def Flight.outline (f : Flight) : Flight := ⟨f.batch, { ending := f.plan.ending }⟩

/-- A run is what a loop is. -/
structure Loop.Describes (l : Loop) (launch : Launcher) (listener : Listener)
    (batches : List Batch) (h : History) (result : Except RunError Summary) : Prop where
  /-- The launches are those of the loop, -/
  flights : (h.flights launch).map Flight.outline = l.flights
  /-- each starts only after the one before has ended, -/
  marks : h.marks = l.flights.flatMap Flight.marks
  /-- the batches that the loop leaves are not launched, -/
  left : h.launched ++ l.left = batches
  /-- the receiver hears of the events of the loop, -/
  heard : h.heard = if listener.isSome then l.events else []
  /-- and the run ends with what the loop ends with. -/
  result : ∃ time peak, result = l.verdict time peak

/-- With a single slot no launch is active when a result comes in. -/
theorem Journal.Tells.events_eq {terms : Terms} {j : Journal} {landings : List Landing}
    (tells : j.Tells terms landings) (single : terms.bound = some 1) :
    landings.filterMap Landing.event? = j.completed.mapIdx fun k r => ⟨r, k + 1, 0⟩ := by
  have results : (landings.filterMap Landing.event?).map Event.result = j.completed := by
    rw [tells.completed, List.map_filterMap]
    congr 1
    funext l
    cases result : l.flight.result? <;> simp [Landing.event?, result]
  have numbered := tells.numbered
  have active : ∀ e ∈ landings.filterMap Landing.event?, e.active = 0 := by
    intro e mem
    obtain ⟨l, landed, event⟩ := List.mem_filterMap.mp mem
    obtain ⟨r, -, rfl⟩ := Option.map_eq_some_iff.mp event
    obtain ⟨natural, room⟩ := tells.active l landed
    have few := room 1 single
    show l.active = 0
    omega
  generalize landings.filterMap Landing.event? = events at results numbered active
  rw [← results, List.length_map] at numbered
  rw [← results]
  apply List.ext_getElem
  · rw [List.length_mapIdx, List.length_map]
  · intro k bound bound'
    have idle := active _ (List.getElem_mem bound)
    have count : (events.map Event.completed)[k]? = (List.range' 1 events.length)[k]? := by
      rw [numbered]
    rw [List.getElem?_map, List.getElem?_eq_getElem bound, List.getElem?_range' bound] at count
    have count : events[k].completed = k + 1 := by
      have count := Option.some.inj count
      omega
    have same (e : Event) (count : e.completed = k + 1) (idle : e.active = 0) :
        e = ⟨e.result, k + 1, 0⟩ := by
      cases e
      cases count
      cases idle
      rfl
    rw [List.getElem_mapIdx, List.getElem_map]
    exact same _ count idle

theorem Journal.Tells.told_eq {terms : Terms} {j : Journal} {landings : List Landing}
    (tells : j.Tells terms landings) (single : terms.bound = some 1) :
    j.told = if terms.receiver.isSome then j.completed.mapIdx fun k r => ⟨r, k + 1, 0⟩ else [] := by
  rw [tells.told, ← tells.events_eq single]
  unfold Landing.told?
  cases terms.receiver.isSome <;> simp

namespace Roster

variable {rules : Rules} {all : List Batch} {r : Roster} {done aloft : List Flight}
  {script : Nat → Batch → Ending}

/-- **At rest the launches that took their turns are those of the loop.** -/
theorem InTurn.loop_eq (t : r.InTurn rules done aloft) (s : r.Sound rules all) (rests : r.Rests)
    (orderly : ¬ rules.overtakes)
    (scripted : ∀ ordinal time b, (rules.launch ordinal time b).ending = script ordinal b) :
    ∃ left, r.history.launched ++ left = all ∧ r.refused = !left.isEmpty ∧
      r.history.flights rules.launch = done ∧ r.history.marks = done.flatMap Flight.marks ∧
      Loop.run rules.stopOnError script 0 all = ⟨done.map Flight.outline, left⟩ := by
  have landed : aloft = [] := by
    have running := t.running
    rw [rests.running] at running
    exact (Multiset.coe_eq_zero _).mp running.symm
  subst landed
  have flights := t.flights
  rw [List.append_nil] at flights
  obtain ⟨left, split⟩ := s.admitted_prefix
  rw [← (s.launchesAdmitted rests).order orderly] at split
  have refused : r.refused = !left.isEmpty := by
    rw [Bool.eq_iff_iff, s.refused_iff rests, ← split, List.length_append]
    cases left <;> simp
  refine ⟨left, split, refused, flights, ?_, ?_⟩
  · rw [t.marks, List.map_nil, List.append_nil]
  · have batches : (done.map Flight.outline).map Flight.batch = r.history.launched := by
      rw [← History.map_batch_flights rules.launch, flights, List.map_map]
      rfl
    rw [← split, ← batches]
    apply Loop.run_eq
    · intro k f nth
      rw [List.getElem?_map, ← flights] at nth
      obtain ⟨g, listed, rfl⟩ := Option.map_eq_some_iff.mp nth
      obtain ⟨time, plan⟩ := History.plan_of_getElem?_flights listed
      rw [Nat.zero_add]
      show ({ ending := g.plan.ending } : Plan) = _
      rw [plan, scripted]
      rfl
    · intro f mem
      rw [← List.map_dropLast] at mem
      obtain ⟨g, before, rfl⟩ := List.mem_map.mp mem
      exact t.goes g before
    · intro some
      have stopped := (s.shut (by rw [refused]; simpa using some)).2.1
      rw [t.cancelled] at stopped
      rw [List.any_map]
      exact stopped

/-- At rest a run with a single slot is the loop. -/
theorem InTurn.describes (t : r.InTurn rules done aloft) (s : r.Sound rules all) (rests : r.Rests)
    (single : rules.bound = some 1) (orderly : ¬ rules.overtakes)
    (scripted : ∀ ordinal time b, (rules.launch ordinal time b).ending = script ordinal b)
    {feed : Feed} (whole : feed.failure = none) {listener critic : Listener}
    {landings : List Landing}
    (tells : (Journal.ofHistory rules.launch r.history r.running r.completed r.fault []).Tells
      ⟨rules.bound, listener, critic⟩ landings) :
    (Loop.run rules.stopOnError script 0 all).Describes rules.launch listener all r.history
      (r.verdict feed) := by
  obtain ⟨left, split, refused, flights, marks, loop⟩ := t.loop_eq s rests orderly scripted
  rw [loop]
  have results : r.completed = Loop.results ⟨done.map Flight.outline, left⟩ := by
    rw [t.completed, Loop.results, List.filterMap_map]
    rfl
  refine ⟨?_, ?_, split, ?_, r.now, r.peak, ?_⟩
  · rw [flights]
  · rw [marks, List.flatMap_map]
    rfl
  · have told := tells.told_eq single
    simp only [Journal.ofHistory, List.append_nil] at told
    rw [told, results]
    rfl
  · have fault : r.fault = Loop.fault? ⟨done.map Flight.outline, left⟩ := by
      rw [t.fault, Loop.fault?, List.findSome?_map]
      rfl
    unfold verdict Feed.verdict Loop.verdict
    rw [whole, ite_self, fault, refused, results]
    cases Loop.fault? ⟨done.map Flight.outline, left⟩ <;> rfl

end Roster

namespace Setting

/-- A setting with a single slot, whose launches end as a script says, and which nobody disturbs. -/
structure Sequential (s : Setting) (script : Nat → Batch → Ending) : Prop where
  single : s.maxProcs = 1
  whole : s.feed.failure = none
  peaceful : s.Peaceful
  scripted : ∀ ordinal time b, (s.launch ordinal time b).ending = script ordinal b

/-- **With a single slot both schedules are the loop** over the batches of the source, whatever time
the source, the launches and the receiver of events take, and whichever thread goes on. -/
theorem single_slot_loops {s : Setting} {script : Nat → Batch → Ending}
    (sequential : s.Sequential script) (pause : Nat) (cancellable detour : Bool) :
    (∃ run, s.blocking = .ok run ∧
      (Loop.run s.stopOnError script 0 s.feed.batches).Describes s.launch s.listener s.feed.batches
        run.pool.history run.result) ∧
    ∃ run, s.events pause cancellable detour = .ok run ∧
      (Loop.run s.stopOnError script 0 s.feed.batches).Describes s.launch s.listener s.feed.batches
        run.stream.history run.result := by
  obtain ⟨single, whole, peaceful, scripted⟩ := sequential
  have bound : (s.rules False False).bound = some 1 := by
    show slots s.maxProcs = some 1
    rw [single]
    rfl
  have alone : s.interruption = {} ∨ False := .inl peaceful.alone
  constructor
  · obtain ⟨run, ran, passes, -, rests, -, result⟩ := blocking_rests peaceful.allow alone
    obtain ⟨landings, tells⟩ := blocking_tells peaceful.allow alone passes
    obtain ⟨passed, -⟩ := Pool.moves_of_passes (pool_allow peaceful.allow) id alone passes
    have single : (s.poolRules False False).bound = some 1 := bound
    have moves : Roster.Moves (s.rules False False) (.initial s.feed.batches) run.pool.roster :=
      passed.orderly single
    have sound := moves.sound
    obtain ⟨done, aloft, turns⟩ := Roster.InTurn.of_moves bound id id moves
    refine ⟨run, ran, ?_⟩
    rw [result]
    exact turns.describes sound rests bound id scripted whole tells
  · obtain ⟨run, ran, passes, halted, ends⟩ :=
      events_rests peaceful.allow alone pause cancellable detour
    have here := here_of_calm peaceful.calm passes
    obtain ⟨rests, sound, result⟩ := ends here
    obtain ⟨landings, tells⟩ := events_tell peaceful.allow alone passes halted here
    have allow : (s.rules False False).Allow
        (Consumer.listener { pause, listener := s.listener }) := peaceful.allow
    obtain ⟨done, aloft, turns⟩ :=
      Roster.InTurn.of_moves bound id id (Stream.moves_of_here allow alone passes here).1
    refine ⟨run, ran, ?_⟩
    rw [result, Feed.relayed_of_whole whole]
    exact turns.describes sound rests bound id scripted whole tells

/-- The second launch fails, the others succeed. -/
def secondFails (ordinal : Nat) (b : Batch) : Ending :=
  .returned { invocation := ⟨b, b.items⟩, outcome := .exited, exitCode := some (ordinal % 2) }

/-- The batches `a`, `b` and `c`, which come slowly, under a schedule with a single slot that stops
at a failure. -/
def oneByOne : Setting where
  maxProcs := 1
  stopOnError := true
  launch := fun ordinal time b =>
    { duration := some (10 - time), ending := secondFails ordinal b }
  feed := ⟨(((ItemSource.mk ["a", "b", "c"] none).group 1).map Grouped.batch).map (⟨4, ·⟩), none⟩
  listener := .passive

theorem oneByOne_sequential : oneByOne.Sequential secondFails where
  single := rfl
  whole := rfl
  peaceful :=
    { calm := Listener.calm_passive
      loyal := Listener.loyal_passive
      alone := rfl
      plans := fun _ _ _ => rfl
      signals := fun _ _ _ => rfl }
  scripted := fun _ _ _ => rfl

/-- Both schedules stop after the second launch, as the loop does, and leave the third batch. -/
theorem oneByOne_loops : oneByOne.Sequential secondFails ∧
    (Loop.run true secondFails 0 oneByOne.feed.batches).left.map Batch.index = [2] ∧
    (∃ run, oneByOne.blocking = .ok run ∧
      (Loop.run true secondFails 0 oneByOne.feed.batches).Describes oneByOne.launch .passive
        oneByOne.feed.batches run.pool.history run.result) ∧
    ∃ run, oneByOne.events 7 true false = .ok run ∧
      (Loop.run true secondFails 0 oneByOne.feed.batches).Describes oneByOne.launch .passive
        oneByOne.feed.batches run.stream.history run.result :=
  ⟨oneByOne_sequential, by decide, single_slot_loops oneByOne_sequential 7 true false⟩

end Setting

end BatchExec
