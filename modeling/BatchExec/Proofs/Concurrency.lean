import BatchExec.Proofs.Children
import BatchExec.Proofs.Setting

/-!
# How many children are alive

In every state of a run there are no more children alive than slots, and no more active launches
than slots. The children belong to active launches, unless a launch leaves its child to itself.

* `Books`: what the books of a run say, and how many children are alive.
* `KeepsSlots`, `MindsChildren`: what holds of the states of a run.
* `Setting.blocking_keepsSlots`, `Setting.events_keepsSlots`: **both schedules keep to the slots.**
* `Pipeline.children_bounded`: **no more commands run at a time than the configuration says.**
-/

namespace BatchExec

/-- What the books of a run say in some state, and how many children are alive from then on. -/
structure Books where
  now : Nat
  /-- The number of children that have started and have not ended by some time. -/
  living : Nat → Nat
  active : Int
  peak : Int

/-- What the books of a blocking run say. -/
def Pool.books (p : Pool) : Books :=
  ⟨p.now, fun time => (p.history.living time).length, p.ledger.active, p.ledger.peak⟩

/-- What the books of an event-driven run say. -/
def Stream.books (s : Stream) : Books :=
  ⟨s.now, fun time => (s.history.living time).length, s.tally.active, s.tally.peak⟩

/-- A run whose states have such books, and whose last state has these, keeps to a number of slots.
-/
structure KeepsSlots (passes : Books → Prop) (last : Books) (slots : Nat) : Prop where
  /-- At every time no more children are alive than there are slots, -/
  children : ∀ b, passes b → ∀ time, b.now ≤ time → b.living time ≤ slots
  /-- no more launches are active, -/
  active : ∀ b, passes b → b.active ≤ slots
  /-- and the peak in the end is the greatest number of launches that ever were active. -/
  greatest : ∀ b, passes b → b.active ≤ last.peak
  reached : ∃ b, passes b ∧ b.active = last.peak

/-- At every time in a run the children that are alive belong to active launches. -/
def MindsChildren (passes : Books → Prop) : Prop :=
  ∀ b, passes b → ∀ time, b.now ≤ time → b.living time ≤ b.active

/-- A summary, if the run has one, reports the peak in the end. -/
def ReportsPeak (result : Except RunError Summary) (last : Books) : Prop :=
  ∀ summary, result = .ok summary → summary.peak = last.peak

/-! ## States -/

/-- The books of a state fit a number of slots. -/
structure Books.Fit (b : Books) (slots : Nat) : Prop where
  children : ∀ time, b.now ≤ time → b.living time ≤ slots
  active : b.active ≤ b.peak
  peak : b.peak ≤ slots

/-- What fits goes on to fit as time passes. -/
theorem Books.Fit.mono {b : Books} {slots now : Nat} (fit : b.Fit slots) (later : b.now ≤ now) :
    Books.Fit { b with now } slots :=
  { fit with children := fun time le => fit.children time (Nat.le_trans later le) }

/-- **A run keeps to the slots if the books of each state do.** -/
theorem Chain.keepsSlots {State : Type} {next : State → Option State} {first last : State}
    {slots : Nat} (books : State → Books)
    (fit : ∀ t, Chain next first t → (books t).Fit slots)
    (start : (books first).peak = (books first).active)
    (grows : ∀ {s t}, next s = some t →
      (books t).peak = (books s).peak ∨ (books t).peak = max (books s).peak (books t).active)
    (ends : Chain next first last) (halted : next last = none) :
    KeepsSlots (fun b => ∃ t, Chain next first t ∧ books t = b) (books last) slots where
  children := by
    rintro _ ⟨t, passes, rfl⟩
    exact (fit t passes).children
  active := by
    rintro _ ⟨t, passes, rfl⟩
    exact Int.le_trans (fit t passes).active (fit t passes).peak
  greatest := by
    rintro _ ⟨t, passes, rfl⟩
    have later := Chain.before_last passes ends halted
    have risen : (books t).peak ≤ (books last).peak :=
      Chain.peak_le (books · |>.active) (books · |>.peak) grows later
    exact Int.le_trans (fit t passes).active risen
  reached := by
    obtain ⟨t, passes, same⟩ :=
      Chain.exists_peak (books · |>.active) (books · |>.peak) start grows ends
    exact ⟨_, ⟨t, passes, rfl⟩, same⟩

namespace Roster

variable {rules : Rules} {all : List Batch} {r : Roster}

/-- What the books say in a state with some roster. -/
def books (r : Roster) : Books :=
  ⟨r.now, fun time => (r.history.living time).length, r.active, r.peak⟩

theorem Sound.fit (s : r.Sound rules all) (reaps : rules.launch.Reaps) {n : Nat}
    (bound : rules.bound = some n) : r.books.Fit n where
  children := fun _ later => s.length_living_le_bound reaps bound later
  active := s.peak
  peak := s.bounded n bound

end Roster

theorem Pool.reportsPeak (threads : Threads) (listener : Listener) (launch : Launcher) (feed : Feed)
    (p : Pool) : ReportsPeak (run threads listener launch feed p).result
      (run threads listener launch feed p).pool.books := by
  intro summary ended
  simp only [run] at ended ⊢
  split at ended <;> cases ended
  rfl

namespace Stream

variable {consumer : Consumer} {s t : Stream}

/-- A consumer that leaves does not change the books, and no child comes to life. -/
theorem Deserts.books (deserts : Deserts consumer s t) :
    s.now ≤ t.now ∧ t.books = { s.books with now := t.now } := by
  obtain ⟨e, error, -, winds⟩ := deserts
  refine ⟨winds.now, ?_⟩
  have quiet : ∀ e ∈ s.running.map Happening.killed, e.isQuiet = true := by
    intro e mem
    obtain ⟨b, -, rfl⟩ := List.mem_map.mp mem
    rfl
  have adds := History.adds_of_quiet s.history quiet s.now
  have same : (s.note (s.running.map .killed)).history =
      s.history ++ (s.running.map Happening.killed).map (⟨s.now, ·⟩) := by
    simp [history, note]
  have attempts := adds.attempts
  rw [← same, List.append_nil] at attempts
  have history : t.history = (s.note (s.running.map .killed)).history :=
    congrArg List.reverse winds.past
  have peak : t.tally.peak = s.tally.peak := (congrArg Tally.peak winds.tally :)
  have active : t.tally.active = s.tally.active := winds.active
  simp only [Stream.books, History.living, history, attempts, peak, active]

theorem reportsPeak (consumer : Consumer) (launch : Launcher) (detour : Bool) (feed : Feed)
    (s : Stream) : ReportsPeak (run consumer launch detour feed s).result
      (run consumer launch detour feed s).stream.books := by
  intro summary ended
  simp only [run] at ended ⊢
  split at ended <;> cases ended <;> rfl

end Stream

namespace Setting

variable (s : Setting)

/-- In some state of a blocking run the books say this. -/
def BlockingPasses (b : Books) : Prop := ∃ p, s.Passes p ∧ p.books = b

/-- In some state of an event-driven run the books say this. -/
def EventsPass (pause : Nat) (cancellable detour : Bool) (b : Books) : Prop :=
  ∃ t, Stream.Passes { pause, listener := s.listener } s.launch detour s.feed
    (s.stream cancellable) t ∧ t.books = b

variable {s}

/-- Whatever the books of a blocking run say, a sound roster says. -/
theorem roster_of_blockingPasses {b : Books} (passes : s.BlockingPasses b) :
    ∃ r : Roster, r.Sound (s.poolRules True True) s.feed.batches ∧ r.books = b := by
  obtain ⟨p, passes, rfl⟩ := passes
  exact ⟨p.roster, Pool.sound_of_passes (pool_allow allow_all) id (.inr trivial) passes, rfl⟩

/-- Whatever the books of an event-driven run say, a sound roster has said. -/
theorem roster_of_eventsPass {pause : Nat} {cancellable detour : Bool} {b : Books}
    (passes : s.EventsPass pause cancellable detour b) :
    ∃ r : Roster, r.Sound (s.rules True True) s.feed.batches ∧ r.now ≤ b.now ∧
      b = { r.books with now := b.now } := by
  obtain ⟨t, passes, rfl⟩ := passes
  have allow : (s.rules True True).Allow (Consumer.listener { pause, listener := s.listener }) :=
    allow_all
  have passes : Stream.Passes _ (s.rules True True).launch detour s.feed
    (s.stream cancellable) t := passes
  obtain ⟨u, moves, -, same⟩ := Stream.moves_of_passes allow (.inr trivial) passes
  refine ⟨u.roster, moves.sound, ?_⟩
  rcases same with rfl | deserts
  · exact ⟨Nat.le_refl _, rfl⟩
  · exact deserts.books

/-- **A blocking run keeps to the slots**, if its launches end before their children only with an
error. -/
theorem blocking_keepsSlots (positive : 0 < s.maxProcs) (reaps : s.launch.Reaps) :
    KeepsSlots s.BlockingPasses (s.pool.run s.threads s.listener s.launch s.feed).pool.books
      s.maxProcs := by
  obtain ⟨passes, halted, -⟩ := Pool.run_passes s.threads s.listener s.launch s.feed s.pool
  have fit (p : Pool) (passes : s.Passes p) : p.books.Fit s.maxProcs := by
    obtain ⟨r, sound, same⟩ := roster_of_blockingPasses ⟨p, passes, rfl⟩
    exact same ▸ sound.fit reaps (bound_rules positive True True)
  have start : s.pool.ledger.peak = s.pool.ledger.active :=
    Pool.peak_initial (s.rules True True)
  exact Chain.keepsSlots Pool.books fit start
    (fun next => Pool.peak_of_step (Pool.step_of_next? next)) passes halted

/-- **An event-driven run keeps to the slots**, if its launches end before their children only with
an error. -/
theorem events_keepsSlots (positive : 0 < s.maxProcs) (reaps : s.launch.Reaps) (pause : Nat)
    (cancellable detour : Bool) :
    KeepsSlots (s.EventsPass pause cancellable detour)
      ((s.stream cancellable).run { pause, listener := s.listener } s.launch detour
        s.feed).stream.books s.maxProcs := by
  obtain ⟨passes, halted⟩ := Stream.run_passes { pause, listener := s.listener } s.launch detour
    s.feed (s.stream cancellable)
  have fit (t : Stream) (passes : Stream.Passes { pause, listener := s.listener } s.launch detour
      s.feed (s.stream cancellable) t) : t.books.Fit s.maxProcs := by
    obtain ⟨r, sound, later, same⟩ := roster_of_eventsPass ⟨t, passes, rfl⟩
    exact same ▸ (sound.fit reaps (bound_rules positive True True)).mono later
  have start : (Stream.pull detour s.feed.items (Stream.initial (s.rules True True).tally
      cancellable s.interruption)).roster.peak = _ :=
    Stream.peak_initial cancellable s.interruption s.feed.items
  exact Chain.keepsSlots Stream.books fit start Stream.peak_roster_of_next? passes halted

/-- A blocking run minds its children if no launch ends before its child. -/
theorem blocking_mindsChildren (reaps : s.launch.Reaps) (attends : s.launch.Attends) :
    MindsChildren s.BlockingPasses := by
  intro b passes time later
  obtain ⟨r, sound, rfl⟩ := roster_of_blockingPasses passes
  exact sound.length_living_le_active reaps attends later

/-- An event-driven run minds its children if no launch ends before its child. -/
theorem events_mindsChildren (reaps : s.launch.Reaps) (attends : s.launch.Attends) (pause : Nat)
    (cancellable detour : Bool) : MindsChildren (s.EventsPass pause cancellable detour) := by
  intro b passes time later
  obtain ⟨r, sound, earlier, same⟩ := roster_of_eventsPass passes
  rw [same]
  exact sound.length_living_le_active reaps attends (Nat.le_trans earlier later)

end Setting

/-! ## Children that are left to themselves -/

/-- A child that has started and has not ended is alive. -/
theorem History.living_pos {h : History} {a : Attempt} {now time : Nat}
    (tried : ⟨now, .attempted a⟩ ∈ h) (spawned : a.spawned = true) (since : a.time ≤ time)
    (mortal : time < a.ended) : 0 < (h.living time).length :=
  List.length_pos_of_mem (List.mem_filter.mpr ⟨List.mem_filterMap.mpr ⟨_, tried, rfl⟩,
    by simp [spawned, since, mortal]⟩)

/-- A state forsakes a child: the child is alive, but no launch is active. -/
structure Books.Forsake (b : Books) : Prop where
  active : b.active = 0
  living : 0 < b.living b.now

theorem Books.Forsake.not_minds {b : Books} {passes : Books → Prop} (forsakes : b.Forsake)
    (reached : passes b) : ¬ MindsChildren passes := by
  intro minds
  have held := minds b reached b.now (Nat.le_refl _)
  have idle := forsakes.active
  have alive := forsakes.living
  omega

section

variable {launch : Launcher} {b : Batch} {opening : List Remark} {argv : List Text}
  {lifetime : Nat} {waitsFor : WaitKind} {signal nextSignal : Option Nat}

namespace Pool

/-- The state in which a worker is about to start the launch of the only batch of a source. -/
def atLaunch (slots : Nat) (stopOnError : Bool) (b : Batch) : Pool where
  ledger := { bound := some slots, stopOnError, active := 1, peak := 1 }
  stage := .asking []
  past := [⟨0, .submitted b⟩, ⟨0, .admitted b 1⟩, ⟨0, .received b⟩, ⟨0, .requested⟩]

/-- The state in which that launch, which never waits, has ended. -/
def afterLaunch (listener : Listener) (launch : Launcher) (slots : Nat) (stopOnError : Bool)
    (b : Batch) : Pool :=
  finish listener ((atLaunch slots stopOnError b).began b (launch 0 0 b)) b (launch 0 0 b)

theorem passes_afterLaunch (listener : Listener) (slots : Nat) (stopOnError : Bool)
    (prompt : (launch 0 0 b).duration = none) :
    Passes {} listener launch ⟨[⟨0, b⟩], none⟩
      (initial { bound := some (slots + 1), stopOnError } {})
      (afterLaunch listener launch (slots + 1) stopOnError b) := by
  have lands : next? {} listener launch (start launch (atLaunch (slots + 1) stopOnError b) b) =
      some (afterLaunch listener launch (slots + 1) stopOnError b) := by
    unfold start takeOff
    simp only [atLaunch, prompt]
    rfl
  exact .head rfl (.head rfl (.head rfl (.head rfl (.head rfl (.head lands .refl)))))

/-- A launch that forsakes its child is not active any more, but its child is alive. -/
theorem afterLaunch_forsakes (listener : Listener) (slots : Nat) (stopOnError : Bool)
    (mortal : 0 < lifetime) (forsaking : launch 0 0 b =
      Pipeline.forsakingPlan opening argv 0 lifetime waitsFor signal nextSignal) :
    (afterLaunch listener launch slots stopOnError b).books.Forsake := by
  unfold afterLaunch
  rw [forsaking]
  refine ⟨rfl, ?_⟩
  set attempt : Attempt := ⟨argv, 0, true, 0, 0 + lifetime⟩
  refine History.living_pos (?_ : (⟨0, .attempted attempt⟩ : Entry) ∈ _) rfl (Nat.le_refl 0)
    (show 0 < 0 + lifetime by omega)
  simp [finish, began, book, note, history, Pipeline.forsakingPlan, atLaunch, attempt]

end Pool

namespace Stream

/-- The state in which the only batch of a source is launched. -/
def atLaunch (b : Batch) (slots : Nat) (stopOnError : Bool) : Stream where
  tally := { free := some slots, stopOnError, active := 1, peak := 1 }
  producer := .waiting
  ready := [.handOver]
  tasks := 1
  past := [⟨0, .requested⟩, ⟨0, .admitted b 1⟩, ⟨0, .received b⟩, ⟨0, .requested⟩]

theorem passes_start (consumer : Consumer) (launch : Launcher) (b : Batch) (slots : Nat)
    (stopOnError : Bool) :
    Passes consumer launch true ⟨[⟨0, b⟩], none⟩
      (initial { free := some (slots + 1), stopOnError } true {})
      (start launch (atLaunch b slots stopOnError) b) :=
  .head rfl (.head rfl (.head rfl (.head rfl (.head rfl (.head rfl .refl)))))

/-- A launch that forsakes its child is not active any more, but its child is alive. -/
theorem start_forsakes (slots : Nat) (stopOnError : Bool) (mortal : 0 < lifetime)
    (forsaking : launch 0 0 b =
      Pipeline.forsakingPlan opening argv 0 lifetime waitsFor signal nextSignal) :
    (start launch (atLaunch b slots stopOnError) b).books.Forsake := by
  have plan : launch (atLaunch b slots stopOnError).launched (atLaunch b slots stopOnError).now b =
    _ := forsaking
  unfold start
  dsimp only
  rw [plan]
  refine ⟨rfl, ?_⟩
  set attempt : Attempt := ⟨argv, 0, true, 0, 0 + lifetime⟩
  have told : Happening.attempted attempt ∈
      Happening.started b :: opening.map .remarked ++ [Happening.attempted attempt] :=
    List.mem_append_right _ (List.mem_singleton_self _)
  have noted : ⟨0, .attempted attempt⟩ ∈ ((Happening.started b :: opening.map .remarked ++
      [Happening.attempted attempt]).map (Entry.mk 0)).reverse ++
        (atLaunch b slots stopOnError).past :=
    List.mem_append_left _ (List.mem_reverse.mpr (List.mem_map_of_mem told))
  -- after the attempt come only the end of the launch and its fault
  have happened := List.mem_cons_of_mem ⟨0, .faulted (.launchRaised b.index Behaviour.limitFailure)⟩
    (List.mem_cons_of_mem ⟨0, .ended b⟩ noted)
  exact History.living_pos (List.mem_reverse.mpr happened) rfl (Nat.le_refl 0)
    (show 0 < 0 + lifetime by omega)

end Stream

end

/-! ## Configurations -/

namespace Pipeline

variable (config : Config) (source : ItemSource) (children : Children) (listener : Listener)
  (interruption : Interruption)

/-- What the schedule of a configuration is given. -/
def setting (runner : Runner) (threads : Threads := {}) : Setting where
  maxProcs := config.maxProcs
  stopOnError := config.stopOnError
  listener
  launch := launch runner config children
  feed := feed config source
  interruption
  threads

/-- In some state of the blocking run of a configuration the books say this. -/
def Passes (threads : Threads) : Books → Prop :=
  (setting config source children listener interruption .blocking threads).BlockingPasses

/-- In some state of the event-driven run of a configuration the books say this. -/
def PassesAsync : Books → Prop :=
  (setting config source children listener interruption .async).EventsPass 0 true true

theorem run_keepsSlots (threads : Threads) (positive : 0 < config.maxProcs) :
    KeepsSlots (Passes config source children listener interruption threads)
      (run threads config source children listener interruption).pool.books config.maxProcs :=
  (setting config source children listener interruption .blocking threads).blocking_keepsSlots
    positive (launch_reaps .blocking config children)

theorem runAsync_keepsSlots (positive : 0 < config.maxProcs) :
    KeepsSlots (PassesAsync config source children listener interruption)
      (runAsync config source children listener interruption).stream.books config.maxProcs :=
  (setting config source children listener interruption .async).events_keepsSlots positive
    (launch_reaps .async config children) 0 true true

/-- The batch of a single item. -/
def single (item : Text) : Batch := ⟨0, [item], List.cons_ne_nil item []⟩

theorem feed_single (item : Text) : feed config ⟨[item], none⟩ = ⟨[⟨0, single item⟩], none⟩ := by
  simp only [feed, Feed.ofBatches, ItemSource.group]
  cases config.maxArgs - 1 <;> rfl

/-- The children of a run each live for a while. -/
def lasting : Children := fun _ => { lifetime := 5 }

section

variable (positive : 0 < config.maxProcs) (abandons : config.Abandons)
include positive abandons

/-- Under a configuration that abandons, the only child of a blocking run is left to itself. -/
theorem not_mindsChildren :
    ¬ MindsChildren (Passes config ⟨["a"], none⟩ lasting none {} {}) := by
  obtain ⟨slots, more⟩ := Nat.exists_eq_add_one_of_ne_zero (Nat.ne_of_gt positive)
  have clean : ∀ item ∈ (single "a").items, item.contains CodePoint.null = false := by decide
  obtain ⟨opening, argv, waitsFor, signal, nextSignal, forsaking⟩ :=
    launch_of_abandons .blocking config lasting abandons clean 0 rfl 0
  have mortal : 0 < (lasting 0).lifetime := by decide
  refine (Pool.afterLaunch_forsakes none (slots + 1) config.stopOnError mortal forsaking).not_minds
    ⟨_, ?_, rfl⟩
  simp only [Setting.Passes, setting, Setting.pool, feed_single, BatchExec.slots, more]
  exact Pool.passes_afterLaunch none slots config.stopOnError (by rw [forsaking]; rfl)

/-- Under a configuration that abandons, the only child of an event-driven run is left to itself. -/
theorem not_mindsChildren_async :
    ¬ MindsChildren (PassesAsync config ⟨["a"], none⟩ lasting none {}) := by
  obtain ⟨slots, more⟩ := Nat.exists_eq_add_one_of_ne_zero (Nat.ne_of_gt positive)
  have clean : ∀ item ∈ (single "a").items, item.contains CodePoint.null = false := by decide
  obtain ⟨opening, argv, waitsFor, signal, nextSignal, forsaking⟩ :=
    launch_of_abandons .async config lasting abandons clean 0 rfl 0
  have mortal : 0 < (lasting 0).lifetime := by decide
  refine (Stream.start_forsakes slots config.stopOnError mortal forsaking).not_minds ⟨_, ?_, rfl⟩
  simp only [setting, Setting.stream, feed_single, BatchExec.slots, more]
  exact Stream.passes_start _ _ _ _ _

end

/-- **No more commands run at a time than the configuration says**, whichever thread goes on. Each
has a slot as long as it runs if and only if the limit of the configuration can be set, or no child
can start. -/
theorem children_bounded (config : Config) (positive : 0 < config.maxProcs) :
    (∀ threads source children listener interruption,
      KeepsSlots (Passes config source children listener interruption threads)
        (run threads config source children listener interruption).pool.books config.maxProcs ∧
      ReportsPeak (run threads config source children listener interruption).result
        (run threads config source children listener interruption).pool.books) ∧
    (∀ source children listener interruption,
      KeepsSlots (PassesAsync config source children listener interruption)
        (runAsync config source children listener interruption).stream.books config.maxProcs ∧
      ReportsPeak (runAsync config source children listener interruption).result
        (runAsync config source children listener interruption).stream.books) ∧
    ((∀ threads source children listener interruption,
      MindsChildren (Passes config source children listener interruption threads)) ↔
        ¬ config.Abandons) ∧
    ((∀ source children listener interruption,
      MindsChildren (PassesAsync config source children listener interruption)) ↔
        ¬ config.Abandons) := by
  refine ⟨fun threads source children listener interruption => ⟨?_, ?_⟩,
    fun source children listener interruption => ⟨?_, ?_⟩,
    ⟨fun minds abandons => ?_, fun attends threads source children listener interruption => ?_⟩,
    fun minds abandons => ?_, fun attends source children listener interruption => ?_⟩
  · exact run_keepsSlots config source children listener interruption threads positive
  · exact Pool.reportsPeak _ _ _ _ _
  · exact runAsync_keepsSlots config source children listener interruption positive
  · exact Stream.reportsPeak _ _ _ _ _
  · exact not_mindsChildren config positive abandons (minds _ _ _ _ _)
  · exact Setting.blocking_mindsChildren (launch_reaps .blocking config children)
      (launch_attends .blocking config children attends)
  · exact not_mindsChildren_async config positive abandons (minds _ _ _ _)
  · exact Setting.events_mindsChildren (launch_reaps .async config children)
      (launch_attends .async config children attends) 0 true true

/-- Two commands at a time, each with a limit of five seconds. -/
def twoAtATime : Config := { maxProcs := 2, timeout := some (.int 5) }

/-- Of two commands at a time no more than two are alive, and each of them has a slot. -/
theorem two_at_a_time : 0 < twoAtATime.maxProcs ∧
    ∀ threads source children listener interruption,
      KeepsSlots (Passes twoAtATime source children listener interruption threads)
        (run threads twoAtATime source children listener interruption).pool.books 2 ∧
      KeepsSlots (PassesAsync twoAtATime source children listener interruption)
        (runAsync twoAtATime source children listener interruption).stream.books 2 ∧
      MindsChildren (Passes twoAtATime source children listener interruption threads) ∧
      MindsChildren (PassesAsync twoAtATime source children listener interruption) := by
  have positive : 0 < twoAtATime.maxProcs := by decide
  have attends : ¬ twoAtATime.Abandons := fun abandons => absurd abandons.1 (by decide +kernel)
  obtain ⟨blocking, async, minds, mindsAsync⟩ := children_bounded twoAtATime positive
  refine ⟨positive, fun threads source children listener interruption => ⟨?_, ?_, ?_, ?_⟩⟩
  · exact (blocking threads source children listener interruption).1
  · exact (async source children listener interruption).1
  · exact minds.mpr attends threads source children listener interruption
  · exact mindsAsync.mpr attends source children listener interruption

/-- A time limit that is beyond all floating-point numbers is accepted. -/
theorem validate_overflow : Settings.validate { timeout := some (.int Binary.overflow) } =
    .ok { timeout := some (.int Binary.overflow) } := by
  have accepted : Seconds.nonpositive (.int Binary.overflow) = false := by decide +kernel
  unfold Settings.validate Settings.checkTimeout Seconds.ofValue?
  simp only [accepted]
  rfl

theorem abandons_overflow : Config.Abandons { timeout := some (.int Binary.overflow) } := by
  have unbounded : Seconds.unbounded (.int Binary.overflow) = true := by decide +kernel
  exact ⟨by simpa only [Option.any_some] using unbounded, by decide⟩

/-- A time limit that is beyond all floating-point numbers is accepted, and then a child lives on
without a slot. -/
theorem limit_without_slot : ∃ config,
    Settings.validate { timeout := some (.int Binary.overflow) } = .ok config ∧
      0 < config.maxProcs ∧
      ¬ MindsChildren (PassesAsync config ⟨["a"], none⟩ lasting none {}) :=
  ⟨_, validate_overflow, by decide, not_mindsChildren_async _ (by decide) abandons_overflow⟩

end Pipeline

end BatchExec
