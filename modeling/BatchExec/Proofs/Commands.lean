import BatchExec.Proofs.Accounts
import BatchExec.Proofs.Agreement
import BatchExec.Proofs.Concurrency
import BatchExec.Proofs.Faults
import BatchExec.Proofs.Numerals
import BatchExec.Proofs.Outcome

/-!
# From items to exit status

Items are cut into groups, each group makes a command line, and each command line is tried once. If
nobody disturbs the run and it does not stop at a failure, a command that fails, overruns its limit
or does not even start does nothing to the others: there is a result of each, and the exit status is
that of the gravest.

* `ItemSource.map_items_group`: **grouping cuts items into slices.**
* `RunsAll`: a run has tried all command lines, and its summary describes each attempt.
* `Pipeline.commands_run`: **every undisturbed run tries all command lines**, unless launches leave
  their children to themselves.
-/

namespace BatchExec

/-! ## Groups -/

namespace ItemSource

/-- The number of groups of so many items at most. -/
def groups (size : Nat) (items : List Text) : Nat := (items.length + size - 1) / size

/-- The items in the group at a position. -/
def slice (size : Nat) (items : List Text) (k : Nat) : List Text :=
  (items.drop (k * size)).take size

/-- All groups. -/
def slices (size : Nat) (items : List Text) : List (List Text) :=
  (List.range (groups size items)).map (slice size items)

variable {size : Nat} (positive : 0 < size)
include positive

theorem slices_nil : slices size [] = [] := by
  have none : groups size [] = 0 := Nat.div_eq_of_lt (by simp; omega)
  rw [slices, none]
  rfl

theorem slices_of_ne_nil {items : List Text} (some : items ≠ []) :
    slices size items = items.take size :: slices size (items.drop size) := by
  have length : 0 < items.length := List.length_pos_iff.mpr some
  have count : groups size items = groups size (items.drop size) + 1 := by
    rw [groups, groups, List.length_drop, ← Nat.add_div_right _ positive]
    by_cases short : items.length ≤ size
    · have one : (items.length + size - 1) / size = 1 :=
        Nat.div_eq_of_lt_le (by omega) (by omega)
      have one' : (items.length - size + size - 1 + size) / size = 1 :=
        Nat.div_eq_of_lt_le (by omega) (by omega)
      rw [one, one']
    · congr 1
      omega
  rw [slices, count, List.range_succ_eq_map, List.map_cons, List.map_map]
  congr 1
  · rw [slice, Nat.zero_mul, List.drop_zero]
  · refine List.map_congr_left fun k _ => ?_
    show slice size items (k + 1) = slice size (items.drop size) k
    rw [slice, slice, List.drop_drop, Nat.succ_mul, Nat.add_comm]

omit positive in
/-- Items are cut into slices, the first of which begins with those that are pending. -/
theorem map_items_groupFrom (index taken room : Nat) (pending items : List Text)
    (full : pending.length + room + 1 = size) :
    (groupFrom size true index taken room pending items).map (·.batch.items) =
      slices size (pending ++ items) := by
  have positive : 0 < size := by omega
  fun_induction groupFrom size true index taken room pending items with
  | case1 index taken room pending some _ =>
    have short : pending.length ≤ size := by omega
    rw [List.append_nil, slices_of_ne_nil positive some, List.take_of_length_le short,
      List.drop_of_length_le short, slices_nil positive]
    rfl
  | case2 index taken room pending some open' => exact absurd rfl open'
  | case3 index taken room pending none =>
    obtain rfl : pending = [] := by simpa using none
    exact (slices_nil positive).symm
  | case4 index taken pending item rest ih =>
    have whole : (pending ++ [item]).length = size := by simpa using full
    rw [List.map_cons, ih (by simp; omega), List.nil_append]
    show (pending ++ [item]) :: slices size rest = _
    have some : (pending ++ [item]) ++ rest ≠ [] := by simp
    rw [List.append_cons pending item rest, slices_of_ne_nil positive some, List.take_left' whole,
      List.drop_left' whole]
  | case5 index taken pending item rest room ih =>
    rw [ih (by simp; omega), List.append_assoc]
    rfl

/-- **Grouping cuts items into slices.** -/
theorem map_items_group (items : List Text) :
    (group ⟨items, none⟩ size).map (·.batch.items) = slices size items :=
  map_items_groupFrom 0 0 (size - 1) [] items (by simp; omega)

end ItemSource

/-! ## Accepted configurations -/

namespace Settings

theorem pos_of_checkMaxArgs {value : Option Value} {n : Nat}
    (checked : checkMaxArgs value = .ok n) : 0 < n := by
  unfold checkMaxArgs at checked
  split at checked
  · cases checked
    decide
  · split at checked
    · contradiction
    · cases checked
      omega
  · contradiction

/-- An accepted configuration puts an item into each command line. -/
theorem pos_of_validate {settings : Settings} {config : Config}
    (accepted : settings.validate = .ok config) : 0 < config.maxArgs := by
  obtain ⟨maxArgs, args, accepted⟩ := ok_of_bind accepted
  obtain ⟨maxProcs, -, accepted⟩ := ok_of_bind accepted
  obtain ⟨timeout, -, accepted⟩ := ok_of_bind accepted
  obtain ⟨-, -, accepted⟩ := ok_of_bind accepted
  cases accepted
  exact pos_of_checkMaxArgs (ok_of_mapError args)

end Settings

/-! ## Runs -/

/-- The number of command lines that a configuration makes of items. -/
def Config.rounds (config : Config) (items : List Text) : Nat :=
  ItemSource.groups config.maxArgs items

/-- The command line at a position: the words of the command, which is `echo` if there are none, and
the items of the group. -/
def Config.argvAt (config : Config) (items : List Text) (k : Nat) : List Text :=
  (if config.command = [] then [("echo" : Text)] else config.command) ++
    ItemSource.slice config.maxArgs items k

/-- A run has tried each command line once, and its summary describes each attempt. -/
structure RunsAll (runner : Runner) (overtakes : Prop) (config : Config) (items : List Text)
    (children : Pipeline.Children) (h : History) (s : Summary) : Prop where
  attempts : h.attempts.length = config.rounds items
  results : s.results.length = config.rounds items
  /-- Each command line is tried once, -/
  each : h.positions.Perm (List.range (config.rounds items))
  /-- in order unless a launch may overtake another. -/
  inOrder : ¬ overtakes → h.positions = List.range (config.rounds items)
  /-- When the launch for a position starts after so many others, its attempt is one to run the
  command line at this position, and the result at this position describes it. -/
  describes : ∀ k j : Nat, h.positions[k]? = some j → ∃ i a r, h.attempts[k]? = some a ∧
    s.results[j]? = some r ∧ i.index = (j : Int) ∧ i.argv = config.argvAt items j ∧
    runner.Describes config.timeout (children k) i a r
  cancelled : s.cancelled = false
  /-- The exit status is the gravest that the children call for. -/
  exitCode : s.exitCode = (ExitStatus.gravest (h.positions.mapIdx fun k j =>
    (children k).status runner config.timeout (config.argvAt items j))).code

namespace Pipeline

/-- Children that behave as children may: if one does not start, the reason is understood, and none
has the whole program get a signal. -/
def Children.Fair (children : Children) : Prop :=
  ∀ k, (children k).Understood ∧ (children k).parentSignal = none

variable {runner : Runner} {config : Config} {children : Children} {items : List Text}

theorem batches_feed (config : Config) (source : ItemSource) :
    (feed config source).batches = (source.group config.maxArgs).map Grouped.batch := by
  simp [feed, Feed.ofBatches, Feed.batches, Function.comp_def]

theorem numbered_batches (config : Config) (source : ItemSource) :
    Numbered (feed config source).batches := by
  rw [batches_feed]
  exact numbered_group _ _

theorem map_items_batches (positive : 0 < config.maxArgs) (items : List Text) :
    (feed config ⟨items, none⟩).batches.map Batch.items =
      ItemSource.slices config.maxArgs items := by
  rw [batches_feed, List.map_map, ← ItemSource.map_items_group positive]
  rfl

theorem length_batches (positive : 0 < config.maxArgs) (items : List Text) :
    (feed config ⟨items, none⟩).batches.length = config.rounds items := by
  rw [← List.length_map Batch.items, map_items_batches positive, ItemSource.slices, List.length_map,
    List.length_range]
  rfl

/-- The batch at a position has the items of the group at this position. -/
theorem getElem?_batches (positive : 0 < config.maxArgs) {k : Nat}
    (bound : k < config.rounds items) :
    ∃ b, (feed config ⟨items, none⟩).batches[k]? = some b ∧ b.index = (k : Int) ∧
      b.items = ItemSource.slice config.maxArgs items k := by
  have within : k < (feed config ⟨items, none⟩).batches.length := by
    rwa [length_batches positive]
  refine ⟨_, List.getElem?_eq_getElem within,
    numbered_batches config _ k within, ?_⟩
  have items := congrArg (·[k]?) (map_items_batches positive items)
  simpa [within, ItemSource.slices, show k < ItemSource.groups _ _ from bound] using items

/-! ### Launches -/

/-- The words of a command line. -/
theorem argv_instantiate {b : Batch} {k : Nat}
    (slice : b.items = ItemSource.slice config.maxArgs items k) :
    ((Template.ofWords config.command).instantiate b).argv = config.argvAt items k := by
  unfold Template.instantiate Template.ofWords Config.argvAt
  rw [slice]
  split <;> rfl

/-- A launch leaves its child to itself only under a configuration that abandons. -/
theorem not_forsaken (attends : ¬ config.Abandons) (c : Behaviour) (b : Batch) :
    ¬ c.Forsaken config.timeout ((Template.ofWords config.command).instantiate b).argv := by
  rintro ⟨unbounded, starts⟩
  refine attends ⟨unbounded, fun word mem => ?_⟩
  have words : config.command ≠ [] := List.ne_nil_of_mem mem
  have listed : word ∈ ((Template.ofWords config.command).instantiate b).argv := by
    simp [Template.ofWords, words, Template.instantiate, mem]
  exact c.clean_of_spawnFailure starts word listed

theorem index_of_describes {i : Invocation} {a : Attempt} {c : Behaviour} {x : Result}
    (describes : runner.Describes config.timeout c i a x) : x.index = i.index := by
  rw [Result.index, describes.invocation]

section

variable (understood : ∀ k, (children k).Understood) (attends : ¬ config.Abandons)
include understood attends

/-- A launch tries its command line, and its result describes the attempt. -/
theorem describes_launch (runner : Runner) (ordinal time : Nat) (b : Batch) :
    ∃ a r, (launch runner config children ordinal time b).attempt = some a ∧
      (launch runner config children ordinal time b).ending = .returned r ∧
      runner.Describes config.timeout (children ordinal)
        ((Template.ofWords config.command).instantiate b) a r :=
  Runner.describes_plan (understood ordinal) (not_forsaken attends _ b) _ _ time

theorem delivers_launch (batches : List Batch) :
    (launch runner config children).Delivers batches := by
  intro ordinal time b _
  obtain ⟨a, r, -, ending, describes⟩ := describes_launch understood attends runner ordinal time b
  exact ⟨r, ending, index_of_describes describes⟩

/-! ### Rosters -/

variable {source : ItemSource} {listener : Listener} {threads : Threads} {cancels breaks : Prop}
  {r : Roster} (sound : r.Sound
    ((setting config source children listener {} runner threads).poolRules cancels breaks)
    (feed config source).batches)
include sound

/-- Each launch that starts makes an attempt. -/
theorem map_some_attempts :
    r.history.attempts.map some =
      (r.history.flights (launch runner config children)).map (·.plan.attempt) := by
  have tried : r.history.attempts =
      (r.history.flights (launch runner config children)).filterMap (·.plan.attempt) :=
    sound.attempts
  rw [tried, List.map_filterMap_some_eq_filter_map_isSome, List.filter_eq_self, List.forall_mem_map]
  intro f mem
  obtain ⟨ordinal, start, plan⟩ := History.plan_of_mem_flights mem
  obtain ⟨a, -, attempt, -⟩ := describes_launch understood attends runner ordinal start f.batch
  rw [plan, attempt]
  rfl

theorem length_attempts : r.history.attempts.length = r.history.launched.length := by
  have attempts := congrArg List.length (map_some_attempts understood attends sound)
  rwa [List.length_map, List.length_map, History.length_flights, ← List.length_map Prod.fst]
    at attempts

/-- What a launch tries when it starts after so many others, and the result that it comes to. -/
theorem describes_nth {k : Nat} {b : Batch} (nth : r.history.launched[k]? = some b) :
    ∃ f a x, (r.history.flights (launch runner config children))[k]? = some f ∧ f.batch = b ∧
      f.result? = some x ∧ r.history.attempts[k]? = some a ∧
      runner.Describes config.timeout (children k)
        ((Template.ofWords config.command).instantiate b) a x := by
  obtain ⟨start, flight⟩ := History.getElem?_flights (launch runner config children) nth
  obtain ⟨a, x, attempt, ending, describes⟩ := describes_launch understood attends runner k start b
  have own : x.index = b.index := index_of_describes describes
  refine ⟨_, a, x, flight, rfl, ?_, ?_, describes⟩
  · simp [Flight.result?, ending, Ending.resultFor?, own]
  · have here := congrArg (·[k]?) (map_some_attempts understood attends sound)
    simpa [flight, attempt] using here

/-- The statuses that the results of the launches call for are those that the children call for. -/
theorem map_status_results :
    ((r.history.flights (launch runner config children)).filterMap Flight.result?).map
        Result.status =
      r.history.attempts.mapIdx fun k a => (children k).status runner config.timeout a.argv := by
  have delivers : (launch runner config children).Delivers (feed config source).batches :=
    delivers_launch understood attends _
  have results : ((r.history.flights (launch runner config children)).filterMap
      Flight.result?).map some = _ :=
    Flight.map_some_results fun f mem => sound.result?_isSome delivers mem
  apply List.ext_getElem?
  intro k
  have here := congrArg (·[k]?) results
  have tried := congrArg (·[k]?) (map_some_attempts understood attends sound)
  simp only [List.getElem?_map] at here tried
  rw [List.getElem?_map, List.getElem?_mapIdx]
  cases nth : r.history.launched[k]? with
  | none =>
    rw [← History.map_batch_flights (launch runner config children), List.getElem?_map,
      Option.map_eq_none_iff] at nth
    rw [nth, Option.map_none, Option.map_eq_none_iff] at here tried
    rw [here, tried]
    rfl
  | some b =>
    obtain ⟨f, a, x, flight, rfl, brings, attempt, describes⟩ :=
      describes_nth understood attends sound nth
    rw [flight, Option.map_some, brings] at here
    obtain ⟨y, listed, same⟩ := Option.map_eq_some_iff.mp here
    obtain rfl : y = x := Option.some.inj same
    rw [listed, attempt, Option.map_some, Option.map_some, describes.status, describes.argv]

variable (rests : r.Rests)
include rests

/-- At rest, when the launch for a position started after so many others, its attempt was one to run
the command line of the batch at this position, and the result at this position describes it. -/
theorem describes_position {k j : Nat} (nth : r.history.positions[k]? = some j) :
    ∃ b a x, (feed config source).batches[j]? = some b ∧ r.history.attempts[k]? = some a ∧
      (Summary.sortByIndex r.completed)[j]? = some x ∧
      runner.Describes config.timeout (children k)
        ((Template.ofWords config.command).instantiate b) a x := by
  have numbered := numbered_batches config source
  have delivers : (launch runner config children).Delivers (feed config source).batches :=
    delivers_launch understood attends _
  obtain ⟨b, launched, here⟩ := sound.getElem?_of_position rests numbered nth
  obtain ⟨f, a, x, flight, rfl, brings, tried, describes⟩ :=
    describes_nth understood attends sound launched
  obtain ⟨i, y, index, -, listed, brings'⟩ := sound.result_of_flight rests delivers numbered
    (List.mem_of_getElem? flight)
  obtain ⟨bound, own⟩ := List.getElem?_eq_some_iff.mp here
  obtain rfl : i = j := Int.ofNat.inj
    (index.symm.trans ((congrArg Batch.index own).symm.trans (numbered j bound)))
  obtain rfl : y = x := Option.some.inj (brings'.symm.trans brings)
  exact ⟨f.batch, a, y, here, tried, listed, describes⟩

omit understood attends in
/-- At rest the exit status goes by the results of the launches. -/
theorem exitOf_results : Status.exitOf (Summary.sortByIndex r.completed) =
    Status.exitOf ((r.history.flights (launch runner config children)).filterMap Flight.result?) :=
  Status.exitOf_perm ((Summary.sortByIndex_perm _).trans (sound.completed_perm rests))

end

section

variable (fair : children.Fair) (attends : ¬ config.Abandons) {listener : Listener}
  {threads : Threads} {r : Roster}
  (sound : r.Sound
    ((setting config ⟨items, none⟩ children listener {} runner threads).poolRules False False)
    (feed config ⟨items, none⟩).batches)
include fair attends sound

/-- **At rest a run that has not been cancelled has tried all command lines.** -/
theorem runsAll (positive : 0 < config.maxArgs) (rests : r.Rests) (goes : r.cancelled = false)
    (time : Nat) (peak : Int) :
    RunsAll runner (threads.overtakes = true) config items children r.history
      (Summary.ofCompleted r.completed r.refused (.upTo time) peak) := by
  have understood k := (fair k).1
  have numbered := numbered_batches config ⟨items, none⟩
  obtain ⟨asks, launched⟩ := sound.launched_all rests goes
  have count : r.history.launched.length = config.rounds items :=
    launched.length_eq.trans (length_batches positive items)
  have results := sound.length_results rests (delivers_launch understood attends _) numbered
  have attempts := length_attempts understood attends sound
  have describes {k j : Nat} (nth : r.history.positions[k]? = some j) :
      ∃ i a x, r.history.attempts[k]? = some a ∧ (Summary.sortByIndex r.completed)[j]? = some x ∧
        i.index = (j : Int) ∧ i.argv = config.argvAt items j ∧
        runner.Describes config.timeout (children k) i a x := by
    obtain ⟨b, a, x, here, tried, told, describes⟩ :=
      describes_position understood attends sound rests nth
    have within : j < config.rounds items :=
      length_batches positive items ▸ (List.getElem?_eq_some_iff.mp here).1
    obtain ⟨b', here', index, slice⟩ := getElem?_batches positive within
    obtain rfl : b = b' := Option.some.inj (here.symm.trans here')
    exact ⟨(Template.ofWords config.command).instantiate b, a, x, tried, told, index,
      argv_instantiate slice, describes⟩
  refine ⟨attempts.trans count, results.trans count, count ▸ sound.positions_perm rests numbered,
    fun orderly => count ▸ sound.positions_eq rests numbered orderly,
    fun k j nth => describes nth, asks, ?_⟩
  show (Status.exitOf (Summary.sortByIndex r.completed)).code = _
  rw [exitOf_results sound rests, Status.exitOf_eq_gravest,
    map_status_results understood attends sound]
  congr 2
  apply List.ext_getElem?
  intro k
  rw [List.getElem?_mapIdx, List.getElem?_mapIdx]
  cases nth : r.history.positions[k]? with
  | none =>
    have beyond : r.history.attempts.length ≤ k := by
      rw [attempts, ← List.length_map (·.index.toNat)]
      exact List.getElem?_eq_none_iff.mp nth
    rw [List.getElem?_eq_none beyond]
    rfl
  | some j =>
    obtain ⟨i, a, x, tried, -, -, argv, described⟩ := describes nth
    rw [tried, Option.map_some, Option.map_some, described.argv, argv]

/-- At rest a run that does not stop at a failure, and that nobody disturbs, ends with a summary of
all command lines. -/
theorem verdict_runsAll (positive : 0 < config.maxArgs) (goes : config.stopOnError = false)
    (rests : r.Rests) :
    ∃ summary, r.verdict (feed config ⟨items, none⟩) = .ok summary ∧
      RunsAll runner (threads.overtakes = true) config items children r.history summary := by
  have delivers : (launch runner config children).Delivers (feed config ⟨items, none⟩).batches :=
    delivers_launch (fun k => (fair k).1) attends _
  have fault := sound.fault_eq_none delivers id
  have runs := sound.cancelled_eq_false fault id goes
  exact ⟨_, sound.verdict_eq delivers id rfl,
    runsAll fair attends sound positive rests runs _ _⟩

end

/-! ### Runs of a configuration -/

/-- Nobody disturbs a run that does not stop at a failure, if the children are fair and the receiver
of events is calm and loyal. -/
theorem undisturbed (fair : children.Fair) (goes : config.stopOnError = false) {listener : Listener}
    (calm : listener.Calm) (loyal : listener.Loyal) (source : ItemSource) (threads : Threads) :
    (setting config source children listener {} runner threads).Undisturbed where
  goes := goes
  calm := calm
  loyal := loyal
  alone := rfl
  plans := fun _ _ _ => Runner.cancels_plan _ _ _ _ _ _ _
  signals := fun ordinal _ _ => (Runner.signal_plan _ _ _ _ _ _ _).trans (fair ordinal).2

theorem blocking_setting (threads : Threads) (config : Config) (source : ItemSource)
    (children : Children) (listener : Listener) :
    (setting config source children listener {} .blocking threads).blocking =
      .ok (run threads config source children listener {}) :=
  Setting.blocking_eq _

theorem events_setting (config : Config) (source : ItemSource) (children : Children)
    (listener : Listener) :
    (setting config source children listener {} .async).events 0 true true =
      .ok (runAsync config source children listener {}) :=
  Setting.events_eq _ 0 true true

theorem lasting_fair : lasting.Fair := by
  intro k
  refine ⟨fun f fails => ?_, rfl⟩
  exact absurd fails (Option.not_mem_none f)

theorem lasting_undisturbed (runner : Runner) (goes : config.stopOnError = false) :
    (setting config ⟨["a"], none⟩ lasting none {} runner).Undisturbed :=
  undisturbed lasting_fair goes Listener.calm_none Listener.loyal_none ⟨["a"], none⟩ {}

/-- Under a configuration that abandons, the run of a single command is not whole at rest. -/
theorem fault_of_abandons (abandons : config.Abandons) {r : Roster}
    (sound : r.Sound ((setting config ⟨["a"], none⟩ lasting none {} runner).poolRules False False)
      (feed config ⟨["a"], none⟩).batches)
    (goes : config.stopOnError = false) (rests : r.Rests) :
    ∃ fault, r.verdict (feed config ⟨["a"], none⟩) = .error (.fault fault) := by
  have broken : r.fault.isSome = true := by
    by_contra fine
    have whole := Option.not_isSome_iff_eq_none.mp fine
    -- a run that is whole has launched the batch, whose launch raises an error
    have runs := sound.cancelled_eq_false whole id goes
    have launched := sound.launched_eq rests runs Bool.false_ne_true
    have first : r.history.launched[0]? = some (single "a") := by
      rw [launched]
      exact congrArg (·.batches[0]?) (feed_single config "a")
    obtain ⟨time, flight⟩ := History.getElem?_flights (launch runner config lasting) first
    have clean : ∀ item ∈ (single "a").items, item.contains CodePoint.null = false := by decide
    obtain ⟨opening, argv, waitsFor, signal, nextSignal, forsaking⟩ :=
      launch_of_abandons runner config lasting abandons clean 0 rfl time
    refine fine (sound.fault_isSome_of_raises rests (List.mem_of_getElem? flight) ?_)
    rw [forsaking]
    rfl
  obtain ⟨fault, breaks⟩ := Option.isSome_iff_exists.mp broken
  exact ⟨fault, (Roster.error_verdict_iff rfl fault).mpr breaks⟩

/-- Under a configuration that abandons, the blocking run of a single command ends with a fault. -/
theorem run_of_abandons (goes : config.stopOnError = false) (abandons : config.Abandons) :
    ∃ fault, (run {} config ⟨["a"], none⟩ lasting none {}).result = .error (.fault fault) := by
  have quiet := lasting_undisturbed .blocking goes
  obtain ⟨run, ran, -, -, rests, sound, result⟩ :=
    Setting.blocking_rests quiet.allow (.inl quiet.alone)
  obtain ⟨fault, verdict⟩ := fault_of_abandons abandons sound goes rests
  rw [Except.ok.inj ((blocking_setting _ _ _ _ _).symm.trans ran)]
  exact ⟨fault, result.trans verdict⟩

/-- Under a configuration that abandons, the event-driven run of a single command ends with a fault.
-/
theorem runAsync_of_abandons (goes : config.stopOnError = false) (abandons : config.Abandons) :
    ∃ fault, (runAsync config ⟨["a"], none⟩ lasting none {}).result = .error (.fault fault) := by
  have quiet := lasting_undisturbed .async goes
  obtain ⟨run, ran, passes, -, ends⟩ :=
    Setting.events_rests quiet.allow (.inl quiet.alone) 0 true true
  obtain ⟨rests, sound, result⟩ := ends (Setting.here_of_calm quiet.calm passes)
  obtain rfl := Except.ok.inj ((events_setting _ _ _ _).symm.trans ran)
  obtain ⟨fault, verdict⟩ := fault_of_abandons abandons (Setting.pool_sound sound) goes rests
  exact ⟨fault, result.trans verdict⟩

/-- **Every undisturbed run tries all command lines**, unless the limit of the configuration cannot
be set: whatever becomes of a command, it does nothing to the others. They are tried in order,
except that threads may let one launch of a blocking run overtake another. -/
theorem commands_run {settings : Settings} {config : Config}
    (accepted : settings.validate = .ok config) (goes : config.stopOnError = false) :
    ((∀ threads items children listener, children.Fair → listener.Calm → listener.Loyal →
      ∃ summary, (run threads config ⟨items, none⟩ children listener {}).result = .ok summary ∧
        RunsAll .blocking (threads.overtakes = true) config items children
          (run threads config ⟨items, none⟩ children listener {}).pool.history summary) ↔
      ¬ config.Abandons) ∧
    ((∀ items children listener pause cancellable detour, children.Fair → listener.Calm →
      listener.Loyal → ∃ run summary,
        (setting config ⟨items, none⟩ children listener {} .async).events pause cancellable detour =
          .ok run ∧ run.result = .ok summary ∧
        RunsAll .async False config items children run.stream.history summary) ↔
      ¬ config.Abandons) := by
  have positive := Settings.pos_of_validate accepted
  refine ⟨⟨fun all abandons => ?_,
      fun attends threads items children listener fair calm loyal => ?_⟩,
    fun all abandons => ?_,
    fun attends items children listener pause cancellable detour fair calm loyal => ?_⟩
  · have quiet := lasting_undisturbed .blocking goes
    obtain ⟨summary, ends, -⟩ := all {} ["a"] lasting none lasting_fair quiet.calm quiet.loyal
    obtain ⟨fault, breaks⟩ := run_of_abandons goes abandons
    rw [ends] at breaks
    contradiction
  · have quiet :
        (setting config ⟨items, none⟩ children listener {} .blocking threads).Undisturbed :=
      undisturbed fair goes calm loyal _ _
    obtain ⟨run, ran, -, -, rests, sound, result⟩ :=
      Setting.blocking_rests quiet.allow (.inl quiet.alone)
    obtain ⟨summary, verdict, runs⟩ := verdict_runsAll fair attends sound positive goes rests
    rw [Except.ok.inj ((blocking_setting _ _ _ _ _).symm.trans ran)]
    exact ⟨summary, result.trans verdict, runs⟩
  · have quiet := lasting_undisturbed .async goes
    obtain ⟨run, summary, ran, ends, -⟩ :=
      all ["a"] lasting none 0 true true lasting_fair quiet.calm quiet.loyal
    obtain rfl := Except.ok.inj ((events_setting _ _ _ _).symm.trans ran)
    obtain ⟨fault, breaks⟩ := runAsync_of_abandons goes abandons
    rw [ends] at breaks
    contradiction
  · have quiet : (setting config ⟨items, none⟩ children listener {} .async).Undisturbed :=
      undisturbed fair goes calm loyal _ _
    obtain ⟨run, ran, passes, -, ends⟩ :=
      Setting.events_rests quiet.allow (.inl quiet.alone) pause cancellable detour
    obtain ⟨rests, sound, result⟩ := ends (Setting.here_of_calm calm passes)
    obtain ⟨summary, verdict, runs⟩ :=
      verdict_runsAll fair attends (Setting.pool_sound sound) positive goes rests
    have inOrder := runs.inOrder Bool.false_ne_true
    exact ⟨run, summary, ran, result.trans verdict, { runs with inOrder := fun _ => inOrder }⟩

/-- Two items per command line, three commands at a time, each with a limit of five seconds. -/
def inPairs : Settings :=
  { maxArgs := some (.int 2), maxProcs := some (.int 3), timeout := some (.int 5) }

/-- The configuration of these settings. -/
def pairs : Config := { maxArgs := 2, maxProcs := 3, timeout := some (.int 5) }

/-- There is no such program as the first, and all others take nine seconds. -/
def lateAfterMissing : Children
  | 0 => { lifetime := 0, failure := some (.system Failure.noEntry "No such file or directory") }
  | _ + 1 => { lifetime := 9000 }

theorem lateAfterMissing_fair : lateAfterMissing.Fair := by
  intro k
  cases k with
  | zero =>
    refine ⟨?_, rfl⟩
    rintro f ⟨⟩
    decide
  | succ k =>
    refine ⟨?_, rfl⟩
    rintro f ⟨⟩

/-- One command cannot be started and the other is late: both are tried, and the exit status says
that there is no such program. -/
theorem pairs_run : inPairs.validate = .ok pairs ∧ pairs.stopOnError = false ∧
    ¬ pairs.Abandons ∧ lateAfterMissing.Fair ∧
    (∃ summary,
      (run {} pairs ⟨["a", "b", "c"], none⟩ lateAfterMissing none {}).result = .ok summary ∧
      summary.results.length = 2 ∧ summary.exitCode = 127) ∧
    (∃ run summary,
      (setting pairs ⟨["a", "b", "c"], none⟩ lateAfterMissing none {} .async).events 3 true false =
        .ok run ∧ run.result = .ok summary ∧
      summary.results.length = 2 ∧ summary.exitCode = 127) := by
  have accepted : inPairs.validate = .ok pairs := rfl
  have attends : ¬ pairs.Abandons := fun abandons => absurd abandons.1 (by decide +kernel)
  obtain ⟨blocks, flows⟩ := commands_run accepted rfl
  refine ⟨accepted, rfl, attends, lateAfterMissing_fair, ?_, ?_⟩
  · obtain ⟨summary, ends, runs⟩ :=
      blocks.mpr attends {} ["a", "b", "c"] lateAfterMissing none lateAfterMissing_fair
        Listener.calm_none Listener.loyal_none
    have order := runs.inOrder Bool.false_ne_true
    exact ⟨summary, ends, runs.results, runs.exitCode.trans (order ▸ by decide +kernel)⟩
  · obtain ⟨run, summary, ran, ends, runs⟩ :=
      flows.mpr attends ["a", "b", "c"] lateAfterMissing none 3 true false lateAfterMissing_fair
        Listener.calm_none Listener.loyal_none
    have order := runs.inOrder id
    exact ⟨run, summary, ran, ends, runs.results, runs.exitCode.trans (order ▸ by decide +kernel)⟩

/-- A time limit that is beyond all floating-point numbers is accepted, and then a single command
breaks the run. -/
theorem limit_breaks_run : ∃ config fault,
    Settings.validate { timeout := some (.int Binary.overflow) } = .ok config ∧
      config.stopOnError = false ∧ lasting.Fair ∧
      (runAsync config ⟨["a"], none⟩ lasting none {}).result = .error (.fault fault) := by
  obtain ⟨fault, breaks⟩ := runAsync_of_abandons rfl abandons_overflow
  exact ⟨_, fault, validate_overflow, rfl, lasting_fair, breaks⟩

end Pipeline

end BatchExec
