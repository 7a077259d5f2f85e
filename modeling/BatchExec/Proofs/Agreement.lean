import BatchExec.Proofs.Setting

/-!
# Runs agree

If nobody disturbs a run, what it comes to does not depend on the number of slots, on the time that
launches and the source take, or on which of the two schedules is used: it is what the launches make
of the batches.

* `Setting.Assigns`, `Setting.Undisturbed`: what a run is given, and that nobody stops it.
* `Summary.Reports`: a summary reports what launches make of batches.
* `Roster.Sound.reports`: **at rest the summary of an undisturbed run reports on all batches.**
* `Setting.schedules_agree`: **runs of the same batches agree.**
-/

namespace BatchExec

/-- The summary of a run reports what launches make of some batches. -/
structure Summary.Reports (s : Summary) (f : Batch → Result) (batches : List Batch) : Prop where
  all : s.results.Perm (batches.map f)
  sorted : s.results.Pairwise (·.index ≤ ·.index)
  /-- The results are the same whatever their order of completion, if no two batches have the same
  index. -/
  results : (batches.map Batch.index).Nodup → s.results = Summary.sortByIndex (batches.map f)
  /-- They come in the order of the source, if its batches do. -/
  ordered : batches.Pairwise (·.index < ·.index) → s.results = batches.map f
  cancelled : s.cancelled = false
  status : s.status = .aggregate (batches.map f) false
  exitCode : s.exitCode = (Status.exitOf (batches.map f)).code

/-- Launches whose ending depends on the batch only, and is a result of that batch. -/
structure Launcher.Makes (launch : Launcher) (f : Batch → Result) (batches : List Batch) :
    Prop where
  ending : ∀ ordinal time, ∀ b ∈ batches, (launch ordinal time b).ending = .returned (f b)
  own : ∀ b ∈ batches, (f b).index = b.index

namespace Launcher.Makes

variable {launch : Launcher} {f : Batch → Result} {batches : List Batch}

theorem delivers (makes : launch.Makes f batches) : launch.Delivers batches :=
  fun ordinal time b mem => ⟨f b, makes.ending ordinal time b mem, makes.own b mem⟩

theorem result? (makes : launch.Makes f batches) {x : Flight} (mem : x.batch ∈ batches)
    (planned : ∃ ordinal time, x.plan = launch ordinal time x.batch) :
    x.result? = some (f x.batch) := by
  obtain ⟨ordinal, time, plan⟩ := planned
  rw [Flight.result?, plan, makes.ending ordinal time x.batch mem, Ending.resultFor?,
    if_pos (makes.own x.batch mem)]

theorem map_index (makes : launch.Makes f batches) :
    (batches.map f).map Result.index = batches.map Batch.index := by
  rw [List.map_map]
  exact List.map_congr_left fun b mem => makes.own b mem

/-- Results of all batches, in whatever order they come in, give a summary that reports on them. -/
theorem reports (makes : launch.Makes f batches) {completed : List Result}
    (perm : completed.Perm (batches.map f)) (time : Nat) (peak : Int) :
    (Summary.ofCompleted completed false (.upTo time) peak).Reports f batches := by
  have same : (Summary.sortByIndex completed).Perm (batches.map f) :=
    (Summary.sortByIndex_perm completed).trans perm
  have unique (distinct : (batches.map Batch.index).Nodup) :
      Summary.sortByIndex completed = Summary.sortByIndex (batches.map f) := by
    rw [← makes.map_index] at distinct
    exact Summary.sortByIndex_congr perm ((perm.map _).nodup_iff.mpr distinct)
  refine ⟨same, Summary.pairwise_sortByIndex completed, unique, fun increasing => ?_, rfl, ?_, ?_⟩
  · have indices : (batches.map Batch.index).Pairwise (· < ·) := List.pairwise_map.mpr increasing
    have increasing' : (batches.map f).Pairwise (·.index < ·.index) := by
      rw [← makes.map_index] at indices
      exact List.pairwise_map.mp indices
    exact (unique (indices.imp Int.ne_of_lt)).trans (Summary.sortByIndex_of_pairwise increasing')
  · exact Status.aggregate_perm same false
  · exact congrArg ExitStatus.code (Status.exitOf_perm same)

end Launcher.Makes

namespace Roster

variable {rules : Rules} {all : List Batch} {r : Roster} {f : Batch → Result}

theorem Sound.filterMap_result? (s : r.Sound rules all) (makes : rules.launch.Makes f all) :
    (r.history.flights rules.launch).filterMap Flight.result? = r.history.launched.map f := by
  rw [← History.map_batch_flights rules.launch, List.map_map, ← List.filterMap_eq_map]
  refine List.filterMap_congr fun x mem => ?_
  exact makes.result? (s.mem_all mem) (History.plan_of_mem_flights mem)

/-- A run that does not break is not cancelled if nobody cancels it and it does not stop at a
failure. -/
theorem Sound.cancelled_eq_false (s : r.Sound rules all) (whole : r.fault = none)
    (loyal : ¬ rules.cancels) (goes : rules.stopOnError = false) : r.cancelled = false := by
  by_contra stopped
  rcases s.cause (eq_true_of_ne_false stopped) with may | stop | broken
  · exact loyal may
  · exact Bool.false_ne_true (goes.symm.trans stop)
  · rw [whole] at broken
    exact Bool.false_ne_true broken

/-- At rest a run that is not cancelled has launched all batches. -/
theorem Sound.launched_all (s : r.Sound rules all) (rests : r.Rests) (goes : r.cancelled = false) :
    r.refused = false ∧ r.history.launched.Perm all := by
  have asks : r.refused = false := by
    by_contra refused
    have stopped := (s.shut (eq_true_of_ne_false refused)).2.1
    exact Bool.false_ne_true (goes.symm.trans stopped)
  exact ⟨asks, s.admitted_of_rests rests asks ▸ s.launched_perm rests⟩

theorem Sound.launched_eq (s : r.Sound rules all) (rests : r.Rests) (goes : r.cancelled = false)
    (orderly : ¬ rules.overtakes) : r.history.launched = all := by
  obtain ⟨asks, -⟩ := s.launched_all rests goes
  rw [(s.launchesAdmitted rests).order orderly, s.admitted_of_rests rests asks]

/-- **At rest the summary of an undisturbed run reports on all batches.** -/
theorem Sound.reports (s : r.Sound rules all) (rests : r.Rests) (makes : rules.launch.Makes f all)
    (goes : r.cancelled = false) (time : Nat) (peak : Int) :
    (Summary.ofCompleted r.completed r.refused (.upTo time) peak).Reports f all := by
  obtain ⟨asks, launched⟩ := s.launched_all rests goes
  have perm := s.completed_perm rests
  rw [s.filterMap_result? makes] at perm
  rw [asks]
  exact makes.reports (perm.trans (launched.map f)) time peak

end Roster

namespace Setting

/-- A setting asks for certain batches, of which the launches make certain results. -/
structure Assigns (s : Setting) (f : Batch → Result) (batches : List Batch) : Prop where
  source : s.feed.batches = batches
  whole : s.feed.failure = none
  makes : s.launch.Makes f batches

/-- Nobody and nothing stops a run. -/
structure Undisturbed (s : Setting) : Prop where
  goes : s.stopOnError = false
  calm : s.listener.Calm
  loyal : s.listener.Loyal
  alone : s.interruption = {}
  plans : ∀ ordinal time b, (s.launch ordinal time b).cancels = false
  signals : ∀ ordinal time b, (s.launch ordinal time b).signal = none

/-- A blocking run ends with a summary. -/
def BlockingComesTo (s : Setting) (summary : Summary) : Prop :=
  ∃ run, s.blocking = .ok run ∧ run.result = .ok summary

/-- An event-driven run ends with a summary. -/
def EventsComeTo (s : Setting) (pause : Nat) (cancellable detour : Bool) (summary : Summary) :
    Prop :=
  ∃ run, s.events pause cancellable detour = .ok run ∧ run.result = .ok summary

variable {s : Setting} {f : Batch → Result} {batches : List Batch}

theorem Undisturbed.peaceful (quiet : s.Undisturbed) : s.Peaceful where
  calm := quiet.calm
  loyal := quiet.loyal
  alone := quiet.alone
  plans := quiet.plans
  signals := quiet.signals

/-- Nobody does anything to an undisturbed run. -/
theorem Undisturbed.allow (quiet : s.Undisturbed) : (s.rules False False).Allow s.listener :=
  quiet.peaceful.allow

/-- An undisturbed run that comes to rest ends with a summary that reports on all batches. -/
theorem Undisturbed.verdict (quiet : s.Undisturbed) (assigns : s.Assigns f batches) {r : Roster}
    (sound : r.Sound (s.poolRules False False) s.feed.batches) (rests : r.Rests) :
    ∃ summary, r.verdict s.feed = .ok summary ∧ summary.Reports f batches := by
  obtain ⟨rfl, whole, makes⟩ := assigns
  have fault := sound.fault_eq_none makes.delivers id
  have goes := sound.cancelled_eq_false fault id quiet.goes
  exact ⟨_, sound.verdict_eq makes.delivers id whole, sound.reports rests makes goes _ _⟩

theorem Undisturbed.blocking (quiet : s.Undisturbed) (assigns : s.Assigns f batches) :
    ∃ summary, s.BlockingComesTo summary ∧ summary.Reports f batches := by
  obtain ⟨run, ran, -, -, rests, sound, result⟩ := blocking_rests quiet.allow (.inl quiet.alone)
  obtain ⟨summary, ends, reports⟩ := quiet.verdict assigns sound rests
  exact ⟨summary, ⟨run, ran, result.trans ends⟩, reports⟩

theorem Undisturbed.events (quiet : s.Undisturbed) (assigns : s.Assigns f batches) (pause : Nat)
    (cancellable detour : Bool) :
    ∃ summary, s.EventsComeTo pause cancellable detour summary ∧ summary.Reports f batches := by
  obtain ⟨run, ran, passes, -, rest⟩ :=
    events_rests quiet.allow (.inl quiet.alone) pause cancellable detour
  obtain ⟨rests, sound, result⟩ := rest (here_of_calm quiet.calm passes)
  rw [Feed.relayed_of_whole assigns.whole] at result
  obtain ⟨summary, ends, reports⟩ := quiet.verdict assigns (pool_sound sound) rests
  exact ⟨summary, ⟨run, ran, result.trans ends⟩, reports⟩

/-- **Runs of the same batches agree**, whichever schedule they use, whatever the number of slots,
however long launches and sources take, and whichever thread goes on: each is a run of the plain map
over the batches. -/
theorem schedules_agree {one two : Setting} (first : one.Assigns f batches)
    (second : two.Assigns f batches) (quiet : one.Undisturbed) (quiet' : two.Undisturbed)
    (pause pause' : Nat) (cancellable cancellable' detour detour' : Bool) :
    ∃ pooled pooled' streamed streamed' : Summary,
      one.BlockingComesTo pooled ∧ two.BlockingComesTo pooled' ∧
      one.EventsComeTo pause cancellable detour streamed ∧
      two.EventsComeTo pause' cancellable' detour' streamed' ∧
      (∀ s ∈ [pooled, pooled', streamed, streamed'], s.Reports f batches) ∧
      ((batches.map Batch.index).Nodup →
        ∀ s ∈ [pooled', streamed, streamed'], s.results = pooled.results) := by
  obtain ⟨pooled, comes, reports⟩ := quiet.blocking first
  obtain ⟨pooled', comes', reports'⟩ := quiet'.blocking second
  obtain ⟨streamed, flows, shows⟩ := quiet.events first pause cancellable detour
  obtain ⟨streamed', flows', shows'⟩ := quiet'.events second pause' cancellable' detour'
  have all : ∀ s ∈ [pooled, pooled', streamed, streamed'], s.Reports f batches := by
    simp only [List.forall_mem_cons]
    exact ⟨reports, reports', shows, shows', List.forall_mem_nil _⟩
  refine ⟨pooled, pooled', streamed, streamed', comes, comes', flows, flows', all, ?_⟩
  intro distinct s mem
  have same := (all s (List.mem_cons_of_mem _ mem)).results distinct
  exact same.trans (reports.results distinct).symm

/-- The result of a command that exits with the number of its items less one. -/
def sizedResult (b : Batch) : Result where
  invocation := ⟨b, b.items⟩
  outcome := .exited
  exitCode := some (b.size - 1)

/-- The batches `a b` and `c`. -/
def twoBatches : List Batch := ((ItemSource.mk ["a", "b", "c"] none).group 2).map Grouped.batch

/-- Two batches, the first of which fails, with launches that each take some time. -/
def sized (maxProcs delay : Nat) (lasts : Batch → Nat) : Setting where
  maxProcs
  launch := fun _ _ b => { duration := some (lasts b), ending := .returned (sizedResult b) }
  feed := ⟨twoBatches.map (⟨delay, ·⟩), none⟩

theorem sized_assigns (maxProcs delay : Nat) (lasts : Batch → Nat) :
    (sized maxProcs delay lasts).Assigns sizedResult twoBatches where
  source := by simp [sized, Feed.batches, Function.comp_def]
  whole := rfl
  makes := ⟨fun _ _ _ _ => rfl, fun _ _ => rfl⟩

theorem sized_undisturbed (maxProcs delay : Nat) (lasts : Batch → Nat) :
    (sized maxProcs delay lasts).Undisturbed where
  goes := rfl
  calm := Listener.calm_none
  loyal := Listener.loyal_none
  alone := rfl
  plans := fun _ _ _ => rfl
  signals := fun _ _ _ => rfl

/-- A single slot and no limit, quick and slow launches, slow and quick sources: all come to the
same two results. -/
theorem sized_schedules_agree :
    ∃ pooled pooled' streamed streamed' : Summary,
      (sized 1 7 Batch.size).BlockingComesTo pooled ∧
      (sized 0 0 (10 - ·.size)).BlockingComesTo pooled' ∧
      (sized 1 7 Batch.size).EventsComeTo 0 true false streamed ∧
      (sized 0 0 (10 - ·.size)).EventsComeTo 4 false true streamed' ∧
      (∀ s ∈ [pooled, pooled', streamed, streamed'], s.Reports sizedResult twoBatches) ∧
      (∀ s ∈ [pooled', streamed, streamed'], s.results = pooled.results) := by
  obtain ⟨pooled, pooled', streamed, streamed', comes, comes', flows, flows', all, same⟩ :=
    schedules_agree (sized_assigns 1 7 Batch.size) (sized_assigns 0 0 (10 - ·.size))
      (sized_undisturbed 1 7 Batch.size) (sized_undisturbed 0 0 (10 - ·.size)) 0 4 true false
      false true
  have distinct : (twoBatches.map Batch.index).Nodup := by decide
  exact ⟨pooled, pooled', streamed, streamed', comes, comes', flows, flows', all, same distinct⟩

end Setting

end BatchExec
