import BatchExec.Proofs.Commands
import BatchExec.Proofs.Runners
import BatchExec.Proofs.Severity
import BatchExec.Proofs.SourceFailure

/-!
# What a run has tried

However a blocking run comes to its end, at a failure, by a signal or with its input, it has tried
the command lines of some first batches, and its exit status goes by these. Only a failure of its
source leaves it without a summary.

* `Attempt.RunsOut`: a child was left to itself, except that it may have overrun its limit.
* `TriesFirst`: a run has tried the command lines of some first batches.
* `Pipeline.triesFirst`: **at rest every run has.**
* `Pipeline.view_ends`: **what a run ends with**, whether its source fails or not.
-/

namespace BatchExec

/-- A child that was started came to its own end, unless it overran its limit, for which it was
killed once. By some time it had ended. -/
structure Attempt.RunsOut (a : Attempt) (c : Behaviour) (limit : Option Seconds) (time : Nat) :
    Prop where
  kills : a.kills = if c.overruns .blocking limit then 1 else 0
  ended : c.overruns .blocking limit = false → a.ended = a.time + c.lifetime
  gone : a.ended ≤ time

/-- A run has tried the command lines of the first batches once each, and its summary goes by these.
-/
structure TriesFirst (overtakes : Prop) (config : Config) (children : Pipeline.Children)
    (batches : List Batch) (h : History) (s : Summary) : Prop where
  within : h.attempts.length ≤ batches.length
  results : s.results.length = h.attempts.length
  /-- Each of the command lines is tried once, -/
  each : h.positions.Perm (List.range h.attempts.length)
  /-- in order unless a launch may overtake another. -/
  inOrder : ¬ overtakes → h.positions = List.range h.attempts.length
  /-- When the launch for a position starts after so many others, its attempt is one to run the
  command line of the batch at this position, and the result at this position describes it. -/
  describes : ∀ k j : Nat, h.positions[k]? = some j → ∃ b a x, batches[j]? = some b ∧
    h.attempts[k]? = some a ∧ s.results[j]? = some x ∧
    Runner.blocking.Describes config.timeout (children k)
      ((Template.ofWords config.command).instantiate b) a x
  consistent : ∀ x ∈ s.results, x.Consistent
  /-- The run has waited for each child that was started. -/
  runsOut : ∀ (k : Nat) (a : Attempt), h.attempts[k]? = some a → a.spawned = true →
    a.RunsOut (children k) config.timeout s.runtime.stop
  /-- The summary says so if a batch has not been tried. -/
  cancelled : s.cancelled = true ↔ h.attempts.length < batches.length
  /-- The exit status is the greatest that a child that was tried calls for. -/
  exitCode : s.exitCode = (h.attempts.mapIdx fun k a =>
    ((children k).status .blocking config.timeout a.argv).code).foldr max 0

namespace Runner

variable {limit : Option Seconds} {c : Behaviour} {i : Invocation}

theorem consistent_plan {runner : Runner} {trace : Bool} {pid time : Nat} {x : Result}
    (ends : (runner.plan limit trace c pid time i).ending = .returned x) : x.Consistent := by
  unfold plan at ends
  dsimp only at ends
  split at ends
  · contradiction
  · rename_i concluded
    cases ends
    exact consistent_conclude concluded

/-- What becomes of a child that was started by a caller that waits for it. -/
theorem runsOut_attempt (attended : ¬ c.Forsaken limit i.argv) {time later : Nat}
    (spawned : (attempt i time (blocking.execute i limit c)).spawned = true)
    (gone : (attempt i time (blocking.execute i limit c)).ended ≤ later) :
    (attempt i time (blocking.execute i limit c)).RunsOut c limit later := by
  obtain ⟨e, executed⟩ : ∃ e, e = blocking.execute i limit c := ⟨_, rfl⟩
  rw [← executed] at spawned gone ⊢
  unfold execute at executed
  cases starts : c.spawnFailure i.argv with
  | some failure =>
    rw [starts] at executed
    dsimp only at executed
    split at executed <;> (rw [executed] at spawned; contradiction)
  | none =>
    rw [starts] at executed
    have settable : ¬ limit.any Seconds.unbounded = true := fun unbounded =>
      attended ⟨unbounded, starts⟩
    dsimp only at executed
    rw [if_neg settable] at executed
    subst executed
    refine ⟨c.kills_blockingCourse limit, fun stays => ?_, gone⟩
    exact congrArg (time + ·) (c.ended_blockingCourse_of_stays stays)

end Runner

namespace Pipeline

variable {config : Config} {children : Children} {source : ItemSource} {listener : Listener}

section

variable (understood : ∀ k, (children k).Understood) (attends : ¬ config.Abandons)
  {threads : Threads} {cancels breaks : Prop} {r : Roster}
  (sound : r.Sound
    ((setting config source children listener {} .blocking threads).poolRules cancels breaks)
    (feed config source).batches)
  (rests : r.Rests)
include understood attends sound rests

omit understood attends in
/-- At rest every result is consistent. -/
theorem consistent_results : ∀ x ∈ Summary.sortByIndex r.completed, x.Consistent := by
  intro x mem
  have perm := (Summary.sortByIndex_perm _).trans (sound.completed_perm rests)
  obtain ⟨f, flight, brings⟩ := List.mem_filterMap.mp (perm.mem_iff.mp mem)
  obtain ⟨ordinal, time, planned⟩ := History.plan_of_mem_flights flight
  cases f.ends with
  | raised failure ending none flaw => simp [none] at brings
  | invalid fine none flaw => simp [none] at brings
  | delivered y ending own brought flaw =>
    obtain rfl : y = x := Option.some.inj (brought.symm.trans brings)
    rw [planned] at ending
    exact Runner.consistent_plan ending

/-- At rest the run has waited for each child that was started. -/
theorem runsOut {k : Nat} {a : Attempt} (tried : r.history.attempts[k]? = some a)
    (spawned : a.spawned = true) : a.RunsOut (children k) config.timeout r.now := by
  have attempts := congrArg (·[k]?) (map_some_attempts understood attends sound)
  simp only [List.getElem?_map, tried, Option.map_some] at attempts
  obtain ⟨f, flight, made⟩ := Option.map_eq_some_iff.mp attempts.symm
  obtain ⟨time, planned⟩ := History.plan_of_getElem?_flights flight
  obtain ⟨-, x, -, ending, -⟩ :=
    describes_launch understood attends .blocking k time f.batch
  obtain ⟨ended, e, perm⟩ := sound.landed_perm rests
  have settled := e.settled (launch_reaps .blocking config children) f
    (perm.mem_iff.mpr (List.mem_of_getElem? flight))
  have fine : f.plan.raises = false := by
    rw [planned, Plan.raises, ending]
  have gone := settled fine a made spawned
  rw [planned, launch, Runner.attempt_plan] at made
  obtain rfl := Option.some.inj made
  exact Runner.runsOut_attempt (not_forsaken attends _ _) spawned gone

/-- **At rest a run has tried the command lines of some first batches.** -/
theorem triesFirst (peak : Int) :
    TriesFirst (threads.overtakes = true) config children (feed config source).batches r.history
      (Summary.ofCompleted r.completed r.refused (.upTo r.now) peak) := by
  have numbered := numbered_batches config source
  have attempts := length_attempts understood attends sound
  have results := sound.length_results rests (delivers_launch understood attends _) numbered
  refine ⟨?_, results.trans attempts.symm, ?_, fun orderly => ?_,
    fun k j nth => describes_position understood attends sound rests nth,
    consistent_results sound rests,
    fun k a tried spawned => runsOut understood attends sound rests tried spawned, ?_, ?_⟩
  · rw [attempts]
    exact sound.length_launched_le rests
  · rw [attempts]
    exact sound.positions_perm rests numbered
  · rw [attempts]
    exact sound.positions_eq rests numbered orderly
  · rw [attempts]
    exact sound.refused_iff rests
  · show (Status.exitOf (Summary.sortByIndex r.completed)).code = _
    have statuses := congrArg (List.map ExitStatus.code)
      (map_status_results understood attends sound)
    rw [List.map_map] at statuses
    rw [exitOf_results sound rests, Status.code_exitOf]
    refine congrArg (List.foldr max 0) (statuses.trans (List.ext_getElem? fun k => ?_))
    rw [List.getElem?_map, List.getElem?_mapIdx, List.getElem?_mapIdx, Option.map_map]
    rfl

end

/-- The receiver of events of a handler raises no error. -/
theorem calm_listener (handler : ResultHandler) : (Pipeline.listener handler).Calm := by
  unfold Pipeline.listener
  split
  · exact Listener.calm_none
  · exact Listener.calm_passive

/-- **How a run ends.** If its source fails when it is asked for one batch more than it has, the run
ends with this failure. Otherwise it ends with a summary of what it has tried. -/
theorem view_ends (understood : ∀ k, (children k).Understood) (attends : ¬ config.Abandons)
    (source : ItemSource) (threads : Threads) (handler : ResultHandler) {v : View}
    (viewed : v = view .blocking threads config source children handler {})
    {batches : List Batch} (cut : batches = (feed config source).batches) :
    (∃ f, source.failure = some f ∧ batches.length < v.history.requests ∧
      v.result = .error (.source f)) ∨
    ((∀ f, source.failure = some f → v.history.requests ≤ batches.length) ∧
      ∃ summary, v.result = .ok summary ∧
        TriesFirst (threads.overtakes = true) config children batches v.history summary) := by
  obtain ⟨ran, seen, passes, halted, rests, sound, result⟩ := Setting.blocking_rests
    (s := setting config source children (Pipeline.listener handler) {} .blocking threads)
    (Setting.allow_cancels (calm_listener handler)) (.inr trivial)
  obtain rfl := Except.ok.inj ((blocking_setting _ _ _ _ _).symm.trans seen)
  obtain ⟨r, hr⟩ : ∃ r, r = (run threads config source children (Pipeline.listener handler)
    {}).pool.roster := ⟨_, rfl⟩
  have inStep := Pool.inStep_of_passes passes
  rw [Pool.owed_of_over halted] at inStep
  rw [← hr] at rests sound result
  have history : r.history = v.history := by
    rw [viewed, hr]
    rfl
  have asked : batches.length < v.history.requests ↔ r.refused = false := by
    rw [cut, ← history]
    exact sound.asked_iff rests (hr ▸ inStep)
  have tries := triesFirst understood attends sound rests r.peak
  rw [← cut, history] at tries
  have told : v.result = r.verdict (feed config source) := by
    rw [viewed]
    exact result
  have whole : r.fault = none :=
    sound.fault_eq_none (delivers_launch understood attends _) id
  unfold Roster.verdict Feed.verdict at told
  rw [whole] at told
  cases refused : r.refused with
  | true =>
    rw [refused] at told tries asked
    refine .inr ⟨fun f _ => Nat.le_of_not_lt fun late => ?_, _, told, tries⟩
    exact nomatch asked.mp late
  | false =>
    rw [refused] at told tries asked
    have own : (feed config source).failure = source.failure := rfl
    simp only [Bool.false_eq_true, if_false, own] at told
    cases fails : source.failure with
    | some f =>
      simp only [fails] at told
      exact .inl ⟨f, rfl, asked.mpr rfl, told⟩
    | none =>
      simp only [fails] at told
      exact .inr ⟨nofun, _, told, tries⟩

end Pipeline

end BatchExec
