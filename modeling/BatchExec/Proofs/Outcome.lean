import BatchExec.Proofs.Children

/-!
# What becomes of a command line

A command line cannot be started, overruns its limit, or is run to the end of its child. The result
of a launch says which of these it was, and the exit status of a run is that of the gravest result.

* `Behaviour.report`, `Behaviour.status`: what has to be said of a child.
* `Runner.Describes`: a result describes the attempt to run a command line.
* `Runner.describes_plan`: **every launch ends with a result that describes its attempt**, unless it
  leaves its child to itself.
* `Status.exitOf_eq_gravest`: **the status of a run is that of the gravest result.**
-/

namespace BatchExec

/-! ## Children -/

/-- Whether a failure says that there is no such program. -/
def Failure.isMissing (f : Failure) : Bool :=
  f.kind = .missingFile || (f.isSystem && f.code = some noEntry)

namespace Behaviour

/-- When a runner learns of the end of a child that nobody kills. -/
def noticed (c : Behaviour) : Runner → Nat
  | .blocking => c.lifetime
  | .async => c.lifetime + c.reapDelay

/-- Whether a child overruns a limit: its end is noticed too late, or a caller that goes on sets an
alarm for the limit that goes off at once. -/
def overruns (c : Behaviour) (runner : Runner) (limit : Option Seconds) : Bool :=
  limit.any fun l => (runner = .async && l.lapsed) || l.overrunBy (c.noticed runner)

/-- What has to be reported of a child with a command line: how it ended, its exit code and the
signal that ended it. -/
def report (c : Behaviour) (runner : Runner) (limit : Option Seconds) (argv : List Text) :
    Outcome × Option Int × Option Int :=
  match c.spawnFailure argv with
  | some failure => (if failure.isMissing then .notFound else .notExecutable, none, none)
  | none =>
    if c.overruns runner limit then (.timedOut, none, none)
    else if c.returnCode < 0 then (.signaled, none, some (-c.returnCode))
    else (.exited, some c.returnCode, none)

/-- The exit status that a child with a command line calls for. -/
def status (c : Behaviour) (runner : Runner) (limit : Option Seconds) (argv : List Text) :
    ExitStatus :=
  match c.spawnFailure argv with
  | some failure => if failure.isMissing then .notFound else .notExecutable
  | none =>
    if c.overruns runner limit then .timedOut
    else if c.returnCode = 0 then .success
    else .invocationFailed

/-- A child starts, but is left to itself, since the limit cannot be set. -/
def Forsaken (c : Behaviour) (limit : Option Seconds) (argv : List Text) : Prop :=
  limit.any Seconds.unbounded = true ∧ c.spawnFailure argv = none

/-- If a child does not start, the reason is understood. -/
def Understood (c : Behaviour) : Prop := ∀ f, c.failure = some f → f.kind ≠ .other

variable {c : Behaviour} {limit : Option Seconds}

theorem Understood.spawnFailure (understood : c.Understood) {argv : List Text} {f : Failure}
    (fails : c.spawnFailure argv = some f) : f.kind ≠ .other := by
  unfold Behaviour.spawnFailure at fails
  cases own : c.failure with
  | some g =>
    rw [own] at fails
    obtain rfl : g = f := Option.some.inj fails
    exact understood g own
  | none =>
    rw [own] at fails
    split at fails
    · cases fails
      decide
    · contradiction

theorem timedOut_killedCourse (c : Behaviour) (time : Nat) (timedOut : Bool) :
    (c.killedCourse time timedOut).timedOut = timedOut := by
  unfold killedCourse
  dsimp only
  split
  · rfl
  · split <;> rfl

theorem timedOut_blockingCourse (c : Behaviour) (limit : Option Seconds) :
    (c.blockingCourse limit).timedOut = c.overruns .blocking limit := by
  unfold blockingCourse overruns
  cases limit with
  | none => rfl
  | some limit =>
    show (if limit.overrunBy c.lifetime then _ else _ : Course).timedOut =
      limit.overrunBy c.lifetime
    cases limit.overrunBy c.lifetime <;> rfl

theorem timedOut_asyncCourse (c : Behaviour) (limit : Option Seconds) :
    (c.asyncCourse limit).timedOut = c.overruns .async limit := by
  unfold asyncCourse overruns
  cases limit with
  | none => rfl
  | some limit =>
    show _ = (limit.lapsed || limit.overrunBy (c.lifetime + c.reapDelay))
    dsimp only
    cases limit.lapsed with
    | true => exact timedOut_killedCourse _ _ _
    | false =>
      cases limit.overrunBy (c.lifetime + c.reapDelay) with
      | true => exact timedOut_killedCourse _ _ _
      | false => rfl

/-- An invocation times out just if its child overruns the limit. -/
theorem timedOut_course (c : Behaviour) (limit : Option Seconds) (runner : Runner) :
    (c.course limit runner).timedOut = c.overruns runner limit := by
  cases runner with
  | blocking => exact c.timedOut_blockingCourse limit
  | async => exact c.timedOut_asyncCourse limit

end Behaviour

/-! ## Launches -/

/-- A failure to start a child that is understood makes a result that says whether there is such a
program. -/
theorem InvocationFailure.ofSpawn?_eq (i : Invocation) {f : Failure}
    (understood : f.kind ≠ .other) :
    ∃ reason argv, ofSpawn? i f =
      some (.notStarted reason (some (if f.isMissing then 127 else 126)) argv) := by
  have missing : f.isMissing = true ↔
      f.kind = .missingFile ∨ f.isSystem = true ∧ f.code = some Failure.noEntry := by
    simp [Failure.isMissing]
  unfold ofSpawn?
  dsimp only
  simp only [← missing]
  by_cases gone : f.isMissing = true
  · rw [if_pos gone, gone]
    exact ⟨_, _, rfl⟩
  · rw [if_neg gone, eq_false_of_ne_true gone]
    cases kind : f.kind with
    | other => exact absurd kind understood
    | system | missingFile | value | type =>
      simp only [Failure.isSystem, kind]
      exact ⟨_, _, rfl⟩

namespace Runner

/-- A result describes the attempt to run a command line whose child behaves in some way. -/
structure Describes (runner : Runner) (limit : Option Seconds) (c : Behaviour) (i : Invocation)
    (a : Attempt) (r : Result) : Prop where
  argv : a.argv = i.argv
  spawned : a.spawned = true ↔ c.spawnFailure i.argv = none
  invocation : r.invocation = i
  start : r.runtime.start = a.time
  report : (r.outcome, r.exitCode, r.signal) = c.report runner limit i.argv

variable {runner : Runner} {limit : Option Seconds} {c : Behaviour} {i : Invocation}

/-- The result of a child that ended by itself. -/
theorem exited_eq (i : Invocation) (returnCode : Int) (runtime : TimeSpan) :
    (exited i returnCode runtime).1.invocation = i ∧
      (exited i returnCode runtime).1.runtime = runtime ∧
      ((exited i returnCode runtime).1.outcome, (exited i returnCode runtime).1.exitCode,
        (exited i returnCode runtime).1.signal) =
          if returnCode < 0 then (.signaled, none, some (-returnCode))
          else (.exited, some returnCode, none) := by
  unfold exited
  split <;> exact ⟨rfl, rfl, rfl⟩

/-- The result of a child that has started. -/
theorem describes_ran (starts : c.spawnFailure i.argv = none) {course : Course}
    (late : course.timedOut = c.overruns runner limit) (time : Nat) :
    runner.Describes limit c i (attempt i time (.ran course c.returnCode))
      (ranResult i limit time course c.returnCode).1 := by
  have spawned : true = true ↔ c.spawnFailure i.argv = none := by simp [starts]
  have report : c.report runner limit i.argv =
      if course.timedOut then (.timedOut, none, none)
      else if c.returnCode < 0 then (.signaled, none, some (-c.returnCode))
      else (.exited, some c.returnCode, none) := by
    rw [Behaviour.report, starts, late]
  cases timedOut : course.timedOut with
  | true =>
    obtain ⟨l, limited, -⟩ := (Option.any_eq_true _ _).mp (late.symm.trans timedOut)
    have overran : returned i limit course c.returnCode =
        .error (.timedOut l.toValue (some i.argv)) := by
      unfold returned
      rw [timedOut, limited]
    have result : ranResult i limit time course c.returnCode =
        failed i (.timedOut l.toValue (some i.argv)) ⟨time, time + course.duration⟩ := by
      rw [ranResult, overran]
    rw [timedOut] at report
    rw [result]
    exact ⟨rfl, spawned, rfl, rfl, report.symm⟩
  | false =>
    have ended : returned i limit course c.returnCode = .ok c.returnCode := by
      unfold returned
      rw [timedOut]
    have result : ranResult i limit time course c.returnCode =
        exited i c.returnCode ⟨time, time + course.duration⟩ := by
      rw [ranResult, ended]
    obtain ⟨invocation, runtime, reported⟩ :=
      exited_eq i c.returnCode ⟨time, time + course.duration⟩
    rw [timedOut] at report
    rw [result]
    exact ⟨rfl, spawned, invocation, congrArg TimeSpan.start runtime, reported.trans report.symm⟩

/-- The result of an execution describes its attempt. -/
theorem describes_execute (runner : Runner) (understood : c.Understood)
    (attended : ¬ c.Forsaken limit i.argv) (time : Nat) :
    ∃ r record, conclude i limit time (runner.execute i limit c) = .ok (r, record) ∧
      runner.Describes limit c i (attempt i time (runner.execute i limit c)) r := by
  unfold execute
  cases fails : c.spawnFailure i.argv with
  | some f =>
    obtain ⟨reason, argv, words⟩ :=
      InvocationFailure.ofSpawn?_eq i (understood.spawnFailure fails)
    dsimp only
    rw [words]
    refine ⟨_, _, rfl, rfl, ?_, rfl, rfl, ?_⟩
    · simp [attempt, fails]
    · simp only [Behaviour.report, fails]
      cases f.isMissing <;> rfl
  | none =>
    have settable : ¬ limit.any Seconds.unbounded = true := fun unbounded =>
      attended ⟨unbounded, fails⟩
    dsimp only
    rw [if_neg settable]
    exact ⟨_, _, rfl, describes_ran fails (c.timedOut_course limit runner) time⟩

theorem cancels_plan (runner : Runner) (limit : Option Seconds) (trace : Bool) (c : Behaviour)
    (pid time : Nat) (i : Invocation) :
    (runner.plan limit trace c pid time i).cancels = false := by
  unfold plan
  dsimp only
  split <;> rfl

theorem signal_plan (runner : Runner) (limit : Option Seconds) (trace : Bool) (c : Behaviour)
    (pid time : Nat) (i : Invocation) :
    (runner.plan limit trace c pid time i).signal = c.parentSignal := by
  unfold plan
  dsimp only
  split <;> rfl

/-- **A launch ends with a result that describes its attempt**, unless it leaves its child to
itself. -/
theorem describes_plan (understood : c.Understood) (attended : ¬ c.Forsaken limit i.argv)
    (trace : Bool) (pid time : Nat) :
    ∃ a r, (runner.plan limit trace c pid time i).attempt = some a ∧
      (runner.plan limit trace c pid time i).ending = .returned r ∧
      runner.Describes limit c i a r := by
  obtain ⟨r, record, ends, describes⟩ := runner.describes_execute understood attended time
  refine ⟨_, r, attempt_plan trace pid time, ?_, describes⟩
  unfold plan
  dsimp only
  rw [ends]

end Runner

/-! ## Exit statuses -/

/-- The gravest of some statuses of commands. -/
def ExitStatus.gravest (statuses : List ExitStatus) : ExitStatus :=
  if .notFound ∈ statuses then .notFound
  else if .notExecutable ∈ statuses then .notExecutable
  else if .timedOut ∈ statuses then .timedOut
  else if .invocationFailed ∈ statuses then .invocationFailed
  else .success

/-- The status that a result calls for on its own goes by its outcome. -/
theorem Result.status_eq (r : Result) : r.status =
    if r.success then .success
    else match r.outcome with
      | .notFound => .notFound
      | .notExecutable => .notExecutable
      | .timedOut => .timedOut
      | .exited | .signaled => .invocationFailed := by
  cases success : r.success <;> cases outcome : r.outcome <;>
    simp [status, Status.aggregate, Status.exitOf, Status.anyFailed, success, outcome]

namespace Status

variable {results : List Result}

theorem anyFailed_iff {outcome : Outcome} {status : ExitStatus}
    (same : ∀ r : Result, r.status = status ↔ r.success = false ∧ r.outcome = outcome) :
    anyFailed outcome results = true ↔ status ∈ results.map Result.status := by
  simp [anyFailed, same]

/-- A result that is no success calls for the status of its outcome. -/
theorem status_of_failed {r : Result} (failed : r.success = false) :
    r.status = .notFound ∨ r.status = .notExecutable ∨ r.status = .timedOut ∨
      r.status = .invocationFailed := by
  rw [r.status_eq, failed]
  cases r.outcome <;> simp

/-- **The status of a run is that of the gravest result.** -/
theorem exitOf_eq_gravest (results : List Result) :
    exitOf results = .gravest (results.map Result.status) := by
  have missing : anyFailed .notFound results = true ↔ .notFound ∈ results.map Result.status :=
    anyFailed_iff fun r => by rw [r.status_eq]; cases r.success <;> cases r.outcome <;> simp
  have unfit : anyFailed .notExecutable results = true ↔
      .notExecutable ∈ results.map Result.status :=
    anyFailed_iff fun r => by rw [r.status_eq]; cases r.success <;> cases r.outcome <;> simp
  have late : anyFailed .timedOut results = true ↔ .timedOut ∈ results.map Result.status :=
    anyFailed_iff fun r => by rw [r.status_eq]; cases r.success <;> cases r.outcome <;> simp
  unfold exitOf ExitStatus.gravest
  simp only [missing, unfit, late]
  by_cases noProgram : .notFound ∈ results.map Result.status
  · rw [if_pos noProgram, if_pos noProgram]
  by_cases noStart : .notExecutable ∈ results.map Result.status
  · rw [if_neg noProgram, if_neg noProgram, if_pos noStart, if_pos noStart]
  by_cases overrun : .timedOut ∈ results.map Result.status
  · rw [if_neg noProgram, if_neg noProgram, if_neg noStart, if_neg noStart, if_pos overrun,
      if_pos overrun]
  -- what is left of the failures are commands that ran and failed
  have failed : (results.any fun r => !r.success) = true ↔
      .invocationFailed ∈ results.map Result.status := by
    constructor
    · intro any
      obtain ⟨r, mem, fails⟩ := List.any_eq_true.mp any
      have listed := List.mem_map_of_mem (f := Result.status) mem
      rcases status_of_failed (by simpa using fails) with status | status | status | status <;>
        rw [status] at listed
      · exact absurd listed noProgram
      · exact absurd listed noStart
      · exact absurd listed overrun
      · exact listed
    · intro listed
      obtain ⟨r, mem, status⟩ := List.mem_map.mp listed
      refine List.any_eq_true.mpr ⟨r, mem, ?_⟩
      rw [r.status_eq] at status
      cases success : r.success with
      | false => rfl
      | true =>
        rw [success] at status
        contradiction
  simp only [failed]

end Status

/-- A result that describes an attempt calls for the status that the child calls for. -/
theorem Runner.Describes.status {runner : Runner} {limit : Option Seconds} {c : Behaviour}
    {i : Invocation} {a : Attempt} {r : Result} (describes : runner.Describes limit c i a r) :
    r.status = c.status runner limit i.argv := by
  have outcome : r.outcome = (c.report runner limit i.argv).1 :=
    congrArg Prod.fst describes.report
  have exitCode : r.exitCode = (c.report runner limit i.argv).2.1 :=
    congrArg (·.2.1) describes.report
  rw [r.status_eq, Result.success, outcome, exitCode]
  unfold Behaviour.report Behaviour.status
  cases c.spawnFailure i.argv with
  | some f => cases missing : f.isMissing <;> simp [missing]
  | none =>
    cases c.overruns runner limit with
    | true => rfl
    | false =>
      by_cases negative : c.returnCode < 0
      · have failed : c.returnCode ≠ 0 := by omega
        simp [negative, failed]
      · by_cases zero : c.returnCode = 0 <;> simp [negative, zero]

end BatchExec
