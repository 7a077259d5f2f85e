import BatchExec.Proofs.Outcome
import BatchExec.Proofs.Rounding
import BatchExec.Single

/-!
# Two ways to run a command line

A command line that nobody cancels may be run by a caller that waits for it or by one that goes on.
Both tell the same of it, whatever its child does, and neither ends with an error of its own. There
is one exception: neither can wait under a limit beyond all floating-point numbers.

* `Result.Consistent`: the numbers and the words of a result go by its outcome.
* `Result.Agrees`: two results tell the same of the same command line.
* `Behaviour.kills_asyncCourse`: **a child that overruns its limit is killed once.**
* `Single.runs_agree`: **both ways to run a command line tell the same of it.**
-/

namespace BatchExec

/-! ## Results -/

namespace Result

/-- The numbers and the words of a result go by its outcome. -/
structure Consistent (r : Result) : Prop where
  exitCode : r.exitCode.isSome = true ↔ r.outcome = .exited
  natural : ∀ code, r.exitCode = some code → 0 ≤ code
  signal : r.signal.isSome = true ↔ r.outcome = .signaled
  positive : ∀ signal, r.signal = some signal → 0 < signal
  error : r.error.isSome = true ↔
    r.outcome = .notFound ∨ r.outcome = .notExecutable ∨ r.outcome = .timedOut

/-- Two results tell the same of the same command line, though they may differ in the time. -/
structure Agrees (r s : Result) : Prop where
  invocation : r.invocation = s.invocation
  outcome : r.outcome = s.outcome
  exitCode : r.exitCode = s.exitCode
  signal : r.signal = s.signal
  error : r.error = s.error

theorem Agrees.refl (r : Result) : r.Agrees r := ⟨rfl, rfl, rfl, rfl, rfl⟩

end Result

namespace Runner

variable {i : Invocation} {limit : Option Seconds}

theorem consistent_exited (i : Invocation) (returnCode : Int) (runtime : TimeSpan) :
    (exited i returnCode runtime).1.Consistent := by
  unfold exited
  by_cases negative : returnCode < 0
  · rw [if_pos negative]
    refine ⟨by simp, by simp, by simp, ?_, by simp⟩
    rintro signal ⟨⟩
    omega
  · rw [if_neg negative]
    refine ⟨by simp, ?_, by simp, by simp, by simp⟩
    rintro code ⟨⟩
    omega

theorem consistent_failed (i : Invocation) (f : InvocationFailure) (runtime : TimeSpan) :
    (failed i f runtime).1.Consistent := by
  cases f with
  | timedOut limit argv => constructor <;> simp [failed]
  | notStarted reason exitCode argv =>
    by_cases missing : exitCode = some 127 <;> constructor <;> simp [failed, missing]

theorem agrees_exited (i : Invocation) (returnCode : Int) (runtime runtime' : TimeSpan) :
    (exited i returnCode runtime).1.Agrees (exited i returnCode runtime').1 := by
  unfold exited
  split <;> exact ⟨rfl, rfl, rfl, rfl, rfl⟩

theorem agrees_failed (i : Invocation) (f : InvocationFailure) (runtime runtime' : TimeSpan) :
    (failed i f runtime).1.Agrees (failed i f runtime').1 := by
  cases f <;> exact ⟨rfl, rfl, rfl, rfl, rfl⟩

/-- The result of a child goes by whether it overran its limit, not by when it ended. -/
theorem agrees_ranResult {course course' : Course} (same : course.timedOut = course'.timedOut)
    (time time' : Nat) (returnCode : Int) :
    (ranResult i limit time course returnCode).1.Agrees
      (ranResult i limit time' course' returnCode).1 := by
  have same : returned i limit course returnCode = returned i limit course' returnCode := by
    unfold returned
    rw [same]
  unfold ranResult
  dsimp only
  rw [same]
  cases returned i limit course' returnCode with
  | ok code => exact agrees_exited i code _ _
  | error failure => exact agrees_failed i failure _ _

theorem consistent_ranResult (i : Invocation) (limit : Option Seconds) (time : Nat)
    (course : Course) (returnCode : Int) :
    (ranResult i limit time course returnCode).1.Consistent := by
  unfold ranResult
  dsimp only
  cases returned i limit course returnCode with
  | ok code => exact consistent_exited i code _
  | error failure => exact consistent_failed i failure _

/-- Every result that is made of an execution is consistent. -/
theorem consistent_conclude {time : Nat} {e : Execution} {r : Result} {record : LogRecord}
    (concluded : conclude i limit time e = .ok (r, record)) : r.Consistent := by
  cases e with
  | notStarted failure =>
    have result : (failed i failure ⟨time, time⟩).1 = r :=
      congrArg Prod.fst (Except.ok.inj concluded)
    exact result ▸ consistent_failed i failure _
  | ran course returnCode =>
    have result : (ranResult i limit time course returnCode).1 = r :=
      congrArg Prod.fst (Except.ok.inj concluded)
    exact result ▸ consistent_ranResult i limit time course returnCode
  | broken failure | abandoned lifetime failure => contradiction

end Runner

/-! ## Children -/

namespace Behaviour

/-- The end of a child is noticed at once, and it does not fall on the very millisecond at which the
limit passes. -/
structure Prompt (c : Behaviour) (limit : Option Seconds) : Prop where
  reapDelay : c.reapDelay = 0
  apart : ∀ l ∈ limit, l.expiry ≠ some c.lifetime

variable {c : Behaviour} {limit : Option Seconds}

theorem kills_blockingCourse (c : Behaviour) (limit : Option Seconds) :
    (c.blockingCourse limit).kills = if c.overruns .blocking limit then 1 else 0 := by
  unfold blockingCourse overruns noticed
  cases limit with
  | none => rfl
  | some limit =>
    dsimp only
    rw [Option.any_some]
    cases limit.overrunBy c.lifetime <;> rfl

/-- A child that does not overrun its limit comes to its own end. -/
theorem ended_blockingCourse_of_stays (stays : c.overruns .blocking limit = false) :
    (c.blockingCourse limit).ended = c.lifetime := by
  unfold blockingCourse
  cases limit with
  | none => rfl
  | some limit =>
    have within : limit.overrunBy c.lifetime = false := stays
    simp only [within, Bool.false_eq_true, if_false]

theorem kills_killedCourse (c : Behaviour) (time : Nat) (timedOut : Bool) :
    (c.killedCourse time timedOut).kills = if c.lifetime ≤ time then 0 else 1 := by
  unfold killedCourse
  dsimp only
  split
  · rfl
  · split <;> rfl

/-- **A child that overruns its limit is killed once**, if its end is noticed at once. -/
theorem kills_asyncCourse (positive : ∀ l ∈ limit, l.Positive) (prompt : c.Prompt limit) :
    (c.asyncCourse limit).kills = if c.overruns .async limit then 1 else 0 := by
  unfold asyncCourse overruns noticed
  rw [prompt.reapDelay]
  cases limit with
  | none => rfl
  | some limit =>
    dsimp only
    rw [Option.any_some, (positive limit rfl).lapsed, if_neg Bool.false_ne_true, Nat.add_zero,
      Bool.and_false, Bool.false_or]
    cases late : limit.overrunBy c.lifetime with
    | false => rfl
    | true =>
      obtain ⟨expiry, passes, le⟩ :=
        Seconds.expiry_le_of_overrunBy (positive limit rfl).nonpositive late
      have before : expiry ≠ c.lifetime := fun same =>
        prompt.apart limit rfl (same ▸ passes)
      rw [if_pos rfl, if_pos rfl, passes, kills_killedCourse]
      exact if_neg (by simp only [Option.getD_some]; omega)

theorem kills_course (positive : ∀ l ∈ limit, l.Positive) (prompt : c.Prompt limit)
    (runner : Runner) :
    (c.course limit runner).kills = if c.overruns runner limit then 1 else 0 := by
  cases runner with
  | blocking => exact c.kills_blockingCourse limit
  | async => exact kills_asyncCourse positive prompt

theorem Prompt.overruns (prompt : c.Prompt limit) (positive : ∀ l ∈ limit, l.Positive) :
    c.overruns .blocking limit = c.overruns .async limit := by
  unfold Behaviour.overruns noticed
  rw [prompt.reapDelay]
  cases limit with
  | none => rfl
  | some limit => simp [(positive limit rfl).lapsed]

end Behaviour

/-! ## Both ways -/

namespace Single

variable {runner : Runner} {limit : Option Seconds} {c : Behaviour} {i : Invocation}

/-- A command line that ran on its own ends with a result that tells what became of its child. -/
structure Reports (single : Single) (limit : Option Seconds) (c : Behaviour) (i : Invocation)
    (r : Result) : Prop where
  ending : single.ending = .result r
  invocation : r.invocation = i
  consistent : r.Consistent
  /-- There is no such program just if the system says so. -/
  missing : r.outcome = .notFound ↔ ∃ f, c.spawnFailure i.argv = some f ∧
    (f.kind = .missingFile ∨ f.isSystem = true ∧ f.code = some Failure.noEntry)
  /-- A child that overran its limit was killed once and is gone. -/
  killed : r.outcome = .timedOut → single.attempt.spawned = true ∧ single.attempt.kills = 1 ∧
    single.attempt.ended ≤ single.time

theorem ending_run (runner : Runner) (limit : Option Seconds) (trace : Bool) (c : Behaviour)
    {r : Result} {record : LogRecord}
    (concluded : Runner.conclude i limit 0 (runner.execute i limit c) = .ok (r, record)) :
    run runner limit trace c none i =
      ofEnding runner trace i (runner.execute i limit c) (.result r) [.logged record] := by
  have goes : cutShort? runner limit c none i = none := by
    unfold cutShort?
    split
    · contradiction
    · rfl
  unfold run
  rw [goes]
  dsimp only
  rw [concluded]

/-- A child that overran its limit was killed once and is gone. -/
theorem killed_of_overruns (positive : ∀ l ∈ limit, l.Positive) (prompt : c.Prompt limit)
    (attended : ¬ c.Forsaken limit i.argv) (starts : c.spawnFailure i.argv = none)
    (late : c.overruns runner limit = true) (trace : Bool) (ending : SingleEnd)
    (closing : List Remark) :
    let single := ofEnding runner trace i (runner.execute i limit c) ending closing
    single.attempt.spawned = true ∧ single.attempt.kills = 1 ∧
      single.attempt.ended ≤ single.time := by
  have settable : ¬ limit.any Seconds.unbounded = true := fun unbounded =>
    attended ⟨unbounded, starts⟩
  have ran : runner.execute i limit c = .ran (c.course limit runner) c.returnCode := by
    unfold Runner.execute
    rw [starts]
    exact if_neg settable
  have kills : (c.course limit runner).kills = 1 := by
    rw [Behaviour.kills_course positive prompt, late, if_pos rfl]
  dsimp only
  rw [ran]
  exact ⟨rfl, kills, (Nat.zero_add _).trans_le (c.ended_course_le limit runner)⟩

/-- A command line that nobody cancels ends with a result. -/
theorem reports_run (understood : c.Understood) (positive : ∀ l ∈ limit, l.Positive)
    (prompt : c.spawnFailure i.argv = none → c.Prompt limit)
    (attended : ¬ c.Forsaken limit i.argv) (trace : Bool) :
    ∃ r record, Runner.conclude i limit 0 (runner.execute i limit c) = .ok (r, record) ∧
      (run runner limit trace c none i).Reports limit c i r := by
  obtain ⟨r, record, concluded, describes⟩ :=
    runner.describes_execute understood attended 0
  have outcome : r.outcome = (c.report runner limit i.argv).1 :=
    congrArg Prod.fst describes.report
  refine ⟨r, record, concluded, ?_⟩
  rw [ending_run runner limit trace c concluded]
  refine ⟨rfl, describes.invocation, Runner.consistent_conclude concluded, ?_, fun timedOut => ?_⟩
  · rw [outcome]
    unfold Behaviour.report
    cases fails : c.spawnFailure i.argv with
    | some f =>
      have missing : f.isMissing = true ↔
          f.kind = .missingFile ∨ f.isSystem = true ∧ f.code = some Failure.noEntry := by
        simp [Failure.isMissing]
      simp [← missing]
    | none =>
      dsimp only
      split
      · simp
      · split <;> simp
  · rw [outcome] at timedOut
    unfold Behaviour.report at timedOut
    cases starts : c.spawnFailure i.argv with
    | some f =>
      rw [starts] at timedOut
      cases missing : f.isMissing <;> simp [missing] at timedOut
    | none =>
      rw [starts] at timedOut
      cases late : c.overruns runner limit with
      | true => exact killed_of_overruns positive (prompt starts) attended starts late trace _ _
      | false =>
        rw [late] at timedOut
        by_cases negative : c.returnCode < 0 <;> simp [negative] at timedOut

/-- What is concluded either way is the same. -/
theorem agrees_of_conclude (positive : ∀ l ∈ limit, l.Positive)
    (prompt : c.spawnFailure i.argv = none → c.Prompt limit) {r s : Result}
    {record record' : LogRecord}
    (blocking : Runner.conclude i limit 0 (Runner.blocking.execute i limit c) = .ok (r, record))
    (async : Runner.conclude i limit 0 (Runner.async.execute i limit c) = .ok (s, record')) :
    r.Agrees s := by
  unfold Runner.execute at blocking async
  cases starts : c.spawnFailure i.argv with
  | some f =>
    rw [starts] at blocking async
    have same : (r, record) = (s, record') := Except.ok.inj (blocking.symm.trans async)
    cases same
    exact .refl r
  | none =>
    rw [starts] at blocking async
    dsimp only at blocking async
    split at async
    · contradiction
    · rename_i settable
      rw [if_neg settable] at blocking
      obtain rfl : (Runner.ranResult i limit 0 (c.blockingCourse limit) c.returnCode).1 = r :=
        congrArg Prod.fst (Except.ok.inj blocking)
      obtain rfl : (Runner.ranResult i limit 0 (c.asyncCourse limit) c.returnCode).1 = s :=
        congrArg Prod.fst (Except.ok.inj async)
      refine Runner.agrees_ranResult ?_ 0 0 c.returnCode
      rw [c.timedOut_blockingCourse, c.timedOut_asyncCourse, (prompt starts).overruns positive]

/-- Nobody waits for a child under a limit that cannot be set. -/
theorem broken_of_forsaken (forsaken : c.Forsaken limit i.argv) (runner : Runner) (trace : Bool) :
    (run runner limit trace c none i).ending = .broken Behaviour.limitFailure := by
  obtain ⟨unbounded, starts⟩ := forsaken
  have left : runner.execute i limit c = .abandoned c.lifetime Behaviour.limitFailure := by
    unfold Runner.execute
    rw [starts]
    exact if_pos unbounded
  have goes : cutShort? runner limit c none i = none := by
    unfold cutShort?
    split
    · contradiction
    · rfl
  unfold run
  rw [goes]
  dsimp only
  rw [left]
  rfl

/-- **Both ways to run a command line tell the same of it**, whatever its child does: there is
always a result, unless the child is left to itself since the limit cannot be set. Then both ways
end with an error that is not understood. -/
theorem runs_agree (understood : c.Understood) (positive : ∀ l ∈ limit, l.Positive)
    (prompt : c.spawnFailure i.argv = none → c.Prompt limit) (trace : Bool) :
    ((∃ r s, (run .blocking limit trace c none i).Reports limit c i r ∧
        (run .async limit trace c none i).Reports limit c i s ∧ r.Agrees s) ↔
      ¬ c.Forsaken limit i.argv) ∧
    (c.Forsaken limit i.argv → ∀ runner,
      (run runner limit trace c none i).ending = .broken Behaviour.limitFailure) := by
  refine ⟨⟨?_, fun attended => ?_⟩, fun forsaken runner => broken_of_forsaken forsaken runner trace⟩
  · rintro ⟨r, s, ends, -, -⟩ forsaken
    have broken := ends.ending.symm.trans (broken_of_forsaken forsaken .blocking trace)
    contradiction
  · obtain ⟨r, record, blocking, reports⟩ := reports_run understood positive prompt attended trace
    obtain ⟨s, record', async, reports'⟩ := reports_run understood positive prompt attended trace
    exact ⟨r, s, reports, reports', agrees_of_conclude positive prompt blocking async⟩

/-- A command line of two words. -/
def twoWords : Invocation := (Template.ofWords ["p"]).instantiate ⟨0, ["x"], by decide⟩

/-- A child that takes seven seconds. -/
def slow : Behaviour := { lifetime := 7000 }

/-- A child that overruns a limit of five seconds is killed once either way. -/
theorem slow_runs_agree : slow.Understood ∧ slow.Prompt (some (.int 5)) ∧
    ∃ r s, (run .blocking (some (.int 5)) true slow none twoWords).Reports (some (.int 5)) slow
        twoWords r ∧
      (run .async (some (.int 5)) true slow none twoWords).Reports (some (.int 5)) slow twoWords s ∧
      r.Agrees s ∧ r.outcome = .timedOut := by
  have understood : slow.Understood := by
    rintro f ⟨⟩
  have positive : ∀ l ∈ some (Seconds.int 5), l.Positive := by
    rintro l ⟨⟩
    exact (by decide : (0 : Int) < 5)
  have prompt : slow.Prompt (some (.int 5)) := by
    refine ⟨rfl, ?_⟩
    rintro l ⟨⟩
    decide
  have attended : ¬ slow.Forsaken (some (.int 5)) twoWords.argv := fun forsaken =>
    absurd forsaken.1 (by decide +kernel)
  obtain ⟨both, -⟩ := runs_agree (i := twoWords) understood positive (fun _ => prompt) true
  obtain ⟨r, s, reports, reports', agrees⟩ := both.mpr attended
  refine ⟨understood, prompt, r, s, reports, reports', agrees, ?_⟩
  have outcome : (match (run .blocking (some (.int 5)) true slow none twoWords).ending with
      | .result r => some r.outcome
      | _ => none) = some .timedOut := by decide +kernel
  rw [reports.ending] at outcome
  exact Option.some.inj outcome

/-- A child that takes five milliseconds. -/
def quick : Behaviour := { lifetime := 5 }

/-- Under a limit beyond all floating-point numbers, neither caller has a result of a child that
exits in time. -/
theorem limit_breaks_both :
    quick.Understood ∧ (∀ l ∈ some (Seconds.int Binary.overflow), l.Positive) ∧
      quick.Prompt (some (.int Binary.overflow)) ∧
      quick.overruns .blocking (some (.int Binary.overflow)) = false ∧
      ∀ runner r, (run runner (some (.int Binary.overflow)) false quick none twoWords).ending ≠
        .result r := by
  have understood : quick.Understood := by
    rintro f ⟨⟩
  have positive : ∀ l ∈ some (Seconds.int Binary.overflow), l.Positive := by
    rintro l ⟨⟩
    show (0 : Int) < Binary.overflow
    decide +kernel
  have prompt : quick.Prompt (some (.int Binary.overflow)) := by
    refine ⟨rfl, ?_⟩
    rintro l ⟨⟩
    decide +kernel
  have forsaken : quick.Forsaken (some (.int Binary.overflow)) twoWords.argv :=
    ⟨by decide +kernel, rfl⟩
  refine ⟨understood, positive, prompt, by decide +kernel, fun runner r ends => ?_⟩
  exact nomatch ends.symm.trans (broken_of_forsaken forsaken runner false)

end Single

end BatchExec
