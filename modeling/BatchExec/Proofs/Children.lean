import BatchExec.Pipeline
import BatchExec.Proofs.Flight
import Mathlib.Tactic.ByContra
import Mathlib.Tactic.Set

/-!
# Launches and their children

A launch that runs a command line waits for its child, whatever the child does and whatever becomes
of it. There is one exception: if it cannot set the time limit, a launch ends with an error and
leaves its child to itself.

* `Pipeline.launch_reaps`: **a launch ends before its child only with an error.**
* `Config.Abandons`: a configuration under which launches leave their children to themselves.
* `Pipeline.launch_attends`: **under all other configurations no launch ends before its child.**
-/

namespace BatchExec

/-! ## Courses -/

namespace Behaviour

variable (c : Behaviour) (limit : Option Seconds)

theorem ended_blockingCourse :
    (c.blockingCourse limit).ended = (c.blockingCourse limit).duration := by
  unfold blockingCourse
  split
  · dsimp only
    split <;> rfl
  · rfl

theorem ended_killedCourse_le (time : Nat) (timedOut : Bool) :
    (c.killedCourse time timedOut).ended ≤ (c.killedCourse time timedOut).duration := by
  unfold killedCourse
  dsimp only
  split
  · exact Nat.le_add_right c.lifetime c.reapDelay
  · split
    · exact Nat.le_add_right c.lifetime c.reapDelay
    · exact Nat.le_add_right time c.killDelay

theorem ended_asyncCourse_le : (c.asyncCourse limit).ended ≤ (c.asyncCourse limit).duration := by
  unfold asyncCourse
  dsimp only
  split
  · split
    · exact c.ended_killedCourse_le _ _
    · split
      · exact c.ended_killedCourse_le _ _
      · exact Nat.le_add_right c.lifetime c.reapDelay
  · exact Nat.le_add_right c.lifetime c.reapDelay

theorem ended_course_le (runner : Runner) :
    (c.course limit runner).ended ≤ (c.course limit runner).duration := by
  cases runner with
  | blocking => exact Nat.le_of_eq (c.ended_blockingCourse limit)
  | async => exact c.ended_asyncCourse_le limit

/-- A child starts only if its command line holds no null character. -/
theorem clean_of_spawnFailure {argv : List Text} (starts : c.spawnFailure argv = none) :
    ∀ word ∈ argv, word.contains CodePoint.null = false := by
  intro word mem
  unfold spawnFailure at starts
  by_contra null
  have some : argv.any (·.contains CodePoint.null) = true :=
    List.any_eq_true.mpr ⟨word, mem, eq_true_of_ne_false null⟩
  rw [if_pos some] at starts
  cases own : c.failure <;> simp [own] at starts

end Behaviour

/-! ## Launches -/

namespace Runner

variable {runner : Runner} {i : Invocation} {limit : Option Seconds} {c : Behaviour}

theorem ended_le_duration {course : Course} {returnCode : Int}
    (ran : runner.execute i limit c = .ran course returnCode) : course.ended ≤ course.duration := by
  unfold execute at ran
  split at ran
  · split at ran <;> contradiction
  · split at ran
    · contradiction
    · cases ran
      exact c.ended_course_le limit runner

/-- A launch leaves its child to itself only if the limit cannot be set. -/
theorem of_abandoned {lifetime : Nat} {failure : Failure}
    (abandoned : runner.execute i limit c = .abandoned lifetime failure) :
    limit.any Seconds.unbounded = true ∧
      ∀ word ∈ i.argv, word.contains CodePoint.null = false := by
  unfold execute at abandoned
  split at abandoned
  · split at abandoned <;> contradiction
  · rename_i starts
    split at abandoned
    · rename_i unbounded
      exact ⟨unbounded, c.clean_of_spawnFailure starts⟩
    · contradiction

variable (trace : Bool) (pid time : Nat)

theorem attempt_plan : (runner.plan limit trace c pid time i).attempt =
    some (attempt i time (runner.execute i limit c)) := by
  unfold plan
  dsimp only
  split <;> rfl

theorem duration_plan : (runner.plan limit trace c pid time i).duration =
    (runner.execute i limit c).duration? := by
  unfold plan
  dsimp only
  split <;> rfl

theorem raises_plan : (runner.plan limit trace c pid time i).raises =
    match runner.execute i limit c with
    | .broken _ | .abandoned _ _ => true
    | _ => false := by
  unfold plan
  cases runner.execute i limit c <;> rfl

/-- A launch ends before its child only with an error. -/
theorem settledBy_plan : (runner.plan limit trace c pid time i).SettledBy
    (time + (runner.plan limit trace c pid time i).duration.getD 0) := by
  intro fine a tried spawned
  rw [attempt_plan] at tried
  cases tried
  rw [raises_plan] at fine
  rw [duration_plan]
  cases execution : runner.execute i limit c with
  | ran course returnCode =>
    exact Nat.add_le_add_left (ended_le_duration execution) time
  | abandoned lifetime failure =>
    rw [execution] at fine
    contradiction
  | notStarted failure | broken failure =>
    rw [execution] at spawned
    contradiction

end Runner

/-- A configuration under which a launch leaves its child to itself: the child may start, but the
time limit cannot be set. -/
def Config.Abandons (config : Config) : Prop :=
  config.timeout.any Seconds.unbounded = true ∧
    ∀ word ∈ config.command, word.contains CodePoint.null = false

namespace Pipeline

variable (runner : Runner) (config : Config) (children : Children)

/-- **A launch ends before its child only with an error.** -/
theorem launch_reaps : (launch runner config children).Reaps :=
  fun _ time _ => Runner.settledBy_plan _ _ time

/-- **If the time limit can be set, no launch ends before its child.** -/
theorem launch_attends (attends : ¬ config.Abandons) :
    (launch runner config children).Attends := by
  intro ordinal time b raises a tried
  unfold launch at raises tried
  rw [Runner.raises_plan] at raises
  rw [Runner.attempt_plan] at tried
  cases tried
  cases execution : runner.execute ((Template.ofWords config.command).instantiate b)
      config.timeout (children ordinal) with
  | ran course returnCode =>
    rw [execution] at raises
    contradiction
  | abandoned lifetime failure =>
    obtain ⟨unbounded, clean⟩ := Runner.of_abandoned execution
    refine absurd ⟨unbounded, fun word mem => clean word ?_⟩ attends
    have words : config.command ≠ [] := List.ne_nil_of_mem mem
    simp [Template.ofWords, words, Template.instantiate, mem]
  | notStarted failure | broken failure => rfl

/-- The course of a launch that ends with an error at once and leaves its child to itself. -/
def forsakingPlan (opening : List Remark) (argv : List Text) (time lifetime : Nat)
    (waitsFor : WaitKind) (signal nextSignal : Option Nat) : Plan where
  opening
  attempt := some ⟨argv, time, true, 0, time + lifetime⟩
  waitsFor
  ending := .raised Behaviour.limitFailure
  signal
  nextSignal

/-- A launch under a configuration that abandons leaves a child that starts to itself. -/
theorem launch_of_abandons (abandons : config.Abandons) {b : Batch}
    (clean : ∀ item ∈ b.items, item.contains CodePoint.null = false) (ordinal : Nat)
    (starts : (children ordinal).failure = none) (time : Nat) :
    ∃ opening argv waitsFor signal nextSignal, launch runner config children ordinal time b =
      forsakingPlan opening argv time (children ordinal).lifetime waitsFor signal nextSignal := by
  obtain ⟨unbounded, words⟩ := abandons
  set i := (Template.ofWords config.command).instantiate b with hi
  have argv : i.argv.any (·.contains CodePoint.null) = false := by
    rw [List.any_eq_false]
    intro word mem
    rw [hi, Template.instantiate, Template.ofWords] at mem
    rcases List.mem_append.mp mem with fixed | item
    · split at fixed
      · rw [List.mem_singleton.mp fixed]
        decide
      · rw [words word fixed]
        exact Bool.false_ne_true
    · rw [clean word item]
      exact Bool.false_ne_true
  have spawns : (children ordinal).spawnFailure i.argv = none := by
    rw [Behaviour.spawnFailure, starts, argv]
    rfl
  have execution : runner.execute i config.timeout (children ordinal) =
      .abandoned (children ordinal).lifetime Behaviour.limitFailure := by
    simp only [Runner.execute, spawns, unbounded, if_true]
  unfold launch Runner.plan
  rw [← hi, execution]
  exact ⟨_, i.argv, _, _, _, rfl⟩

end Pipeline

end BatchExec
