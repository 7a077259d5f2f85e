import BatchExec.Proofs.Runners

/-!
# Ends that are noticed late

A caller that goes on is told of the end of its child, and this may take a while. Its limit counts
until then. So a child that ends in time is reported to have overrun the limit, if the limit passes
before its end is noticed.

* `Seconds.Exceeded`: a limit in seconds is less than a time in milliseconds, or is not a number.
* `Seconds.overrunBy_iff`: **what overruns a limit takes longer than its seconds.**
* `Result.Tells`: a result tells how a child ended, or that it was late.
* `Single.tells_by_notice`: **a result goes by when the end of the child is noticed**, not by when
  the child ends.
-/

namespace BatchExec

/-! ## Limits -/

namespace Seconds

/-- A thousand times the seconds of a limit, multiplied as floating-point numbers are; none if this
is infinite or no number. -/
def thousandfold : Seconds → Option ℚ
  | .int n => some (1000 * n)
  | .bool b => some (if b then 1000 else 0)
  | .float x => (Binary.decode (1000 * x)).map Binary.value

/-- Something takes more milliseconds than a thousand times the seconds of a limit. A limit that is
not a number is exceeded from the start. -/
def Exceeded (s : Seconds) (ms : Nat) : Prop :=
  s.isNaN = true ∨ ∃ limit, s.thousandfold = some limit ∧ limit < ms

/-- **What overruns a limit takes longer than its seconds.** -/
theorem overrunBy_iff {s : Seconds} (positive : s.nonpositive = false) (ms : Nat) :
    s.overrunBy ms = true ↔ ∃ limit, s.thousandfold = some limit ∧ limit < ms := by
  unfold overrunBy
  cases s with
  | int n =>
    simp only [lastInTime, thousandfold, decide_eq_true_eq, Option.some.injEq, exists_eq_left']
    exact_mod_cast Iff.rfl
  | bool b => cases b <;> simp [lastInTime, thousandfold]
  | float x =>
    cases decoded : Binary.decode (1000 * x) with
    | none => simp [lastInTime, thousandfold, decoded, positive]
    | some b => simp [lastInTime, thousandfold, decoded, Binary.floor_lt_iff]

/-- A child overruns a limit for a caller that goes on if the notice of its end exceeds it. -/
theorem overruns_async_iff {s : Seconds} (positive : s.nonpositive = false) (c : Behaviour) :
    c.overruns .async (some s) = true ↔ s.Exceeded (c.lifetime + c.reapDelay) := by
  show (s.lapsed || s.overrunBy (c.lifetime + c.reapDelay)) = true ↔ _
  rw [lapsed, positive, Bool.false_or, Bool.or_eq_true, overrunBy_iff positive]
  rfl

end Seconds

/-! ## Results -/

/-- A child exits with a code that is not negative, or a signal with a positive number ends it. -/
structure Behaviour.Regular (c : Behaviour) : Prop where
  exitCode : 0 ≤ c.exitCode
  signal : ∀ signal, c.signal = some signal → 0 < signal

/-- A result tells that a child was late if it was, and how the child ended if it was not. -/
structure Result.Tells (r : Result) (c : Behaviour) (late : Prop) : Prop where
  timedOut : r.outcome = .timedOut ↔ late
  exited : ¬ late → c.signal = none → r.outcome = .exited ∧ r.exitCode = some c.exitCode
  signaled : ¬ late → ∀ signal, c.signal = some signal →
    r.outcome = .signaled ∧ r.signal = some signal

namespace Single

variable {s : Seconds} {c : Behaviour} {i : Invocation}

/-- A command line on its own ends with a result that tells whether its child was late. -/
def Tells (single : Single) (i : Invocation) (c : Behaviour) (late : Prop) : Prop :=
  ∃ r, single.ending = .result r ∧ r.invocation = i ∧ r.Tells c late

/-- The report of a child tells whether the limit passed before its end was noticed. -/
theorem tells_of_report (starts : c.spawnFailure i.argv = none)
    (positive : s.nonpositive = false) (regular : c.Regular) {r : Result}
    (report : (r.outcome, r.exitCode, r.signal) = c.report .async (some s) i.argv) :
    r.Tells c (s.Exceeded (c.lifetime + c.reapDelay)) := by
  have late := Seconds.overruns_async_iff positive c
  unfold Behaviour.report at report
  rw [starts] at report
  dsimp only at report
  rw [← late]
  cases overruns : c.overruns .async (some s) with
  | true =>
    rw [overruns, if_pos rfl] at report
    have outcome : r.outcome = .timedOut := congrArg Prod.fst report
    exact ⟨iff_of_true outcome rfl, fun within => absurd rfl within,
      fun within => absurd rfl within⟩
  | false =>
    rw [overruns, if_neg Bool.false_ne_true] at report
    cases signal : c.signal with
    | none =>
      have code : c.returnCode = c.exitCode := by simp [Behaviour.returnCode, signal]
      rw [code, if_neg (Int.not_lt.mpr regular.exitCode)] at report
      have outcome : r.outcome = .exited := congrArg Prod.fst report
      have exitCode : r.exitCode = some c.exitCode := congrArg (·.2.1) report
      refine ⟨by simp [outcome], fun _ _ => ⟨outcome, exitCode⟩, fun _ n ends => ?_⟩
      rw [signal] at ends
      contradiction
    | some n =>
      have code : c.returnCode = -n := by simp [Behaviour.returnCode, signal]
      have negative : -n < 0 := Int.neg_neg_of_pos (regular.signal n signal)
      rw [code, if_pos negative, Int.neg_neg] at report
      have outcome : r.outcome = .signaled := congrArg Prod.fst report
      have ended : r.signal = some n := congrArg (·.2.2) report
      refine ⟨by simp [outcome], fun _ exits => ?_, fun _ n' ends => ?_⟩
      · rw [signal] at exits
        contradiction
      · rw [signal] at ends
        exact ⟨outcome, ended.trans ends⟩

/-- Under a limit that can be set, a result goes by when the end of the child is noticed. -/
theorem tells_run (starts : c.spawnFailure i.argv = none) (positive : s.nonpositive = false)
    (regular : c.Regular) (settable : s.unbounded = false) (trace : Bool) :
    (run .async (some s) trace c none i).Tells i c (s.Exceeded (c.lifetime + c.reapDelay)) := by
  have understood : c.Understood := by
    intro f fails
    simp [Behaviour.spawnFailure, fails] at starts
  have attended : ¬ c.Forsaken (some s) i.argv := fun forsaken =>
    Bool.false_ne_true (settable.symm.trans forsaken.1)
  obtain ⟨r, record, concluded, describes⟩ :=
    Runner.async.describes_execute understood attended 0
  refine ⟨r, ?_, describes.invocation, tells_of_report starts positive regular describes.report⟩
  rw [ending_run .async (some s) trace c concluded]
  rfl

/-- Under a limit that cannot be set there is no result of a child that starts. -/
theorem not_tells_of_unbounded (starts : c.spawnFailure i.argv = none)
    (unbounded : s.unbounded = true) (trace : Bool) (late : Prop) :
    ¬ (run .async (some s) trace c none i).Tells i c late := by
  have forsaken : c.Forsaken (some s) i.argv := ⟨unbounded, starts⟩
  rintro ⟨r, ends, -⟩
  exact nomatch ends.symm.trans (broken_of_forsaken forsaken .async trace)

/-- What is told of a child is told in one way only. -/
theorem Tells.iff_of_tells {single : Single} {late late' : Prop} (tells : single.Tells i c late)
    (tells' : single.Tells i c late') : late ↔ late' := by
  obtain ⟨r, ends, -, told⟩ := tells
  obtain ⟨r', ends', -, told'⟩ := tells'
  obtain rfl : r = r' := SingleEnd.result.inj (ends.symm.trans ends')
  exact told.timedOut.symm.trans told'.timedOut

/-- **A result goes by when the end of the child is noticed.** A command line whose child starts
ends with a result if its limit can be set, and then the child is reported to be late just if its
end is noticed when the limit has passed. So the report goes by when the child ends if and only if
the limit does not pass between its end and the notice of it. -/
theorem tells_by_notice (starts : c.spawnFailure i.argv = none) (positive : s.nonpositive = false)
    (regular : c.Regular) (trace : Bool) :
    ((run .async (some s) trace c none i).Tells i c (s.Exceeded (c.lifetime + c.reapDelay)) ↔
      s.unbounded = false) ∧
    ((run .async (some s) trace c none i).Tells i c (s.Exceeded c.lifetime) ↔
      s.unbounded = false ∧
        ¬ (s.Exceeded (c.lifetime + c.reapDelay) ∧ ¬ s.Exceeded c.lifetime)) := by
  cases bound : s.unbounded with
  | true =>
    have silent := not_tells_of_unbounded starts bound trace
    simp [silent]
  | false =>
    have tells := tells_run starts positive regular bound trace
    have longer : s.Exceeded c.lifetime → s.Exceeded (c.lifetime + c.reapDelay) := by
      refine Or.imp_right fun ⟨limit, least, late⟩ => ⟨limit, least, late.trans_le ?_⟩
      exact_mod_cast Nat.le_add_right _ _
    refine ⟨iff_of_true tells rfl, fun told => ⟨rfl, fun between => ?_⟩, fun apart => ?_⟩
    · exact between.2 ((told.iff_of_tells tells).mpr between.1)
    · have same : s.Exceeded (c.lifetime + c.reapDelay) = s.Exceeded c.lifetime :=
        propext ⟨fun noticed => not_not.mp fun within => apart.2 ⟨noticed, within⟩, longer⟩
      exact same ▸ tells

/-- A child that exits after 990 milliseconds, which is noticed 20 milliseconds later. -/
def tardy : Behaviour := { lifetime := 990, reapDelay := 20 }

theorem regular_tardy : tardy.Regular := ⟨by decide, nofun⟩

/-- The child exits within two seconds, and its end is noticed within them too. -/
theorem tardy_told : tardy.spawnFailure twoWords.argv = none ∧
    (Seconds.int 2).nonpositive = false ∧ tardy.Regular ∧
    ∃ r, (run .async (some (.int 2)) true tardy none twoWords).ending = .result r ∧
      r.outcome = .exited ∧ r.exitCode = some 0 := by
  have starts : tardy.spawnFailure twoWords.argv = none := rfl
  have within : ¬ (Seconds.int 2).Exceeded tardy.lifetime := fun exceeded =>
    absurd ((Seconds.overrunBy_iff rfl _).mpr (exceeded.resolve_left nofun)) (by decide)
  have noticed : ¬ (Seconds.int 2).Exceeded (tardy.lifetime + tardy.reapDelay) := fun exceeded =>
    absurd ((Seconds.overrunBy_iff rfl _).mpr (exceeded.resolve_left nofun)) (by decide)
  have told := tells_by_notice (s := .int 2) starts rfl regular_tardy true
  have settable : (Seconds.int 2).unbounded = false := by decide +kernel
  obtain ⟨r, ends, -, tells⟩ := told.2.mpr ⟨settable, fun between => noticed between.1⟩
  exact ⟨starts, rfl, regular_tardy, r, ends, tells.exited within rfl⟩

/-- The child ends within one second and nobody kills it, but its end is noticed when the second has
passed: it is reported to have overrun its limit. -/
theorem tardy_called_late : tardy.spawnFailure twoWords.argv = none ∧
    (Seconds.int 1).nonpositive = false ∧ tardy.Regular ∧
    [tardy.lifetime, tardy.lifetime + tardy.reapDelay, 1000].Nodup ∧
    (Seconds.int 1).expiry = some 1000 ∧ ¬ (Seconds.int 1).Exceeded tardy.lifetime ∧
    (∃ r, (run .async (some (.int 1)) false tardy none twoWords).ending = .result r ∧
      r.outcome = .timedOut) ∧
    (run .async (some (.int 1)) false tardy none twoWords).attempt.kills = 0 ∧
    ¬ (run .async (some (.int 1)) false tardy none twoWords).Tells twoWords tardy
      ((Seconds.int 1).Exceeded tardy.lifetime) := by
  have starts : tardy.spawnFailure twoWords.argv = none := rfl
  have settable : (Seconds.int 1).unbounded = false := by decide +kernel
  have within : ¬ (Seconds.int 1).Exceeded tardy.lifetime := fun exceeded =>
    absurd ((Seconds.overrunBy_iff rfl _).mpr (exceeded.resolve_left nofun)) (by decide)
  have noticed : (Seconds.int 1).Exceeded (tardy.lifetime + tardy.reapDelay) :=
    .inr ((Seconds.overrunBy_iff rfl _).mp (by decide))
  have tells := tells_run (s := .int 1) starts rfl regular_tardy settable false
  have ⟨r, ends, _, told⟩ := tells
  refine ⟨starts, rfl, regular_tardy, by decide, rfl, within, ⟨r, ends, told.timedOut.mpr noticed⟩,
    ?_, fun tells' => within ((tells'.iff_of_tells tells).mpr noticed)⟩
  decide +kernel

end Single

end BatchExec
