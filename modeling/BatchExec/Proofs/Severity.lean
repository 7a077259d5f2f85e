import BatchExec.Proofs.Outcome
import BatchExec.Proofs.Summary

/-!
# The status as a number

As a number, the exit status of a run is the greatest of those that its results call for on their
own. So results can be aggregated in parts and in any order.

* `Status.code_exitOf_cons`: what one more result does to the status.
* `Status.code_exitOf`: **the status is the greatest that a result calls for.**
* `Status.aggregate_parts`: **aggregation of two parts, of single results, and in any order.**
-/

namespace BatchExec

/-- The numbers by which a run tells how its commands ended. -/
theorem Result.code_status_mem (r : Result) : r.status.code ∈ [0, 123, 124, 126, 127] := by
  rw [r.status_eq]
  cases r.success <;> cases r.outcome <;> decide

namespace Status

/-- **One more result raises the status to the one that it calls for**, unless it is as great. -/
theorem code_exitOf_cons (r : Result) (rest : List Result) :
    (exitOf (r :: rest)).code = max r.status.code (exitOf rest).code := by
  rw [r.status_eq]
  unfold exitOf anyFailed
  by_cases success : r.success = true
  · simp only [List.any_cons, success, Bool.not_true, Bool.false_and, Bool.false_or, if_true]
    exact (Nat.zero_max _).symm
  · simp only [List.any_cons, success, Bool.not_false, Bool.true_and, Bool.true_or, if_true,
      Bool.false_eq_true, if_false]
    -- the cascade asks three questions about the other failures, and whether there are any
    generalize rest.any (fun r => !r.success && r.outcome == .notFound) = missing
    generalize rest.any (fun r => !r.success && r.outcome == .notExecutable) = unfit
    generalize rest.any (fun r => !r.success && r.outcome == .timedOut) = late
    generalize rest.any (fun r => !r.success) = failed
    revert missing unfit late failed
    cases r.outcome <;> decide

/-- **The status of a run is the greatest that a result calls for**, and zero if there is none. -/
theorem code_exitOf (results : List Result) :
    (exitOf results).code = (results.map fun r => r.status.code).foldr max 0 := by
  induction results with
  | nil => rfl
  | cons r rest ih => rw [code_exitOf_cons, ih, List.map_cons, List.foldr_cons]

theorem code_exitOf_append (a b : List Result) :
    (exitOf (a ++ b)).code = max (exitOf a).code (exitOf b).code := by
  induction a with
  | nil => exact (Nat.zero_max _).symm
  | cons r rest ih =>
    rw [List.cons_append, code_exitOf_cons, ih, code_exitOf_cons, Nat.max_assoc]

theorem code_exitOf_mem (results : List Result) :
    (exitOf results).code ∈ [0, 123, 124, 126, 127] := by
  induction results with
  | nil => decide
  | cons r rest ih =>
    rw [code_exitOf_cons]
    rcases Nat.le_total r.status.code (exitOf rest).code with le | le
    · rwa [Nat.max_eq_right le]
    · rw [Nat.max_eq_left le]
      exact r.code_status_mem

/-- A result calls for zero only if it is a success. -/
theorem code_status_eq_zero (r : Result) : r.status.code = 0 ↔ r.success = true := by
  rw [r.status_eq]
  cases r.success <;> cases r.outcome <;> decide

/-- A run ends with zero only if no result is a failure. -/
theorem code_exitOf_eq_zero (results : List Result) :
    (exitOf results).code = 0 ↔ results.countP (fun r => !r.success) = 0 := by
  induction results with
  | nil => decide
  | cons r rest ih =>
    have head := code_status_eq_zero r
    rw [code_exitOf_cons, List.countP_cons]
    cases success : r.success with
    | true =>
      rw [head.mpr success, Nat.zero_max, ih]
      rfl
    | false =>
      have positive : r.status.code ≠ 0 := fun zero => by simp [head.mp zero] at success
      simp [positive]

/-- **Aggregation is a homomorphism into the precedence of the statuses**: it takes two parts to the
greater of their statuses and to the sums of their counts, single results to the statuses that they
call for, and results in another order to the same status. The flag plays no part in the exit
status, which is zero if and only if nothing failed. In a summary, what is counted as failed is what
is listed as failed. -/
theorem aggregate_parts (a b : List Result) (cancelled first second : Bool) (s : Summary) :
    ((aggregate (a ++ b) cancelled).exit.code =
        max (aggregate a first).exit.code (aggregate b second).exit.code ∧
      (aggregate (a ++ b) cancelled).total =
        (aggregate a first).total + (aggregate b second).total ∧
      (aggregate (a ++ b) cancelled).failed =
        (aggregate a first).failed + (aggregate b second).failed) ∧
    (aggregate a first).exit = (aggregate a second).exit ∧
    ((aggregate a first).exit.code = 0 ↔ (aggregate a first).failed = 0) ∧
    (aggregate a first).exit.code = (a.map fun r => r.status.code).foldr max 0 ∧
    (∀ other, other.Perm a → aggregate other first = aggregate a first) ∧
    s.status.failed = s.failed.length ∧
    (s.succeeded ++ s.failed).Perm s.results ∧
    ∀ r, (r ∈ s.succeeded ↔ r ∈ s.results ∧ r.success = true) ∧
      (r ∈ s.failed ↔ r ∈ s.results ∧ r.success = false) :=
  ⟨⟨code_exitOf_append a b, List.length_append, List.countP_append⟩, rfl, code_exitOf_eq_zero a,
    code_exitOf a, fun _ perm => aggregate_perm perm first, List.countP_eq_length_filter,
    List.filter_append_perm _ _, fun r => by simp [Summary.succeeded, Summary.failed]⟩

/-- A command that is not found outweighs one that exits with one, in either order. -/
theorem missing_outweighs :
    let failing : Result :=
      { invocation := ⟨⟨0, ["a"], by decide⟩, ["p", "a"]⟩, outcome := .exited, exitCode := some 1 }
    let missing : Result :=
      { invocation := ⟨⟨1, ["b"], by decide⟩, ["p", "b"]⟩, outcome := .notFound }
    [missing, failing].Perm [failing, missing] ∧
      aggregate [missing, failing] true = aggregate [failing, missing] true ∧
      (aggregate [failing, missing] true).exit.code = 127 :=
  have parts := aggregate_parts [_, _] [] true true true ⟨[], [], true, .upTo 0, 0⟩
  ⟨.swap .., parts.2.2.2.2.1 _ (.swap ..), parts.2.2.2.1.trans (by decide)⟩

end Status

end BatchExec
