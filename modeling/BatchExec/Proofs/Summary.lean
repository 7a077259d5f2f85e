import BatchExec.Schedule.Launch
import BatchExec.Summary
import Mathlib.Data.List.Nodup

/-!
# Summaries and the order of completion

* `Summary.sortByIndex_congr`: **results of different batches are sorted in one way only.**
* `Status.aggregate_perm`: **the status of a run does not depend on the order of its results.**
* `Feed.verdict`: what a run ends with.
-/

namespace BatchExec

namespace Summary

theorem pairwise_insertByIndex (r : Result) (results : List Result)
    (sorted : results.Pairwise (·.index ≤ ·.index)) :
    (insertByIndex r results).Pairwise (·.index ≤ ·.index) := by
  induction results with
  | nil => exact List.pairwise_singleton _ _
  | cons next rest ih =>
    obtain ⟨first, others⟩ := List.pairwise_cons.mp sorted
    unfold insertByIndex
    split
    · rename_i le
      refine List.pairwise_cons.mpr ⟨fun x mem => ?_, sorted⟩
      rcases List.mem_cons.mp mem with rfl | mem
      · exact le
      · exact Int.le_trans le (first x mem)
    · rename_i gt
      refine List.pairwise_cons.mpr ⟨fun x mem => ?_, ih others⟩
      rcases List.mem_cons.mp ((insertByIndex_perm r rest).mem_iff.mp mem) with rfl | mem
      · omega
      · exact first x mem

theorem pairwise_sortByIndex (results : List Result) :
    (sortByIndex results).Pairwise (·.index ≤ ·.index) := by
  induction results with
  | nil => exact List.Pairwise.nil
  | cons r rest ih => exact pairwise_insertByIndex r _ ih

/-- Results of different batches that are sorted by index are equal if they are the same but for
their order. -/
theorem eq_of_perm_of_pairwise {a b : List Result} (perm : a.Perm b)
    (distinct : (a.map Result.index).Nodup) (sorted : a.Pairwise (·.index ≤ ·.index))
    (sorted' : b.Pairwise (·.index ≤ ·.index)) : a = b := by
  refine List.Perm.eq_of_pairwise ?_ sorted sorted' perm
  intro x y mem mem' le ge
  have unique := List.inj_on_of_nodup_map distinct
  exact unique mem (perm.mem_iff.mpr mem') (Int.le_antisymm le ge)

/-- **Results of different batches are sorted in one way only.** -/
theorem sortByIndex_congr {a b : List Result} (perm : a.Perm b)
    (distinct : (a.map Result.index).Nodup) : sortByIndex a = sortByIndex b := by
  have perm' := ((sortByIndex_perm a).trans perm).trans (sortByIndex_perm b).symm
  have distinct' : ((sortByIndex a).map Result.index).Nodup :=
    ((sortByIndex_perm a).map _).nodup_iff.mpr distinct
  exact eq_of_perm_of_pairwise perm' distinct' (pairwise_sortByIndex a) (pairwise_sortByIndex b)

/-- Results that are in the order of their batches stay so. -/
theorem sortByIndex_of_pairwise {results : List Result}
    (increasing : results.Pairwise (·.index < ·.index)) : sortByIndex results = results := by
  have distinct : (results.map Result.index).Nodup :=
    List.pairwise_map.mpr (increasing.imp Int.ne_of_lt)
  have distinct' : ((sortByIndex results).map Result.index).Nodup :=
    ((sortByIndex_perm results).map _).nodup_iff.mpr distinct
  exact eq_of_perm_of_pairwise (sortByIndex_perm results) distinct' (pairwise_sortByIndex results)
    (increasing.imp Int.le_of_lt)

end Summary

namespace Status

theorem exitOf_perm {a b : List Result} (perm : a.Perm b) : exitOf a = exitOf b := by
  have same (p : Result → Bool) : a.any p = b.any p := perm.any_eq
  unfold exitOf anyFailed
  simp only [same]

/-- **The status of a run does not depend on the order of its results.** -/
theorem aggregate_perm {a b : List Result} (perm : a.Perm b) (cancelled : Bool) :
    aggregate a cancelled = aggregate b cancelled := by
  unfold aggregate
  rw [exitOf_perm perm, perm.length_eq, perm.countP_eq]

end Status

/-- A source that does not fail has no failure to relay. -/
theorem Feed.relayed_of_whole {feed : Feed} (whole : feed.failure = none) (detour : Bool) :
    feed.relayed detour = feed := by
  rw [relayed, whole, Option.bind_none, ← whole]

/-- What a run ends with: `early` tells whether a batch was turned away. If the source fails, its
failure is what the run ends with, even if there is a fault. -/
def Feed.verdict (feed : Feed) (early : Bool) (fault : Option Fault) (completed : List Result)
    (time : Nat) (peak : Int) : Except RunError Summary :=
  match (if early then none else feed.failure), fault with
  | some failure, _ => .error (.source failure)
  | none, some fault => .error (.fault fault)
  | none, none => .ok (Summary.ofCompleted completed early (.upTo time) peak)

end BatchExec
