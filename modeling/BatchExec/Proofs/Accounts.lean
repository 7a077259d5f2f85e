import BatchExec.Proofs.Pool.Demand
import BatchExec.Proofs.Setting

/-!
# Every batch is accounted for

Whatever the launches, the source, the receiver of events and those who cancel the run do in
whatever order, and whichever thread goes on, a run that does not break launches the first batches
of the source, each once, and reports on exactly these. It hands them out in the order of the
source; whether the threads then start them in this order is up to the threads.

* `Numbered`: batches have the indices `0`, `1`, `2` and so on.
* `Accounts`: a summary accounts for the batches of a source.
* `Setting.every_batch_accounted`: **both schedules account for every batch.**
-/

namespace BatchExec

/-- Batches with the indices `0`, `1`, `2` and so on. -/
def Numbered (batches : List Batch) : Prop :=
  ∀ i (bound : i < batches.length), batches[i].index = i

/-- The positions of the batches that were launched, in the order in which they were. -/
def History.positions (h : History) : List Nat := h.launched.map (·.index.toNat)

/-- The summary of a run accounts for the batches of a source. -/
structure Accounts (launch : Launcher) (overtakes : Prop) (batches : List Batch) (h : History)
    (s : Summary) : Prop where
  /-- As many results as there are batches in some first part of the source, -/
  size : s.results.length ≤ batches.length
  /-- exactly these get slots, in order, -/
  admitted : h.admitted = batches.take s.results.length
  /-- each of them is launched once, -/
  launched : h.launched.Perm (batches.take s.results.length)
  /-- and they start in order unless a launch may overtake another; -/
  inOrder : ¬ overtakes → h.launched = batches.take s.results.length
  /-- each launch ends, -/
  landed : h.landed.Perm h.launched
  /-- and the result at the position of its batch is what it comes to; -/
  results : ∀ f ∈ h.flights launch, ∃ (i : Nat) (r : Result),
    batches[i]? = some f.batch ∧ s.results[i]? = some r ∧ f.result? = some r
  /-- each result has the index of its position, -/
  positions : ∀ i (bound : i < s.results.length), s.results[i].index = i
  /-- the order of completion names each index once, -/
  order : s.completionOrder.Perm ((List.range s.results.length).map Int.ofNat)
  /-- and the run is cancelled if and only if some batch was not launched. -/
  cancelled : s.cancelled = true ↔ s.results.length < batches.length

theorem Numbered.map_index {batches : List Batch} (numbered : Numbered batches) :
    batches.map Batch.index = (List.range batches.length).map Int.ofNat := by
  refine List.ext_getElem (by simp) fun i bound _ => ?_
  rw [List.getElem_map, List.getElem_map, List.getElem_range]
  exact numbered i (by simpa using bound)

theorem Numbered.take {batches : List Batch} (numbered : Numbered batches) (n : Nat) :
    Numbered (batches.take n) := by
  intro i bound
  rw [List.getElem_take]
  exact numbered i (by simp at bound; omega)

theorem pairwise_range (n : Nat) : ((List.range n).map Int.ofNat).Pairwise (· < ·) :=
  List.pairwise_map.mpr (List.pairwise_lt_range.imp Int.ofNat_lt.mpr)

theorem index_groupFrom (size : Nat) (closes : Bool) (index taken room : Nat)
    (pending items : List Text) (i : Nat)
    (bound : i < (ItemSource.groupFrom size closes index taken room pending items).length) :
    ((ItemSource.groupFrom size closes index taken room pending items)[i]).batch.index =
      (index + i : Nat) := by
  fun_induction ItemSource.groupFrom size closes index taken room pending items generalizing i with
  | case1 index taken _ pending some _ =>
    obtain rfl : i = 0 := by simpa using bound
    rfl
  | case2 | case3 => exact absurd bound (Nat.not_lt_zero i)
  | case4 index taken pending item rest ih =>
    cases i with
    | zero => rfl
    | succ i =>
      rw [List.getElem_cons_succ, ih]
      congr 1
      omega
  | case5 index taken pending item rest room ih => exact ih i bound

/-- The batches that items are grouped into are numbered. -/
theorem numbered_group (source : ItemSource) (size : Nat) :
    Numbered ((source.group size).map Grouped.batch) := by
  intro i bound
  rw [List.getElem_map]
  have counted := index_groupFrom size source.failure.isNone 0 0 (size - 1) [] source.items i
    (by simpa [ItemSource.group] using bound)
  rwa [Nat.zero_add] at counted

namespace Roster

variable {rules : Rules} {all : List Batch} {r : Roster}

/-- At rest the batches whose launches started are the first ones of the source. -/
theorem Sound.admitted_eq_take (s : r.Sound rules all) (rests : r.Rests) :
    r.history.admitted = all.take r.history.launched.length := by
  rw [(s.launched_perm rests).length_eq]
  exact List.prefix_iff_eq_take.mp s.admitted_prefix

theorem Sound.length_launched_le (s : r.Sound rules all) (rests : r.Rests) :
    r.history.launched.length ≤ all.length := by
  rw [(s.launched_perm rests).length_eq]
  exact s.admitted_prefix.length_le

/-- The indices of the batches that have been launched. -/
theorem Sound.map_index_launched (s : r.Sound rules all) (rests : r.Rests)
    (numbered : Numbered all) : (r.history.launched.map Batch.index).Perm
      ((List.range r.history.launched.length).map Int.ofNat) := by
  have indices := (s.launched_perm rests).map Batch.index
  rwa [s.admitted_eq_take rests, (numbered.take _).map_index, List.length_take,
    Nat.min_eq_left (s.length_launched_le rests)] at indices

/-- Each batch that was launched stands in the source at the position that its index says. -/
theorem Sound.getElem?_of_launched (s : r.Sound rules all) (rests : r.Rests)
    (numbered : Numbered all) {b : Batch} (mem : b ∈ r.history.launched) :
    ∃ i : Nat, b.index = i ∧ all[i]? = some b := by
  have taken := (s.launched_perm rests).mem_iff.mp mem
  rw [s.admitted_eq_take rests] at taken
  obtain ⟨i, bound, rfl⟩ := List.getElem_of_mem (List.mem_of_mem_take taken)
  exact ⟨i, numbered i bound, List.getElem?_eq_getElem bound⟩

/-- At rest each position up to the number of launches has been launched once. -/
theorem Sound.positions_perm (s : r.Sound rules all) (rests : r.Rests) (numbered : Numbered all) :
    r.history.positions.Perm (List.range r.history.launched.length) := by
  have perm := (s.map_index_launched rests numbered).map Int.toNat
  rw [List.map_map, List.map_map] at perm
  simpa [History.positions, Function.comp_def] using perm

/-- Unless launches overtake others, positions are launched in order. -/
theorem Sound.positions_eq (s : r.Sound rules all) (rests : r.Rests) (numbered : Numbered all)
    (orderly : ¬ rules.overtakes) :
    r.history.positions = List.range r.history.launched.length := by
  have indices := congrArg (List.map Batch.index) (s.admitted_eq_take rests)
  rw [← (s.launchesAdmitted rests).order orderly, (numbered.take _).map_index, List.length_take,
    Nat.min_eq_left (s.length_launched_le rests)] at indices
  have numbers := congrArg (List.map Int.toNat) indices
  rw [List.map_map, List.map_map] at numbers
  simpa [History.positions, Function.comp_def] using numbers

theorem Sound.getElem?_of_position (s : r.Sound rules all) (rests : r.Rests)
    (numbered : Numbered all) {k j : Nat} (nth : r.history.positions[k]? = some j) :
    ∃ b, r.history.launched[k]? = some b ∧ all[j]? = some b := by
  rw [History.positions, List.getElem?_map] at nth
  obtain ⟨b, launched, rfl⟩ := Option.map_eq_some_iff.mp nth
  obtain ⟨i, index, here⟩ :=
    s.getElem?_of_launched rests numbered (List.mem_of_getElem? launched)
  exact ⟨b, launched, by rwa [index]⟩

section

variable (s : r.Sound rules all) (rests : r.Rests) (delivers : rules.launch.Delivers all)
include s delivers

/-- The results of the launches that started have the indices of their batches. -/
theorem Sound.map_index_result? :
    ((r.history.flights rules.launch).filterMap Flight.result?).map Result.index =
      r.history.launched.map Batch.index := by
  rw [← History.map_batch_flights rules.launch, List.map_map]
  exact Flight.map_index_results fun f mem => s.result?_isSome delivers mem

variable (numbered : Numbered all)
include rests numbered

/-- At rest the order of completion names each index once. -/
theorem Sound.map_index_completed : (r.completed.map Result.index).Perm
    ((List.range r.history.launched.length).map Int.ofNat) := by
  have perm := (s.completed_perm rests).map Result.index
  rw [s.map_index_result? delivers] at perm
  exact perm.trans (s.map_index_launched rests numbered)

/-- At rest the results are numbered. -/
theorem Sound.map_index_results : (Summary.sortByIndex r.completed).map Result.index =
    (List.range r.history.launched.length).map Int.ofNat := by
  have perm := ((Summary.sortByIndex_perm r.completed).map Result.index).trans
    (s.map_index_completed rests delivers numbered)
  refine List.Perm.eq_of_pairwise (fun _ _ _ _ le ge => Int.le_antisymm le ge) ?_
    ((pairwise_range _).imp Int.le_of_lt) perm
  exact List.pairwise_map.mpr (Summary.pairwise_sortByIndex _)

/-- At rest there is a result for each launch that started. -/
theorem Sound.length_results :
    (Summary.sortByIndex r.completed).length = r.history.launched.length := by
  simpa using congrArg List.length (s.map_index_results rests delivers numbered)

/-- At rest the result at the position of a batch is what its launch has come to. -/
theorem Sound.result_of_flight {f : Flight} (mem : f ∈ r.history.flights rules.launch) :
    ∃ (i : Nat) (x : Result), f.batch.index = i ∧ all[i]? = some f.batch ∧
      (Summary.sortByIndex r.completed)[i]? = some x ∧ f.result? = some x := by
  have launched : f.batch ∈ r.history.launched := by
    rw [← History.map_batch_flights rules.launch]
    exact List.mem_map_of_mem mem
  obtain ⟨i, index, here⟩ := s.getElem?_of_launched rests numbered launched
  obtain ⟨x, brings⟩ := Option.isSome_iff_exists.mp (s.result?_isSome delivers mem)
  have told : x ∈ Summary.sortByIndex r.completed := by
    rw [(Summary.sortByIndex_perm _).mem_iff, (s.completed_perm rests).mem_iff]
    exact List.mem_filterMap.mpr ⟨f, mem, brings⟩
  obtain ⟨j, listed⟩ := List.mem_iff_getElem?.mp told
  -- the result that has the index of the batch stands at this index
  have bound : j < r.history.launched.length := by
    rw [← s.length_results rests delivers numbered]
    exact (List.getElem?_eq_some_iff.mp listed).1
  have own := congrArg (·[j]?) (s.map_index_results rests delivers numbered)
  simp only [List.getElem?_map, listed, List.getElem?_range bound, Option.map_some] at own
  rw [f.index_of_result? brings, index] at own
  obtain rfl : i = j := Int.ofNat.inj (Option.some.inj own)
  exact ⟨i, x, index, here, listed, brings⟩

/-- **At rest the summary accounts for every batch.** -/
theorem Sound.accounts (time : Nat) (peak : Int) :
    Accounts rules.launch rules.overtakes all r.history
      (Summary.ofCompleted r.completed r.refused (.upTo time) peak) := by
  set summary := Summary.ofCompleted r.completed r.refused (.upTo time) peak
  have launches : summary.results.length = r.history.launched.length :=
    s.length_results rests delivers numbered
  have first := s.admitted_eq_take rests
  have admits := s.launchesAdmitted rests
  rw [← launches] at first
  refine ⟨?_, first, ?_, fun orderly => ?_, ?_, fun f mem => ?_, fun i bound => ?_, ?_, ?_⟩
  · rw [launches]
    exact s.length_launched_le rests
  · rw [← first]
    exact admits.all
  · rw [← first]
    exact admits.order orderly
  · exact (s.landed_perm_admitted rests).trans admits.all.symm
  · obtain ⟨i, x, -, here, listed, brings⟩ := s.result_of_flight rests delivers numbered mem
    exact ⟨i, x, here, listed, brings⟩
  · have own := congrArg (·[i]?) (s.map_index_results rests delivers numbered)
    have started : i < r.history.launched.length := launches ▸ bound
    have listed : (Summary.sortByIndex r.completed)[i]? = some summary.results[i] :=
      List.getElem?_eq_getElem bound
    simpa [listed, List.getElem?_range started] using own
  · rw [launches]
    exact s.map_index_completed rests delivers numbered
  · rw [launches]
    exact s.refused_iff rests

end

end Roster

namespace Setting

variable {s : Setting}

/-- At rest a blocking run has handed over the batches that have got slots, in order. -/
theorem submitted_of_rests {p : Pool} (reached : s.Passes p) (rests : p.roster.Rests) :
    p.history.submitted = p.history.admitted := by
  have none : p.taken ++ p.queue ++ p.stage.waiting = [] := rests.waiting
  have hands := Pool.submitted_of_passes reached
  rwa [(List.append_eq_nil_iff.mp none).2, List.append_nil] at hands

theorem failing_numbered (maxProcs : Nat) : Numbered (failing maxProcs).feed.batches := by
  have grouped := numbered_group ⟨["a", "b", "c"], none⟩ 1
  simpa [failing, Feed.batches, Function.comp_def] using grouped

/-- Batches are handed over in order, but a worker may overtake another. -/
example : ({ failing 2 with feed := .ofBatches (failing 2).feed.batches none
                            threads := .reversed } : Setting).blocking.map
    (fun run => (run.pool.history.submitted.map Batch.index,
      run.pool.history.launched.map Batch.index)) = .ok ([0, 1], [1, 0]) := by
  decide +kernel

end Setting

end BatchExec
