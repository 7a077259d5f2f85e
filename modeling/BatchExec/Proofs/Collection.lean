import BatchExec.Proofs.Summary

/-!
# Collecting results

Results come in as commands end, and a list of them is sorted by batch. Nothing but the order of
completion is lost thereby, and of that only what concerns results of different batches: results of
one batch stay in the order in which they came in.

* `Summary.filter_sortByIndex`: **the sort is stable.**
* `Summary.eq_of_filter_eq`: **a stable sort has one outcome only.**
* `Summary.Collects`, `Summary.Agrees`: what a summary keeps, and what it tells of its results.
* `Summary.collecting_forgets_order`: **collecting results forgets the order of completion only.**
-/

namespace BatchExec

namespace Summary

/-! ## The results of one batch -/

/-- To the results of one index it does not matter which of two batches comes first. -/
theorem filter_swap {r next : Result} (differ : r.index ≠ next.index) (rest : List Result)
    (index : Int) :
    (next :: r :: rest).filter (·.index = index) =
      (r :: next :: rest).filter (·.index = index) := by
  by_cases own : r.index = index
  · have other : next.index ≠ index := fun same => differ (own.trans same.symm)
    simp [own, other]
  · simp [List.filter_cons, own]

theorem filter_insertByIndex (r : Result) (results : List Result) (index : Int) :
    (insertByIndex r results).filter (·.index = index) =
      (r :: results).filter (·.index = index) := by
  induction results with
  | nil => rfl
  | cons next rest ih =>
    unfold insertByIndex
    split
    · rfl
    · rename_i gt
      have differ : r.index ≠ next.index := fun same => gt (Int.le_of_eq same)
      calc (next :: insertByIndex r rest).filter (·.index = index)
          = (next :: r :: rest).filter (·.index = index) := by
            simp only [List.filter_cons, ih]
        _ = (r :: next :: rest).filter (·.index = index) := filter_swap differ rest index

/-- **The sort is stable**: the results of one index keep their order. -/
theorem filter_sortByIndex (results : List Result) (index : Int) :
    (sortByIndex results).filter (·.index = index) = results.filter (·.index = index) := by
  induction results with
  | nil => rfl
  | cons r rest ih =>
    calc (insertByIndex r (sortByIndex rest)).filter (·.index = index)
        = (r :: sortByIndex rest).filter (·.index = index) := filter_insertByIndex r _ index
      _ = (r :: rest).filter (·.index = index) := by simp only [List.filter_cons, ih]

/-! ## What the sort depends on -/

section Uniqueness

variable {a b : List Result}

theorem mem_iff_of_filter_eq
    (same : ∀ index, a.filter (·.index = index) = b.filter (·.index = index)) (r : Result) :
    r ∈ a ↔ r ∈ b := by
  have own (results : List Result) : r ∈ results ↔ r ∈ results.filter (·.index = r.index) := by
    simp
  rw [own a, same, ← own b]

/-- No result of a sorted list has a smaller index than the first one. -/
theorem index_head_le {r x : Result} (sorted : (r :: a).Pairwise (·.index ≤ ·.index))
    (mem : x ∈ r :: a) : r.index ≤ x.index := by
  rcases List.mem_cons.mp mem with rfl | mem
  · exact Int.le_refl _
  · exact List.rel_of_pairwise_cons sorted mem

/-- **A stable sort has one outcome only**: sorted lists are equal if for every batch they have the
same results in the same order. -/
theorem eq_of_filter_eq (sorted : a.Pairwise (·.index ≤ ·.index))
    (sorted' : b.Pairwise (·.index ≤ ·.index))
    (same : ∀ index, a.filter (·.index = index) = b.filter (·.index = index)) : a = b := by
  induction a generalizing b with
  | nil =>
    refine (List.eq_nil_iff_forall_not_mem.mpr fun r mem => ?_).symm
    exact List.not_mem_nil ((mem_iff_of_filter_eq same r).mpr mem)
  | cons r a ih =>
    cases b with
    | nil => exact absurd ((mem_iff_of_filter_eq same r).mp List.mem_cons_self) List.not_mem_nil
    | cons r' b =>
      have le := index_head_le sorted ((mem_iff_of_filter_eq same r').mpr List.mem_cons_self)
      have ge := index_head_le sorted' ((mem_iff_of_filter_eq same r).mp List.mem_cons_self)
      have index : r'.index = r.index := Int.le_antisymm ge le
      -- both are the first result of one batch
      obtain rfl : r = r' := by
        have first := same r.index
        simp only [List.filter_cons, index, decide_true, if_true] at first
        exact (List.cons.inj first).1
      have rest (index : Int) : a.filter (·.index = index) = b.filter (·.index = index) := by
        have whole := same index
        simp only [List.filter_cons] at whole
        split at whole
        · exact (List.cons.inj whole).2
        · exact whole
      rw [ih sorted.of_cons sorted'.of_cons rest]

/-- **Results are listed alike if and only if those of every batch come in alike.** -/
theorem sortByIndex_eq_iff : sortByIndex a = sortByIndex b ↔
    ∀ index, a.filter (·.index = index) = b.filter (·.index = index) := by
  constructor
  · intro equal index
    rw [← filter_sortByIndex a, equal, filter_sortByIndex]
  · intro same
    refine eq_of_filter_eq (pairwise_sortByIndex a) (pairwise_sortByIndex b) fun index => ?_
    rw [filter_sortByIndex, same, filter_sortByIndex]

end Uniqueness

/-- A command of the batch at a position that exits with a code. -/
def exits (index code : Int) : Result where
  invocation := (Template.ofWords ["cat"]).instantiate ⟨index, ["file"], by decide⟩
  outcome := .exited
  exitCode := some code

-- two results of one batch that change places are not listed alike
example : sortByIndex [exits 1 0, exits 0 0, exits 1 1] ≠
    sortByIndex [exits 1 1, exits 0 0, exits 1 0] := by decide

/-! ## Summaries -/

/-- A summary lists all results that came in, by batch, and tells in which order they did. -/
structure Collects (s : Summary) (completed : List Result) : Prop where
  perm : s.results.Perm completed
  sorted : s.results.Pairwise (·.index ≤ ·.index)
  /-- The results of one index are listed in the order of completion. -/
  stable : ∀ index, s.results.filter (·.index = index) = completed.filter (·.index = index)
  order : s.completionOrder = completed.map Result.index

/-- Two summaries tell the same of the results. -/
structure Agrees (s t : Summary) : Prop where
  results : s.results = t.results
  succeeded : s.succeeded = t.succeeded
  failed : s.failed = t.failed
  status : s.status = t.status
  exitCode : s.exitCode = t.exitCode

theorem collects_ofCompleted (completed : List Result) (cancelled : Bool) (runtime : TimeSpan)
    (peak : Int) : (ofCompleted completed cancelled runtime peak).Collects completed where
  perm := sortByIndex_perm completed
  sorted := pairwise_sortByIndex completed
  stable := filter_sortByIndex completed
  order := rfl

/-- What a summary tells is read off its results, and off whether the run was cancelled. -/
theorem Agrees.of_results {s t : Summary} (results : s.results = t.results)
    (cancelled : s.cancelled = t.cancelled) : s.Agrees t where
  results := results
  succeeded := congrArg (List.filter Result.success) results
  failed := congrArg (List.filter fun r : Result => !r.success) results
  status := congrArg₂ Status.aggregate results cancelled
  exitCode := congrArg₂ (fun x c => (Status.aggregate x c).exit.code) results cancelled

/-- **Collecting results forgets the order of completion only.** A summary lists what came in by
batch, the results of one batch as they came in. Another order of completion gives the same list if
and only if it leaves the results of every batch in their order. So if no two batches have the same
index, summaries agree in all that they tell of the results if and only if the results are the same
but for their order. -/
theorem collecting_forgets_order (completed other : List Result) (cancelled : Bool)
    (runtime runtime' : TimeSpan) (peak peak' : Int) :
    let s := ofCompleted completed cancelled runtime peak
    let t := ofCompleted other cancelled runtime' peak'
    s.Collects completed ∧
      (s.results = t.results ↔
        ∀ index, completed.filter (·.index = index) = other.filter (·.index = index)) ∧
      ((completed.map Result.index).Nodup → (completed.Perm other ↔ s.Agrees t)) := by
  intro s t
  refine ⟨collects_ofCompleted .., sortByIndex_eq_iff, fun distinct => ⟨fun perm => ?_, ?_⟩⟩
  · exact .of_results (sortByIndex_congr perm distinct) rfl
  · intro agrees
    have listed : sortByIndex completed = sortByIndex other := agrees.results
    have perm := sortByIndex_perm completed
    rw [listed] at perm
    exact perm.symm.trans (sortByIndex_perm other)

/-- The last of three commands ends first, and the first one fails. -/
def lastFirst : List Result := [exits 2 0, exits 0 1, exits 1 0]

/-- Had they ended the other way round, the summary would tell the same. -/
theorem lastFirst_agrees :
    let s := ofCompleted lastFirst false (.upTo 1500) 2
    (lastFirst.map Result.index).Nodup ∧ lastFirst.Perm lastFirst.reverse ∧
      s.Agrees (ofCompleted lastFirst.reverse false (.upTo 900) 1) ∧
      s.results = [exits 0 1, exits 1 0, exits 2 0] ∧ s.completionOrder = [2, 0, 1] ∧
      s.exitCode = 123 := by
  obtain ⟨collects, -, agree⟩ :=
    collecting_forgets_order lastFirst lastFirst.reverse false (.upTo 1500) (.upTo 900) 2 1
  have distinct : (lastFirst.map Result.index).Nodup := by decide
  have perm : lastFirst.Perm lastFirst.reverse := (List.reverse_perm lastFirst).symm
  exact ⟨distinct, perm, (agree distinct).mp perm, by decide, collects.order, by decide⟩

end Summary

end BatchExec
