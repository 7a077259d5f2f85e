import BatchExec.Proofs.Flight

/-!
# Demand

How many batches a run asks its source for. It asks for the next one only when the last one has got
a slot.

* `Happening.isDemand`, `Happening.isAftermath`: what asks the source for a batch or gives a batch a
  slot, and what follows once a launch has started.
* `History.requests`: the number of batches asked for.
* `History.InStep`: at no time have more batches been asked for than one more than have got slots.
* `History.InStep.request`, `History.InStep.accept`, `History.InStep.append`: what keeps in step.
* `History.InStep.last_request`: **a run that ends with a batch asked for admits nothing after it
  has asked for it.**
-/

namespace BatchExec

/-- Whether something asks the source for a batch or gives a batch a slot. -/
def Happening.isDemand : Happening → Bool
  | .requested | .admitted _ _ => true
  | _ => false

/-- Whether something follows once a launch has started, or once a run has been cancelled. -/
def Happening.isAftermath : Happening → Bool
  | .requested | .received _ | .refused _ | .admitted _ _ | .submitted _ | .started _ => false
  | _ => true

theorem Happening.isDemand_of_isAftermath {e : Happening} (aftermath : e.isAftermath = true) :
    e.isDemand = false := by
  cases e <;> first | rfl | exact absurd aftermath Bool.false_ne_true

namespace History

/-- The number of batches that the source has been asked for. -/
def requests (h : History) : Nat := h.countP (·.what = .requested)

/-- A run has asked for so many batches more than have got slots, and at no time before for more
than one. -/
structure InStep (h : History) (owed : Nat) : Prop where
  count : h.requests = h.admitted.length + owed
  ahead : ∀ before : History, before <+: h → before.requests ≤ before.admitted.length + 1

variable {h : History} {owed : Nat}

theorem requests_append (h h' : History) : (h ++ h').requests = h.requests + h'.requests :=
  List.countP_append

theorem admitted_append (h h' : History) : (h ++ h').admitted = h.admitted ++ h'.admitted :=
  List.filterMap_append

theorem launched_append (h h' : History) : (h ++ h').launched = h.launched ++ h'.launched := by
  rw [launched, starts, List.filterMap_append, List.map_append]
  rfl

theorem length_admitted_append (h h' : History) :
    (h ++ h').admitted.length = h.admitted.length + h'.admitted.length := by
  rw [admitted_append, List.length_append]

theorem inStep_nil : InStep [] 0 := by
  refine ⟨rfl, fun before le => ?_⟩
  rw [List.prefix_nil.mp le]
  exact Nat.zero_le 1

theorem InStep.owed_le (inStep : h.InStep owed) : owed ≤ 1 := by
  have ahead := inStep.ahead h List.prefix_rfl
  have count := inStep.count
  omega

theorem InStep.concat (inStep : h.InStep owed) {e : Entry} {owed' : Nat} (le : owed' ≤ 1)
    (count : (h ++ [e]).requests = (h ++ [e]).admitted.length + owed') :
    (h ++ [e]).InStep owed' := by
  refine ⟨count, fun before shorter => ?_⟩
  rcases List.prefix_concat_iff.mp shorter with rfl | shorter
  · omega
  · exact inStep.ahead before shorter

/-- The source is asked for a batch when all that it was asked for have got slots. -/
theorem InStep.request (inStep : h.InStep 0) (now : Nat) :
    InStep (h ++ [⟨now, .requested⟩]) 1 := by
  refine inStep.concat (Nat.le_refl 1) ?_
  rw [requests_append, length_admitted_append, inStep.count]
  rfl

/-- The batch that was asked for gets a slot. -/
theorem InStep.accept (inStep : h.InStep 1) (now : Nat) (b : Batch) (active : Int) :
    InStep (h ++ [⟨now, .admitted b active⟩]) 0 := by
  refine inStep.concat (Nat.zero_le 1) ?_
  rw [requests_append, length_admitted_append, inStep.count]
  rfl

/-- Nothing else counts. -/
theorem InStep.append (inStep : h.InStep owed) {more : History}
    (idle : ∀ e ∈ more, e.what.isDemand = false) : (h ++ more).InStep owed := by
  induction more generalizing h with
  | nil => rwa [List.append_nil]
  | cons e more ih =>
    have noted : (h ++ [e]).InStep owed := by
      refine inStep.concat inStep.owed_le ?_
      have none := idle e List.mem_cons_self
      obtain ⟨time, what⟩ := e
      rw [requests_append, length_admitted_append, inStep.count]
      cases what <;> first | rfl | contradiction
    rw [List.append_cons]
    exact ih noted fun e' mem => idle e' (List.mem_cons_of_mem e mem)

theorem InStep.notes (inStep : h.InStep owed) {happenings : List Happening}
    (idle : ∀ e ∈ happenings, e.isDemand = false) (now : Nat) :
    InStep (h ++ happenings.map (⟨now, ·⟩)) owed := by
  refine inStep.append fun entry mem => ?_
  obtain ⟨e, listed, rfl⟩ := List.mem_map.mp mem
  exact idle e listed

/-- A history in which the source is asked for a batch has a last such request. -/
theorem exists_last_request (some : 0 < h.requests) :
    ∃ (before : History) (time : Nat) (after : History),
      h = before ++ ⟨time, .requested⟩ :: after ∧ after.requests = 0 := by
  induction h with
  | nil => exact absurd some (Nat.lt_irrefl 0)
  | cons e h ih =>
    by_cases later : 0 < requests h
    · obtain ⟨before, time, after, rfl, none⟩ := ih later
      exact ⟨e :: before, time, after, rfl, none⟩
    · obtain ⟨time, what⟩ := e
      have split : requests (⟨time, what⟩ :: h) = requests [⟨time, what⟩] + requests h :=
        requests_append [⟨time, what⟩] h
      cases what with
      | requested => exact ⟨[], time, h, rfl, by omega⟩
      | _ =>
        rw [split] at some
        exact absurd (Nat.lt_of_lt_of_eq some (Nat.zero_add _)) later

/-- **A run that ends with a batch asked for admits nothing after it has asked for it.** -/
theorem InStep.last_request (inStep : h.InStep 1) :
    ∃ (before : History) (time : Nat) (after : History),
      h = before ++ ⟨time, .requested⟩ :: after ∧ before.requests + 1 = h.requests ∧
        after.requests = 0 ∧ after.admitted = [] := by
  have count := inStep.count
  obtain ⟨before, time, after, split, none⟩ := exists_last_request (h := h) (by omega)
  have upTo : h = (before ++ [⟨time, .requested⟩]) ++ after := by
    rw [split, List.append_assoc]
    rfl
  have ahead := inStep.ahead _ ⟨after, upTo.symm⟩
  have one : requests [⟨time, .requested⟩] = 1 ∧ (admitted [⟨time, .requested⟩]).length = 0 :=
    ⟨rfl, rfl⟩
  rw [upTo, requests_append, length_admitted_append] at count
  rw [requests_append, length_admitted_append] at ahead count
  refine ⟨before, time, after, split, ?_, none, List.eq_nil_of_length_eq_zero (by omega)⟩
  rw [upTo, requests_append, requests_append]
  omega

end History

end BatchExec
