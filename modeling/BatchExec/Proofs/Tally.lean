import BatchExec.Proofs.Stream.Peak

/-!
# Tallies in any use

The producer of an event-driven run reserves a slot before it counts a launch, or gives the slot
back, and a launch that ends frees its slot. A tally does not rely on that: slots may be counted or
given back in whatever order, and launches may end that have never been counted.

* `Tally.Use`: what can be done with a tally.
* `Tally.Account`: a tally with the slots that are kept for the producer and the events that have
  been made.
* `Tally.Account.InOrder.after`: **after any uses the books are in order.**
* `Tally.Account.outlives_after`: **nothing that is in the books is taken back.**
-/

namespace BatchExec.Tally

variable {t t' t'' : Tally} {b : Batch} {ending : Ending}

/-! ## What is never taken back -/

/-- One tally comes after another: a stopped run stays stopped, the first fault stays the first, and
a new fault stops the run. -/
structure Outlives (t t' : Tally) : Prop where
  stays : t.stopped = true → t'.stopped = true
  first : ∀ f, t.fault = some f → t'.fault = some f
  halts : (t.fault.isSome = true → t.stopped = true) →
    t'.fault.isSome = true → t'.stopped = true
  completed : t.completed <+: t'.completed

theorem Outlives.refl (t : Tally) : t.Outlives t := ⟨id, fun _ => id, id, List.prefix_rfl⟩

theorem Outlives.trans (first : t.Outlives t') (second : t'.Outlives t'') : t.Outlives t'' where
  stays := second.stays ∘ first.stays
  first := fun f broken => second.first f (first.first f broken)
  halts := second.halts ∘ first.halts
  completed := first.completed.trans second.completed

/-- What neither stops a run nor collects a result takes nothing back. -/
theorem Outlives.of_eq (stopped : t'.stopped = t.stopped) (fault : t'.fault = t.fault)
    (completed : t'.completed = t.completed) : t.Outlives t' := by
  refine ⟨?_, ?_, ?_, completed ▸ List.prefix_rfl⟩
  · rw [stopped]
    exact id
  · rw [fault]
    exact fun _ => id
  · rw [stopped, fault]
    exact id

theorem outlives_fail (t : Tally) (f : Fault) : t.Outlives (t.fail f).1 where
  stays := fun _ => rfl
  first := fun g broken => by simp [fail, broken]
  halts := fun _ _ => rfl
  completed := List.prefix_rfl

theorem outlives_release (t : Tally) (index : Int) : t.Outlives (t.release index).1 := by
  unfold release
  split
  · exact outlives_fail t _
  · exact .of_eq rfl rfl rfl

theorem outlives_record (t : Tally) (r : Result) : t.Outlives (t.record r).1 where
  stays := fun stopped => by simp [record, stopped]
  first := fun _ => id
  halts := fun halts broken => by simp [record, halts broken]
  completed := List.prefix_append _ _

theorem outlives_finish (t : Tally) (b : Batch) (ending : Ending) :
    t.Outlives (t.finish b ending).1 := by
  have released := outlives_release t b.index
  unfold finish
  dsimp only
  split
  · exact released.trans (outlives_fail _ _)
  · exact released.trans (outlives_fail _ _)
  · exact released.trans (outlives_record _ _)

theorem outlives_of_reserve? (reserved : t.reserve? = some t') : t.Outlives t' := by
  rw [(reserve?_eq reserved).1]
  exact .of_eq rfl rfl rfl

/-! ## The end of a launch -/

theorem release_books (t : Tally) (index : Int) :
    (t.release index).1.free = (if t.active = 0 then t.free else t.free.map (· + 1)) ∧
      (t.release index).1.active = t.active - 1 ∧
      (t.release index).1.completed = t.completed := by
  unfold release
  split
  · rename_i none
    exact ⟨rfl, by rw [none]; exact none, rfl⟩
  · exact ⟨rfl, rfl, rfl⟩

/-- What the end of a launch comes to: it frees a slot if a launch is counted, and its result makes
an event. -/
structure Ends (t : Tally) (b : Batch) (ending : Ending)
    (outcome : Tally × List Happening × Option Event) : Prop where
  free : outcome.1.free = if t.active = 0 then t.free else t.free.map (· + 1)
  active : outcome.1.active = t.active - 1
  completed : outcome.1.completed = t.completed ++ (ending.resultFor? b).toList
  event : outcome.2.2 =
    (ending.resultFor? b).map (⟨·, outcome.1.completed.length, outcome.1.active⟩)

/-- **What the end of a launch comes to**, whether or not the launch has been counted. -/
theorem ends_finish (t : Tally) (b : Batch) (ending : Ending) :
    t.Ends b ending (t.finish b ending) := by
  obtain ⟨free, active, completed⟩ := release_books t b.index
  unfold finish
  dsimp only
  split
  · exact ⟨free, active, completed.trans (List.append_nil _).symm, rfl⟩
  · rename_i none
    refine ⟨free, active, ?_, by rw [none]; rfl⟩
    rw [none]
    exact completed.trans (List.append_nil _).symm
  · rename_i r _ brings
    refine ⟨free, active, ?_, by rw [brings]; rfl⟩
    rw [brings]
    exact congrArg (· ++ [r]) completed

/-! ## Many uses -/

/-- What can be done with a tally. -/
inductive Use where
  /-- A slot is taken out of the free ones, if there is one, and kept for the producer. -/
  | reserve
  /-- A launch is counted for which a slot is kept, if there is such a slot. -/
  | count
  /-- A slot that is kept is given back, if there is such a slot. -/
  | giveBack
  /-- The launch of a batch ends. -/
  | finish (batch : Batch) (ending : Ending)
  /-- Somebody cancels the run from outside. -/
  | cancel
  deriving DecidableEq

/-- A tally with the slots that are kept for the producer and the events that have been made. -/
structure Account where
  tally : Tally
  reserved : Nat := 0
  made : List Event := []

namespace Account

/-- The account of a new tally. -/
def opened (free : Option Nat) (stopOnError : Bool) : Account where
  tally := { free, stopOnError }

/-- The account after one more use of its tally. -/
def use (a : Account) : Use → Account
  | .reserve =>
    match a.tally.reserve? with
    | some tally => { a with tally, reserved := a.reserved + 1 }
    | none => a
  | .count =>
    if a.reserved = 0 then a
    else { a with tally := a.tally.count, reserved := a.reserved - 1 }
  | .giveBack =>
    if a.reserved = 0 then a
    else { a with tally := a.tally.giveBack, reserved := a.reserved - 1 }
  | .finish b ending =>
    { a with
      tally := (a.tally.finish b ending).1
      made := a.made ++ (a.tally.finish b ending).2.2.toList }
  | .cancel => { a with tally := a.tally.cancel }

/-- The account after some uses of its tally. -/
def after (a : Account) (uses : List Use) : Account := uses.foldl use a

/-- The books of an account are in order. -/
structure InOrder (bound : Option Nat) (a : Account) : Prop where
  /-- Every slot is free, is kept for the producer or belongs to a running launch. -/
  slots : a.tally.free.map (· + a.reserved + a.tally.active) = bound
  peak : a.tally.active ≤ a.tally.peak ∧ ∀ n, bound = some n → a.tally.peak ≤ n
  /-- A fault stops the run. -/
  halts : a.tally.fault.isSome = true → a.tally.stopped = true
  /-- The events are those of the results in turn. -/
  made : a.made.map Event.result = a.tally.completed
  numbered : a.made.map Event.completed = List.range' 1 a.made.length

theorem inOrder_opened (bound : Option Nat) (stopOnError : Bool) :
    (opened bound stopOnError).InOrder bound where
  slots := by cases bound <;> rfl
  peak := ⟨Nat.le_refl 0, fun n _ => Nat.zero_le n⟩
  halts := fun broken => absurd broken Bool.false_ne_true
  made := rfl
  numbered := rfl

variable {a : Account} {bound : Option Nat}

/-- Slots in use are no more than there are. -/
theorem InOrder.le_slots (order : a.InOrder bound) {n : Nat} (limited : bound = some n) :
    a.reserved + a.tally.active ≤ n := by
  have sum := order.slots
  rw [limited] at sum
  obtain ⟨free, -, rfl⟩ := Option.map_eq_some_iff.mp sum
  omega

theorem InOrder.finish (order : a.InOrder bound) (b : Batch) (ending : Ending) :
    (a.use (.finish b ending)).InOrder bound := by
  have later := outlives_finish a.tally b ending
  have peak := peak_finish a.tally b ending
  obtain ⟨free, active, completed, event⟩ := ends_finish a.tally b ending
  have few := order.peak.1
  have length := congrArg List.length order.made
  rw [List.length_map] at length
  refine ⟨?_, ⟨?_, ?_⟩, later.halts order.halts, ?_, ?_⟩
  · rw [← order.slots]
    simp only [use, free, active]
    split
    · rename_i none
      rw [none]
    · rw [Option.map_map]
      congr 1
      funext k
      simp only [Function.comp_apply]
      omega
  · simp only [use, active, peak]
    omega
  · simp only [use, peak]
    exact order.peak.2
  · simp only [use, event, completed, List.map_append, order.made]
    cases ending.resultFor? b <;> rfl
  · simp only [use, event, completed, List.map_append, order.numbered]
    cases ending.resultFor? b with
    | none => simp
    | some r =>
      simp only [Option.map_some, Option.toList_some, List.map_singleton, List.length_append,
        List.length_singleton, List.range'_concat, ← length, Nat.one_mul, Nat.add_comm]

/-- **One more use leaves the books in order.** -/
theorem InOrder.use (order : a.InOrder bound) (u : Use) : (a.use u).InOrder bound := by
  cases u with
  | finish b ending => exact order.finish b ending
  | cancel => exact { order with }
  | reserve =>
    unfold Account.use
    dsimp only
    split
    · rename_i tally reserved
      obtain ⟨same, free⟩ := reserve?_eq reserved
      rw [same]
      refine { order with slots := ?_ }
      rw [← order.slots, ← free, Option.map_map]
      congr 1
      funext k
      simp only [Function.comp_apply]
      omega
    · exact order
  | count =>
    unfold Account.use
    dsimp only
    split
    · exact order
    · rename_i kept
      refine { order with slots := ?_, peak := ⟨Nat.le_max_right _ _, fun n limited => ?_⟩ }
      · rw [← order.slots]
        congr 1
        funext k
        simp only [count]
        omega
      · have room := order.le_slots limited
        have most := order.peak.2 n limited
        simp only [count]
        omega
  | giveBack =>
    unfold Account.use
    dsimp only
    split
    · exact order
    · rename_i kept
      refine { order with slots := ?_ }
      rw [← order.slots]
      simp only [Tally.giveBack, Option.map_map]
      congr 1
      funext k
      simp only [Function.comp_apply]
      omega

/-- **After any uses the books are in order.** -/
theorem InOrder.after (order : a.InOrder bound) (uses : List Use) :
    (a.after uses).InOrder bound := by
  induction uses generalizing a with
  | nil => exact order
  | cons u uses ih => exact ih (order.use u)

theorem outlives_use (a : Account) (u : Use) : a.tally.Outlives (a.use u).tally := by
  cases u with
  | finish b ending => exact outlives_finish a.tally b ending
  | cancel => exact .of_eq rfl rfl rfl
  | reserve =>
    unfold use
    dsimp only
    split
    · rename_i tally reserved
      exact outlives_of_reserve? reserved
    · exact .refl a.tally
  | count | giveBack =>
    unfold use
    dsimp only
    split
    · exact .refl a.tally
    · exact .of_eq rfl rfl rfl

/-- **Nothing that is in the books is taken back.** -/
theorem outlives_after (a : Account) (uses : List Use) :
    a.tally.Outlives (a.after uses).tally := by
  induction uses generalizing a with
  | nil => exact .refl a.tally
  | cons u uses ih => exact (outlives_use a u).trans (ih (a.use u))

end Account

end BatchExec.Tally
