import BatchExec.Proofs.Ledger
import BatchExec.Proofs.Tally

/-!
# Slots that nobody holds

A slot that is given back although none is taken breaks the run: that is a fault, and nothing else
should come of it. A ledger does not look whether a slot is taken when a launch has raised an error,
so that it counts one slot too few from then on. A tally does look, but goes on to what the launch
ended with in any case, and collects a result that nobody waits for.

* `Ledger.Account.Contains`, `Tally.Account.Contains`: a fault is all that comes of it.
* `Ledger.Account.contains_after`, `Tally.Account.contains_after`: **it can be contained any number
  of times.**
* `overdrafts`: **a ledger contains it unless the launch raised an error, a tally unless it ended
  with a result**, and what becomes of the others.
-/

namespace BatchExec

/-! ## Ledgers -/

namespace Ledger

variable {listener : Listener} {b : Batch} {ending : Ending}

theorem release_of_free {l : Ledger} (free : l.active = 0) (listener : Listener) (b : Batch)
    (returns : ∀ failure, ending ≠ .raised failure) :
    l.release listener b ending = l.fail (.releasedTwice b.index) := by
  cases ending with
  | raised failure => exact absurd rfl (returns failure)
  | _ => simp [release, free]

namespace Account

/-- All that comes of giving a slot back is a fault of the batch, unless there was one before. -/
structure Contains (a : Account) (b : Batch) (a' : Account) : Prop where
  fault : a'.ledger.fault = some (a.ledger.fault.getD (.releasedTwice b.index))
  stopped : a'.ledger.cancelled = true
  active : a'.ledger.active = 0
  completed : a'.ledger.completed = a.ledger.completed
  told : a'.told = a.told

variable {a a' a'' : Account}

theorem Contains.trans (first : a.Contains b a') {c : Batch} (second : a'.Contains c a'') :
    a.Contains b a'' where
  fault := by rw [second.fault, first.fault, Option.getD_some]
  stopped := second.stopped
  active := second.active
  completed := second.completed.trans first.completed
  told := second.told.trans first.told

theorem contains_use_iff (free : a.ledger.active = 0) (listener : Listener) (b : Batch)
    (ending : Ending) :
    a.Contains b (a.use listener (.release b ending)) ↔ ∀ failure, ending ≠ .raised failure := by
  constructor
  · rintro contained failure rfl
    have short : a.ledger.active - 1 = 0 := contained.active
    omega
  · intro returns
    have released := release_of_free free listener b returns
    constructor <;> simp [use, Ledger.use, released, fail, free, Happening.event?]

/-- **It can be contained any number of times.** -/
theorem contains_after (free : a.ledger.active = 0) (listener : Listener)
    (returned : List (Batch × Ending)) (some : returned ≠ [])
    (returns : ∀ last ∈ returned, ∀ failure, last.2 ≠ .raised failure) :
    a.Contains (returned.head some).1
      (a.after listener (returned.map fun last => .release last.1 last.2)) := by
  induction returned generalizing a with
  | nil => exact absurd rfl some
  | cons last later ih =>
    obtain ⟨here, behind⟩ := List.forall_mem_cons.mp returns
    have first := (contains_use_iff free listener last.1 last.2).mpr here
    cases later with
    | nil => exact first
    | cons next later => exact first.trans (ih first.active (List.cons_ne_nil next later) behind)

end Account

end Ledger

/-! ## Tallies -/

namespace Tally

variable {b : Batch} {ending : Ending}

theorem release_of_free {t : Tally} (free : t.active = 0) (index : Int) :
    t.release index = t.fail (.releasedTwice index) := if_pos free

/-- The end of a launch that is not counted is a fault. Others that follow it change nothing, but a
result is collected all the same. -/
theorem finish_of_free {t : Tally} (free : t.active = 0) (b : Batch) (ending : Ending) :
    (t.finish b ending).1 = { (t.fail (.releasedTwice b.index)).1 with
      completed := t.completed ++ (ending.resultFor? b).toList } := by
  unfold finish
  dsimp only
  rw [release_of_free free]
  split
  · simp [fail, Ending.resultFor?]
  · rename_i none
    simp [fail, none]
  · rename_i r _ brings
    simp [fail, record, brings]

namespace Account

/-- All that comes of giving a slot back is a fault of the batch, unless there was one before. -/
structure Contains (a : Account) (b : Batch) (a' : Account) : Prop where
  fault : a'.tally.fault = some (a.tally.fault.getD (.releasedTwice b.index))
  stopped : a'.tally.stopped = true
  active : a'.tally.active = 0
  free : a'.tally.free = a.tally.free
  completed : a'.tally.completed = a.tally.completed
  made : a'.made = a.made

variable {a a' a'' : Account}

theorem Contains.trans (first : a.Contains b a') {c : Batch} (second : a'.Contains c a'') :
    a.Contains b a'' where
  fault := by rw [second.fault, first.fault, Option.getD_some]
  stopped := second.stopped
  active := second.active
  free := second.free.trans first.free
  completed := second.completed.trans first.completed
  made := second.made.trans first.made

theorem contains_use_iff (free : a.tally.active = 0) (b : Batch) (ending : Ending) :
    a.Contains b (a.use (.finish b ending)) ↔ ending.resultFor? b = none := by
  have books := finish_of_free free b ending
  have event := (ends_finish a.tally b ending).event
  constructor
  · intro contained
    have same := contained.completed
    simp only [use, books] at same
    simpa using same
  · intro none
    rw [none, Option.toList_none, List.append_nil] at books
    rw [none, Option.map_none] at event
    constructor <;> simp [use, books, event, fail, free]

/-- **It can be contained any number of times.** -/
theorem contains_after (free : a.tally.active = 0) (ended : List (Batch × Ending))
    (some : ended ≠ []) (fruitless : ∀ last ∈ ended, last.2.resultFor? last.1 = none) :
    a.Contains (ended.head some).1 (a.after (ended.map fun last => .finish last.1 last.2)) := by
  induction ended generalizing a with
  | nil => exact absurd rfl some
  | cons last later ih =>
    obtain ⟨here, behind⟩ := List.forall_mem_cons.mp fruitless
    have first := (contains_use_iff free last.1 last.2).mpr here
    cases later with
    | nil => exact first
    | cons next later => exact first.trans (ih first.active (List.cons_ne_nil next later) behind)

end Account

end Tally

/-! ## Both -/

/-- **A ledger contains what is given back though nobody holds it, unless the launch raised an
error; a tally does, unless the launch ended with a result.** Then a ledger reports the error and
counts one slot too few, and a tally reports the fault, but collects the result and makes an event
of it. -/
theorem overdrafts (listener : Listener) {a : Ledger.Account} (free : a.ledger.active = 0)
    {z : Tally.Account} (free' : z.tally.active = 0) (b : Batch) (ending : Ending) :
    (a.Contains b (a.use listener (.release b ending)) ↔ ∀ failure, ending ≠ .raised failure) ∧
    (∀ failure, ending = .raised failure →
      (a.use listener (.release b ending)).ledger =
          { (a.ledger.fail (.launchRaised b.index failure)).1 with active := -1 } ∧
        (a.use listener (.release b ending)).told = a.told) ∧
    (z.Contains b (z.use (.finish b ending)) ↔ ending.resultFor? b = none) ∧
    ∀ r, ending.resultFor? b = some r →
      (z.use (.finish b ending)).tally = { (z.tally.fail (.releasedTwice b.index)).1 with
          completed := z.tally.completed ++ [r] } ∧
        (z.use (.finish b ending)).made = z.made ++ [⟨r, z.tally.completed.length + 1, 0⟩] := by
  refine ⟨Ledger.Account.contains_use_iff free listener b ending, ?_,
    Tally.Account.contains_use_iff free' b ending, ?_⟩
  · rintro failure rfl
    refine ⟨?_, List.append_nil a.told⟩
    show { (a.ledger.fail _).1 with active := a.ledger.active - 1 } = _
    rw [free]
    rfl
  · intro r brings
    have books := Tally.finish_of_free free' b ending
    have event := (Tally.ends_finish z.tally b ending).event
    rw [brings, Option.toList_some] at books
    rw [brings, Option.map_some, books] at event
    refine ⟨books, ?_⟩
    simp [Tally.Account.use, event, Tally.fail, free']

/-- A batch that has not been admitted. -/
def uninvited : Batch := ⟨0, ["a"], by decide⟩

/-- A command for it that was run nevertheless. -/
def windfall : Result where
  invocation := ⟨uninvited, ["a"]⟩
  outcome := .exited
  exitCode := some 0

/-- A new ledger contains a result for the batch; a new tally does not. -/
theorem windfall_overdrafts :
    (Ledger.Account.opened none false).ledger.active = 0 ∧
    (Tally.Account.opened (some 1) false).tally.active = 0 ∧
    (Ledger.Account.opened none false).Contains uninvited
      ((Ledger.Account.opened none false).use .passive
        (.release uninvited (.returned windfall))) ∧
    ((Tally.Account.opened (some 1) false).use (.finish uninvited (.returned windfall))).made =
      [⟨windfall, 1, 0⟩] := by
  obtain ⟨contained, -, -, kept⟩ := overdrafts .passive
    (show (Ledger.Account.opened none false).ledger.active = 0 from rfl)
    (show (Tally.Account.opened (some 1) false).tally.active = 0 from rfl)
    uninvited (.returned windfall)
  exact ⟨rfl, rfl, contained.mpr (fun _ => Ending.noConfusion), (kept windfall (by decide)).2⟩

/-- An error of a launch that has no slot leaves a new ledger with less than no slot taken, and a
result of such a launch is collected by a new tally. -/
theorem uninvited_not_contained :
    (¬ (Ledger.Account.opened none false).Contains uninvited
      ((Ledger.Account.opened none false).use .passive
        (.release uninvited (.raised (.badValue "x"))))) ∧
    ¬ (Tally.Account.opened (some 1) false).Contains uninvited
      ((Tally.Account.opened (some 1) false).use (.finish uninvited (.returned windfall))) := by
  constructor
  · intro contained
    exact absurd contained.active (by decide)
  · intro contained
    exact absurd contained.completed (by decide)

end BatchExec
