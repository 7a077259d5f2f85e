import BatchExec.Proofs.Announcement
import BatchExec.Proofs.Pool.Run

/-!
# Ledgers in any use

A schedule requests a slot before each launch and gives it back once, after the launch. A ledger
does not rely on that: whatever is requested, released or cancelled, in whatever order, and whatever
the receiver of events does meanwhile, its books stay in order.

* `Ledger.Use`, `Ledger.use`: what can be done with a ledger, and what comes of it.
* `Ledger.Account`: a ledger with a record of its uses.
* `Ledger.Account.inOrder_after`: **after any uses the books are in order.**
* `Ledger.Account.outlives_after`: **nothing that is in the books is taken back.**
* `Ledger.accounts_balance`: the two together, and what a single use adds.
-/

namespace BatchExec

namespace Ledger

/-- What can be done with a ledger. -/
inductive Use where
  /-- Somebody asks for a slot. -/
  | request
  /-- The slot of a batch is given back with what its launch ended with. -/
  | release (batch : Batch) (ending : Ending)
  /-- Somebody stops the run. -/
  | cancel
  deriving DecidableEq

namespace Use

/-- Whether a slot is taken. -/
def takes (l : Ledger) : Use → Bool
  | .request => !l.cancelled && !l.full
  | _ => false

/-- Whether a launch that has not raised an error gives a taken slot back. -/
def returns (l : Ledger) : Use → Bool
  | .release _ (.raised _) => false
  | .release _ _ => decide (0 < l.active)
  | _ => false

/-- Whether a launch that has raised an error gives up its slot. -/
def abandons : Use → Bool
  | .release _ (.raised _) => true
  | _ => false

/-- The result that is collected. -/
def result? (l : Ledger) : Use → Option Result
  | .release b ending => if 0 < l.active then ending.resultFor? b else none
  | _ => none

end Use

/-- Does something with a ledger. A request that would have to wait for a slot changes nothing. -/
def use (listener : Listener) (l : Ledger) : Use → Ledger × List Happening
  | .request =>
    match l.request with
    | .granted ledger => (ledger, [])
    | _ => (l, [])
  | .release b ending => l.release listener b ending
  | .cancel => (l.cancel, [.cancelled])

variable {listener : Listener} {l l' l'' : Ledger}

/-! ## What is never taken back -/

/-- One ledger comes after another: it has the same slots, a stopped run stays stopped, the first
fault stays the first, and a new fault stops the run. -/
structure Outlives (l l' : Ledger) : Prop where
  bound : l'.bound = l.bound
  stays : l.cancelled = true → l'.cancelled = true
  first : ∀ f, l.fault = some f → l'.fault = some f
  halts : (l.fault.isSome = true → l.cancelled = true) →
    l'.fault.isSome = true → l'.cancelled = true
  completed : l.completed <+: l'.completed

theorem Outlives.refl (l : Ledger) : l.Outlives l := ⟨rfl, id, fun _ => id, id, List.prefix_rfl⟩

theorem Outlives.trans (first : l.Outlives l') (second : l'.Outlives l'') : l.Outlives l'' where
  bound := second.bound.trans first.bound
  stays := second.stays ∘ first.stays
  first := fun f broken => second.first f (first.first f broken)
  halts := second.halts ∘ first.halts
  completed := first.completed.trans second.completed

theorem outlives_take (l : Ledger) : l.Outlives l.take :=
  ⟨rfl, id, fun _ => id, id, List.prefix_rfl⟩

theorem outlives_cancel (l : Ledger) : l.Outlives l.cancel :=
  ⟨rfl, fun _ => rfl, fun _ => id, fun _ _ => rfl, List.prefix_rfl⟩

theorem outlives_fail (l : Ledger) (f : Fault) : l.Outlives (l.fail f).1 where
  bound := rfl
  stays := fun _ => rfl
  first := fun g broken => by simp [fail, broken]
  halts := fun _ _ => rfl
  completed := List.prefix_rfl

theorem outlives_tell (l : Ledger) (listener : Listener) (r : Result) :
    l.Outlives (l.tell listener r).1 := by
  unfold tell
  split
  · exact .refl l
  · rename_i react
    have reacted : l.Outlives (if (react ⟨r, l.completed.length, l.active⟩).cancels then l.cancel
        else l) := by
      split
      · exact outlives_cancel l
      · exact .refl l
    dsimp only
    split
    · exact reacted
    · exact reacted.trans (outlives_fail _ _)

/-- Slots that come back change nothing else. -/
theorem outlives_active (l : Ledger) (active : Int) : l.Outlives { l with active } :=
  ⟨rfl, id, fun _ => id, id, List.prefix_rfl⟩

theorem outlives_notify (l : Ledger) : l.Outlives l.notify :=
  ⟨rfl, id, fun _ => id, id, List.prefix_rfl⟩

theorem outlives_record (l : Ledger) (listener : Listener) (r : Result) :
    l.Outlives (l.record listener r).1 := by
  refine Outlives.trans ?_ (outlives_tell _ listener r)
  refine ⟨rfl, fun stopped => ?_, fun _ => id, fun halts broken => ?_, List.prefix_append _ _⟩
  · simp only [stopped, Bool.true_or]
  · simp only [halts broken, Bool.true_or]

theorem outlives_release (l : Ledger) (listener : Listener) (b : Batch) (ending : Ending) :
    l.Outlives (l.release listener b ending).1 := by
  have returned := outlives_active l (l.active - 1)
  unfold release
  split
  · exact returned.trans (outlives_fail _ _)
  · split
    · exact outlives_fail l _
    · dsimp only
      split
      · exact (returned.trans (outlives_notify _)).trans (outlives_record _ listener _)
      · exact (returned.trans (outlives_notify _)).trans (outlives_fail _ _)

/-! ## What a use adds -/

theorem active_tell (l : Ledger) (listener : Listener) (r : Result) :
    (l.tell listener r).1.active = l.active := by
  unfold tell
  split
  · rfl
  · dsimp only
    split <;> split <;> rfl

theorem completed_tell (l : Ledger) (listener : Listener) (r : Result) :
    (l.tell listener r).1.completed = l.completed := by
  unfold tell
  split
  · rfl
  · dsimp only
    split <;> split <;> rfl

theorem events_tell (l : Ledger) (listener : Listener) (r : Result) :
    (l.tell listener r).2.filterMap Happening.event? =
      if listener.isSome then [⟨r, l.completed.length, l.active⟩] else [] := by
  unfold tell
  split
  · rfl
  · dsimp only
    split <;> split <;> rfl

/-- What a use of a ledger adds to it, and what the receiver of events is told. -/
structure Adds (listener : Listener) (l : Ledger) (u : Use) (outcome : Ledger × List Happening) :
    Prop where
  active : outcome.1.active =
    l.active + (u.takes l).toNat - (u.returns l).toNat - u.abandons.toNat
  peak : outcome.1.peak = if u.takes l then max l.peak outcome.1.active else l.peak
  broken : u.abandons = true → outcome.1.fault.isSome = true
  completed : outcome.1.completed = l.completed ++ (u.result? l).toList
  told : outcome.2.filterMap Happening.event? =
    if listener.isSome then
      (u.result? l).toList.map (⟨·, outcome.1.completed.length, outcome.1.active⟩)
    else []

theorem adds_request (l : Ledger) : Adds listener l .request (l.use listener .request) := by
  unfold use request
  cases stopped : l.cancelled <;> cases full : l.full <;>
    constructor <;> simp [Use.takes, Use.returns, Use.abandons, Use.result?, take, stopped, full]

/-- A launch gives back a slot that is taken, and its result, if it has one, is told. -/
theorem adds_held (held : 0 < l.active) (f : Flight) :
    Adds listener l (.release f.batch f.plan.ending)
      (l.release listener f.batch f.plan.ending) := by
  have slot : (Use.returns l (.release f.batch f.plan.ending)).toNat +
      (Use.abandons (.release f.batch f.plan.ending)).toNat = 1 := by
    cases f.plan.ending <;> simp [Use.returns, Use.abandons, held]
  have takes : Use.takes l (.release f.batch f.plan.ending) = false := rfl
  have result : Use.result? l (.release f.batch f.plan.ending) = f.result? := if_pos held
  have broken (raises : Use.abandons (.release f.batch f.plan.ending) = true) :
      f.flaw?.isSome = true := by
    refine Flight.flaw?_of_raises ?_
    unfold Plan.raises
    unfold Use.abandons at raises
    split at raises
    · rename_i raised
      rw [(Use.release.inj raised).2]
    · exact absurd raises Bool.false_ne_true
  rw [release_eq l held listener f]
  cases brings : f.result? with
  | none =>
    refine ⟨?_, by rw [takes]; rfl, fun raises => ?_, ?_, ?_⟩
    · simp only [settle, takes, Bool.toNat_false]
      omega
    · simp only [settle, Option.isSome_or, broken raises, Bool.or_true]
    · rw [result]
      rfl
    · rw [result, brings]
      cases f.flaw? <;> simp [Happening.event?]
  | some r =>
    have fine : f.flaw? = none := f.result?_isSome_iff.mp (by rw [brings]; rfl)
    have silent : (l.stopping r).filterMap Happening.event? = [] := by
      unfold stopping
      split <;> rfl
    refine ⟨?_, ?_, fun raises => ?_, ?_, ?_⟩
    · simp only [active_tell, settle, takes, Bool.toNat_false]
      omega
    · rw [takes]
      exact peak_tell _ _ _
    · rw [fine] at broken
      exact absurd (broken raises) Bool.false_ne_true
    · rw [result]
      exact completed_tell _ _ _
    · rw [List.filterMap_append, silent, List.nil_append, events_tell, result, brings]
      simp only [active_tell, completed_tell]
      rfl

theorem adds_release (l : Ledger) (b : Batch) (ending : Ending) :
    Adds listener l (.release b ending) (l.release listener b ending) := by
  by_cases held : 0 < l.active
  · exact adds_held held ⟨b, { ending }⟩
  · have free : l.active ≤ 0 := by omega
    cases ending with
    | raised failure =>
      constructor <;> simp [release, fail, Use.takes, Use.returns, Use.abandons, Use.result?, held,
        Happening.event?]
    | _ =>
      constructor <;> simp [release, free, fail, Use.takes, Use.returns, Use.abandons, Use.result?,
        held, Happening.event?]

/-- **What a use of a ledger adds to it.** -/
theorem adds_use (listener : Listener) (l : Ledger) (u : Use) :
    Adds listener l u (l.use listener u) := by
  cases u with
  | request => exact adds_request l
  | release b ending => exact adds_release l b ending
  | cancel =>
    constructor <;> simp [use, cancel, Use.takes, Use.returns, Use.abandons, Use.result?,
      Happening.event?]

theorem outlives_use (listener : Listener) (l : Ledger) (u : Use) :
    l.Outlives (l.use listener u).1 := by
  cases u with
  | request =>
    unfold use request
    cases l.cancelled <;> cases l.full
    · exact outlives_take l
    all_goals exact .refl l
  | release b ending => exact outlives_release l listener b ending
  | cancel => exact outlives_cancel l

/-- Only the slots of a limited ledger that are left can be taken. -/
theorem active_lt_of_takes {u : Use} (takes : u.takes l = true) {n : Nat}
    (bound : l.bound = some n) : l.active < n := by
  cases u with
  | request =>
    simp only [Use.takes, full, bound, Bool.and_eq_true, Bool.not_eq_true', decide_eq_false_iff_not,
      Int.not_le] at takes
    exact takes.2
  | release b ending => exact absurd takes Bool.false_ne_true
  | cancel => exact absurd takes Bool.false_ne_true

/-- A launch gives back only a slot that is taken. -/
theorem active_pos_of_returns {u : Use} (returns : u.returns l = true) : 0 < l.active := by
  unfold Use.returns at returns
  split at returns
  · exact absurd returns Bool.false_ne_true
  · exact of_decide_eq_true returns
  · exact absurd returns Bool.false_ne_true

/-- Only a valid result of the batch whose slot is given back is collected. -/
theorem use_of_result? {u : Use} {r : Result} (brings : u.result? l = some r) :
    ∃ b, u = .release b (.returned r) ∧ r.index = b.index := by
  unfold Use.result? at brings
  split at brings
  · rename_i b ending
    rw [Option.ite_none_right_eq_some] at brings
    obtain ⟨-, brings⟩ := brings
    unfold Ending.resultFor? at brings
    split at brings
    · rw [Option.ite_none_right_eq_some] at brings
      obtain ⟨own, same⟩ := brings
      cases same
      exact ⟨b, rfl, own⟩
    · contradiction
  · contradiction

/-! ## Many uses -/

/-- A ledger with a record of what has been done with it. -/
structure Account where
  ledger : Ledger
  /-- How many requests got a slot. -/
  granted : Nat := 0
  /-- How many taken slots were given back by launches that raised no error. -/
  returned : Nat := 0
  /-- How many launches raised an error. -/
  abandoned : Nat := 0
  /-- The numbers of taken slots that there have been. -/
  levels : List Int
  /-- What the receiver of events has been told, in order. -/
  told : List Event := []

namespace Account

/-- The account of a new ledger. -/
def opened (bound : Option Nat) (stopOnError : Bool) : Account where
  ledger := { bound, stopOnError }
  levels := [0]

/-- The account after one more use of its ledger. -/
def use (listener : Listener) (a : Account) (u : Use) : Account where
  ledger := (a.ledger.use listener u).1
  granted := a.granted + (u.takes a.ledger).toNat
  returned := a.returned + (u.returns a.ledger).toNat
  abandoned := a.abandoned + u.abandons.toNat
  levels := a.levels ++ [(a.ledger.use listener u).1.active]
  told := a.told ++ (a.ledger.use listener u).2.filterMap Happening.event?

/-- The account after some uses of its ledger. -/
def after (listener : Listener) (a : Account) (uses : List Use) : Account :=
  uses.foldl (use listener) a

/-- The books of an account are in order. -/
structure InOrder (listener : Listener) (bound : Option Nat) (a : Account) : Prop where
  slots : a.ledger.bound = bound
  /-- A fault stops the run. -/
  halts : a.ledger.fault.isSome = true → a.ledger.cancelled = true
  /-- The peak is the largest number of slots that have been taken at a time, -/
  level : a.ledger.active ∈ a.levels
  peak : a.ledger.peak ∈ a.levels ∧ ∀ level ∈ a.levels, level ≤ a.ledger.peak
  /-- which is no more than there are. -/
  bounded : ∀ n, bound = some n → a.ledger.peak ≤ n
  /-- Every slot that has been taken is still taken, has been returned or was abandoned. -/
  balance : (a.granted : Int) = a.ledger.active + a.returned + a.abandoned
  overdrawn : a.ledger.active < 0 → a.ledger.fault.isSome = true
  /-- The receiver of events has been told of every result in turn. -/
  told : listener.isSome = true → a.told.map Event.result = a.ledger.completed
  numbered : a.told.map Event.completed = List.range' 1 a.told.length

theorem inOrder_opened (listener : Listener) (bound : Option Nat) (stopOnError : Bool) :
    (opened bound stopOnError).InOrder listener bound where
  slots := rfl
  halts := fun broken => absurd broken Bool.false_ne_true
  level := List.mem_singleton_self 0
  peak := ⟨List.mem_singleton_self 0, fun _ mem => Int.le_of_eq (List.mem_singleton.mp mem)⟩
  bounded := fun n _ => Int.natCast_nonneg n
  balance := rfl
  overdrawn := fun negative => absurd negative (Int.lt_irrefl 0)
  told := fun _ => rfl
  numbered := rfl

variable {a z : Account} {bound : Option Nat}

/-- The peak stays the largest number of taken slots. -/
theorem InOrder.peak_use (order : a.InOrder listener bound) (u : Use) :
    (a.use listener u).ledger.peak ∈ (a.use listener u).levels ∧
      ∀ level ∈ (a.use listener u).levels, level ≤ (a.use listener u).ledger.peak := by
  have adds := adds_use listener a.ledger u
  have active := adds.active
  have peak := adds.peak
  have current := order.peak.2 _ order.level
  obtain ⟨next, hnext⟩ : ∃ next, next = (a.ledger.use listener u).1 := ⟨_, rfl⟩
  rw [← hnext] at active peak
  simp only [Account.use, ← hnext]
  rw [List.forall_mem_append, List.forall_mem_singleton, List.mem_append, List.mem_singleton]
  split at peak
  · refine ⟨?_, fun level mem => ?_, by omega⟩
    · rcases Int.le_total a.ledger.peak next.active with new | old
      · exact .inr (peak.trans (Int.max_eq_right new))
      · exact .inl (peak.trans (Int.max_eq_left old) ▸ order.peak.1)
    · have := order.peak.2 level mem
      omega
  · rename_i stays
    refine ⟨.inl (peak ▸ order.peak.1), peak ▸ order.peak.2, ?_⟩
    simp only [eq_false_of_ne_true stays, Bool.toNat_false] at active
    omega

/-- The receiver of events is told of the results in turn. -/
theorem InOrder.told_use (order : a.InOrder listener bound) (u : Use) :
    (listener.isSome = true →
      (a.use listener u).told.map Event.result = (a.use listener u).ledger.completed) ∧
    (a.use listener u).told.map Event.completed = List.range' 1 (a.use listener u).told.length := by
  obtain ⟨-, -, -, completed, told⟩ := adds_use listener a.ledger u
  simp only [Account.use, told, completed]
  split
  · rename_i listens
    have before := order.told listens
    have length := congrArg List.length before
    rw [List.length_map] at length
    cases u.result? a.ledger with
    | none => simpa using ⟨fun _ => before, order.numbered⟩
    | some r =>
      simp only [Option.toList_some, List.map_append, List.map_singleton, before, order.numbered,
        List.length_append, List.length_singleton, List.range'_concat, ← length, implies_true,
        true_and, Nat.one_mul, Nat.add_comm]
  · rename_i deaf
    exact ⟨fun listens => absurd listens deaf, by simpa using order.numbered⟩

/-- **One more use leaves the books in order.** -/
theorem InOrder.use (order : a.InOrder listener bound) (u : Use) :
    (a.use listener u).InOrder listener bound := by
  have later := outlives_use listener a.ledger u
  have adds := adds_use listener a.ledger u
  have active := adds.active
  have peak := adds.peak
  obtain ⟨told, numbered⟩ := order.told_use u
  refine ⟨later.bound.trans order.slots, later.halts order.halts, by simp [Account.use],
    order.peak_use u, ?_, ?_, ?_, told, numbered⟩
  · intro n limited
    have most := order.bounded n limited
    simp only [Account.use]
    split at peak
    · rename_i takes
      have room := active_lt_of_takes takes (order.slots.trans limited)
      simp only [takes, Bool.toNat_true] at active
      omega
    · omega
  · have balance := order.balance
    simp only [Account.use]
    omega
  · intro negative
    simp only [Account.use] at negative ⊢
    by_cases raises : u.abandons = true
    · exact adds.broken raises
    · simp only [eq_false_of_ne_true raises, Bool.toNat_false] at active
      have before : a.ledger.active < 0 := by
        by_cases returns : u.returns a.ledger = true
        · have held := active_pos_of_returns returns
          simp only [returns, Bool.toNat_true] at active
          omega
        · simp only [eq_false_of_ne_true returns, Bool.toNat_false] at active
          omega
      obtain ⟨f, broken⟩ := Option.isSome_iff_exists.mp (order.overdrawn before)
      exact Option.isSome_iff_exists.mpr ⟨f, later.first f broken⟩

/-- **After any uses the books are in order.** -/
theorem InOrder.after (order : a.InOrder listener bound) (uses : List Use) :
    (a.after listener uses).InOrder listener bound := by
  induction uses generalizing a with
  | nil => exact order
  | cons u uses ih => exact ih (order.use u)

/-- **Nothing that is in the books is taken back.** -/
theorem outlives_after (listener : Listener) (a : Account) (uses : List Use) :
    a.ledger.Outlives (a.after listener uses).ledger := by
  induction uses generalizing a with
  | nil => exact .refl a.ledger
  | cons u uses ih => exact (outlives_use listener a.ledger u).trans (ih (a.use listener u))

end Account

/-- A stopped run grants no slot, and asking for one changes nothing. -/
theorem use_request_of_cancelled (listener : Listener) (stopped : l.cancelled = true) :
    l.request = .refused ∧ l.use listener .request = (l, []) := by
  have answer : l.request = .refused := if_pos stopped
  refine ⟨answer, ?_⟩
  unfold use
  rw [answer]

/-- A use collects nothing, or a valid result of the batch whose slot is given back. -/
theorem completed_use (listener : Listener) (l : Ledger) (u : Use) :
    (l.use listener u).1.completed = l.completed ∨
      ∃ b r, u = .release b (.returned r) ∧ r.index = b.index ∧
        (l.use listener u).1.completed = l.completed ++ [r] := by
  have completed := (adds_use listener l u).completed
  cases brings : u.result? l with
  | none =>
    rw [brings, Option.toList_none, List.append_nil] at completed
    exact .inl completed
  | some r =>
    rw [brings, Option.toList_some] at completed
    obtain ⟨b, same, own⟩ := use_of_result? brings
    exact .inr ⟨b, r, same, own, completed⟩

/-- **The books of a ledger are kept in any use**: whatever is requested, released or cancelled, in
whatever order, and whatever the receiver of events does, the books are in order, nothing in them is
taken back, a stopped run grants no slot, and each use collects nothing or a valid result. -/
theorem accounts_balance (bound : Option Nat) (stopOnError : Bool) (listener : Listener)
    (uses more : List Use) :
    ∃ a z, a = (Account.opened bound stopOnError).after listener uses ∧
      z = a.after listener more ∧ a.InOrder listener bound ∧ a.ledger.Outlives z.ledger ∧
      (a.ledger.cancelled = true →
        a.ledger.request = .refused ∧ a.ledger.use listener .request = (a.ledger, [])) ∧
      ∀ u, (a.ledger.use listener u).1.completed = a.ledger.completed ∨
        ∃ b r, u = .release b (.returned r) ∧ r.index = b.index ∧
          (a.ledger.use listener u).1.completed = a.ledger.completed ++ [r] :=
  ⟨_, _, rfl, rfl, (Account.inOrder_opened listener bound stopOnError).after uses,
    Account.outlives_after listener _ more, use_request_of_cancelled listener,
    completed_use listener _⟩

end Ledger

end BatchExec
