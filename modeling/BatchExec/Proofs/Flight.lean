import BatchExec.Schedule.History

/-!
# Launches in flight

What a history tells about the batches of a run: which ones came out of the source, which ones got a
slot, which launches started and what their course was, and which launches ended.

* `Flight`: a launch that has started.
* `History.flights`: the launches that a history starts, each with the course that the launcher gave
  it.
* `History.living`: the children of a history that are alive at some time.
* `Happening.isQuiet`: what moves no batch on. A quiet continuation changes none of these views.
-/

namespace BatchExec

/-- A launch that has started: its batch and the course that it takes. -/
structure Flight where
  batch : Batch
  plan : Plan

namespace Flight

/-- The result that a flight brings, if it brings one for its own batch. -/
def result? (f : Flight) : Option Result := f.plan.ending.resultFor? f.batch

/-- What is wrong with the end of a flight, if something is. -/
def flaw? (f : Flight) : Option Fault :=
  match f.plan.ending with
  | .raised failure => some (.launchRaised f.batch.index failure)
  | _ => if f.result?.isSome then none else some (.invalidResult f.batch.index)

/-- Whether a flight brings a result that is no success. -/
def fails (f : Flight) : Bool := f.result?.any fun r => !r.success

/-- How a flight ends. -/
inductive Ends (f : Flight) : Prop where
  | raised (failure : Failure) (ending : f.plan.ending = .raised failure)
      (none : f.result? = none) (flaw : f.flaw? = some (.launchRaised f.batch.index failure))
  | invalid (fine : ∀ failure, f.plan.ending ≠ .raised failure)
      (none : f.result? = none) (flaw : f.flaw? = some (.invalidResult f.batch.index))
  | delivered (r : Result) (ending : f.plan.ending = .returned r) (own : r.index = f.batch.index)
      (brings : f.result? = some r) (flaw : f.flaw? = Option.none)

/-- A flight ends with an error, without a result of its batch or with one. -/
theorem ends (f : Flight) : f.Ends := by
  cases ending : f.plan.ending with
  | raised failure =>
    refine .raised failure ending ?_ ?_ <;> simp [result?, flaw?, ending, Ending.resultFor?]
  | malformed =>
    refine .invalid (by simp [ending]) ?_ ?_ <;> simp [result?, flaw?, ending, Ending.resultFor?]
  | returned r =>
    by_cases own : r.index = f.batch.index
    · refine .delivered r ending own ?_ ?_ <;>
        simp [result?, flaw?, ending, Ending.resultFor?, own]
    · refine .invalid (by simp [ending]) ?_ ?_ <;>
        simp [result?, flaw?, ending, Ending.resultFor?, own]

theorem result?_isSome_iff (f : Flight) : f.result?.isSome ↔ f.flaw? = none := by
  cases f.ends with
  | raised failure ending none flaw => simp [none, flaw]
  | invalid fine none flaw => simp [none, flaw]
  | delivered r ending own brings flaw => simp [brings, flaw]

theorem index_of_result? {f : Flight} {r : Result} (h : f.result? = some r) :
    r.index = f.batch.index := by
  cases f.ends with
  | raised failure ending none flaw => simp [none] at h
  | invalid fine none flaw => simp [none] at h
  | delivered x ending own brings flaw =>
    obtain rfl := Option.some.inj (brings.symm.trans h)
    exact own

section

variable {flights : List Flight} (brings : ∀ f ∈ flights, f.result?.isSome = true)
include brings

theorem map_some_results :
    (flights.filterMap result?).map some = flights.map result? := by
  rw [List.map_filterMap_some_eq_filter_map_isSome, List.filter_eq_self, List.forall_mem_map]
  exact brings

/-- Results have the indices of their batches. -/
theorem map_index_results :
    (flights.filterMap result?).map Result.index = flights.map (·.batch.index) := by
  induction flights with
  | nil => rfl
  | cons f flights ih =>
    obtain ⟨x, result⟩ := Option.isSome_iff_exists.mp (brings f List.mem_cons_self)
    rw [List.filterMap_cons_some result, List.map_cons, List.map_cons, index_of_result? result,
      ih fun g mem => brings g (List.mem_cons_of_mem f mem)]

end

end Flight

/-- Whether a launch ends with an error. -/
def Plan.raises (p : Plan) : Bool :=
  match p.ending with
  | .raised _ => true
  | _ => false

theorem Flight.flaw?_of_raises {f : Flight} (raises : f.plan.raises = true) :
    f.flaw?.isSome = true := by
  unfold Plan.raises at raises
  split at raises
  · rename_i failure raised
    simp [flaw?, raised]
  · exact absurd raises Bool.false_ne_true

/-- Whether the child of a launch, if one starts, has ended by some time, unless the launch ends
with an error. -/
def Plan.SettledBy (p : Plan) (time : Nat) : Prop :=
  p.raises = false → ∀ a ∈ p.attempt, a.spawned = true → a.ended ≤ time

theorem Plan.SettledBy.mono {p : Plan} {time later : Nat} (h : p.SettledBy time)
    (le : time ≤ later) : p.SettledBy later := fun fine a tried spawned =>
  Nat.le_trans (h fine a tried spawned) le

/-- A launcher whose launches do not end before their children, unless they end with an error. -/
def Launcher.Reaps (launch : Launcher) : Prop :=
  ∀ ordinal time b, (launch ordinal time b).SettledBy
    (time + (launch ordinal time b).duration.getD 0)

/-- A launcher whose launches start no child if they end with an error. -/
def Launcher.Attends (launch : Launcher) : Prop :=
  ∀ ordinal time b, (launch ordinal time b).raises = true →
    ∀ a ∈ (launch ordinal time b).attempt, a.spawned = false

/-! ## Views of a history -/

namespace Entry

/-- The batch that comes out of the source. -/
def reception? (e : Entry) : Option Batch :=
  match e.what with
  | .received b => some b
  | _ => none

/-- The batch that gets a slot. -/
def admission? (e : Entry) : Option Batch :=
  match e.what with
  | .admitted b _ => some b
  | _ => none

/-- The batch whose launch starts, and the time. -/
def start? (e : Entry) : Option (Batch × Nat) :=
  match e.what with
  | .started b => some (b, e.time)
  | _ => none

/-- The batch whose launch ends. -/
def landing? (e : Entry) : Option Batch :=
  match e.what with
  | .ended b => some b
  | _ => none

/-- The attempt to start a child. -/
def attempt? (e : Entry) : Option Attempt :=
  match e.what with
  | .attempted a => some a
  | _ => none

end Entry

namespace History

/-- The batches that came out of the source, in order. -/
def received (h : History) : List Batch := h.filterMap Entry.reception?

/-- The batches that got a slot, in order. -/
def admitted (h : History) : List Batch := h.filterMap Entry.admission?

/-- The batches whose launches started, each with the time, in order. -/
def starts (h : History) : List (Batch × Nat) := h.filterMap Entry.start?

/-- The batches whose launches started, in order. -/
def launched (h : History) : List Batch := h.starts.map Prod.fst

/-- The batches whose launches ended by themselves, in order. -/
def landed (h : History) : List Batch := h.filterMap Entry.landing?

/-- The flights that started, in order: the launcher is asked for each with its ordinal number and
its time. -/
def flights (launch : Launcher) (h : History) : List Flight :=
  h.starts.mapIdx fun ordinal s => ⟨s.1, launch ordinal s.2 s.1⟩

/-- The children that are alive at some time: they have been started and have not ended. -/
def living (h : History) (time : Nat) : List Attempt :=
  h.attempts.filter fun a => a.spawned && decide (a.time ≤ time) && decide (time < a.ended)

theorem attempts_eq (h : History) : h.attempts = h.filterMap Entry.attempt? := by
  unfold attempts
  congr 1

theorem map_batch_flights (launch : Launcher) (h : History) :
    (h.flights launch).map Flight.batch = h.launched := by
  unfold flights launched
  refine List.ext_getElem (by simp) fun k _ _ => ?_
  simp

theorem length_flights (launch : Launcher) (h : History) :
    (h.flights launch).length = h.starts.length := by
  simp [flights]

theorem plan_of_mem_flights {launch : Launcher} {h : History} {f : Flight}
    (mem : f ∈ h.flights launch) : ∃ ordinal time, f.plan = launch ordinal time f.batch := by
  obtain ⟨k, bound, rfl⟩ := List.mem_mapIdx.mp mem
  exact ⟨_, _, rfl⟩

theorem plan_of_getElem?_flights {launch : Launcher} {h : History} {k : Nat} {f : Flight}
    (nth : (h.flights launch)[k]? = some f) : ∃ time, f.plan = launch k time f.batch := by
  rw [flights, List.getElem?_mapIdx] at nth
  obtain ⟨start, -, rfl⟩ := Option.map_eq_some_iff.mp nth
  exact ⟨_, rfl⟩

theorem getElem?_flights (launch : Launcher) {h : History} {k : Nat} {b : Batch}
    (nth : h.launched[k]? = some b) :
    ∃ time, (h.flights launch)[k]? = some ⟨b, launch k time b⟩ := by
  rw [launched, List.getElem?_map] at nth
  obtain ⟨start, listed, rfl⟩ := Option.map_eq_some_iff.mp nth
  refine ⟨start.2, ?_⟩
  rw [flights, List.getElem?_mapIdx, listed]
  rfl

/-! ## Continuations -/

/-- What a continuation of a history adds to its views. -/
structure Adds (h h' : History) (received admitted : List Batch) (starts : List (Batch × Nat))
    (landed : List Batch) (attempts : List Attempt) : Prop where
  received : h'.received = h.received ++ received
  admitted : h'.admitted = h.admitted ++ admitted
  starts : h'.starts = h.starts ++ starts
  landed : h'.landed = h.landed ++ landed
  attempts : h'.attempts = h.attempts ++ attempts

theorem adds_append (h more : History) :
    Adds h (h ++ more) more.received more.admitted more.starts more.landed more.attempts :=
  ⟨List.filterMap_append, List.filterMap_append, List.filterMap_append, List.filterMap_append,
    List.filterMap_append⟩

theorem Adds.flights_eq {h h' : History} {received admitted landed : List Batch}
    {attempts : List Attempt} (adds : Adds h h' received admitted [] landed attempts)
    (launch : Launcher) : h'.flights launch = h.flights launch := by
  rw [flights, flights, adds.starts, List.append_nil]

end History

/-- Whether something moves no batch on and starts no child. -/
def Happening.isQuiet : Happening → Bool
  | .received _ | .admitted _ _ | .started _ | .ended _ | .attempted _ => false
  | _ => true

/-- What is noted of a result, which may stop the run, is quiet. -/
theorem quiet_recorded (r : Result) (stops : Bool) :
    ∀ e ∈ Happening.recorded r :: (if stops then [.stopping r] else []), e.isQuiet = true := by
  cases stops <;> simp [Happening.isQuiet]

theorem filterMap_of_quiet {happenings : List Happening}
    (quiet : ∀ e ∈ happenings, e.isQuiet = true) (now : Nat) {α : Type} (view : Entry → Option α)
    (blind : ∀ e : Happening, e.isQuiet = true → view ⟨now, e⟩ = none) :
    (happenings.map (⟨now, ·⟩)).filterMap view = [] := by
  rw [List.filterMap_eq_nil_iff]
  intro entry mem
  obtain ⟨e, listed, rfl⟩ := List.mem_map.mp mem
  exact blind e (quiet e listed)

namespace History

/-- A quiet continuation adds nothing. -/
theorem adds_of_quiet (h : History) {happenings : List Happening}
    (quiet : ∀ e ∈ happenings, e.isQuiet = true) (now : Nat) :
    Adds h (h ++ happenings.map (⟨now, ·⟩)) [] [] [] [] [] := by
  have received : received (happenings.map (⟨now, ·⟩)) = [] :=
    filterMap_of_quiet quiet now _ fun e => by
      cases e <;> simp [Happening.isQuiet, Entry.reception?]
  have admitted : admitted (happenings.map (⟨now, ·⟩)) = [] :=
    filterMap_of_quiet quiet now _ fun e => by
      cases e <;> simp [Happening.isQuiet, Entry.admission?]
  have starts : starts (happenings.map (⟨now, ·⟩)) = [] :=
    filterMap_of_quiet quiet now _ fun e => by cases e <;> simp [Happening.isQuiet, Entry.start?]
  have landed : landed (happenings.map (⟨now, ·⟩)) = [] :=
    filterMap_of_quiet quiet now _ fun e => by cases e <;> simp [Happening.isQuiet, Entry.landing?]
  have attempts : attempts (happenings.map (⟨now, ·⟩)) = [] := by
    rw [attempts_eq]
    exact filterMap_of_quiet quiet now _ fun e => by
      cases e <;> simp [Happening.isQuiet, Entry.attempt?]
  have adds := adds_append h (happenings.map (⟨now, ·⟩))
  rwa [received, admitted, starts, landed, attempts] at adds

/-- Two continuations one after the other. -/
theorem Adds.trans {h h' h'' : History} {received received' admitted admitted' : List Batch}
    {starts starts' : List (Batch × Nat)} {landed landed' : List Batch}
    {attempts attempts' : List Attempt} (first : Adds h h' received admitted starts landed attempts)
    (second : Adds h' h'' received' admitted' starts' landed' attempts') :
    Adds h h'' (received ++ received') (admitted ++ admitted') (starts ++ starts')
      (landed ++ landed') (attempts ++ attempts') where
  received := by rw [second.received, first.received, List.append_assoc]
  admitted := by rw [second.admitted, first.admitted, List.append_assoc]
  starts := by rw [second.starts, first.starts, List.append_assoc]
  landed := by rw [second.landed, first.landed, List.append_assoc]
  attempts := by rw [second.attempts, first.attempts, List.append_assoc]

variable (h : History) (now : Nat) (b : Batch)

theorem adds_received : Adds h (h ++ [⟨now, .received b⟩]) [b] [] [] [] [] := adds_append _ _

theorem adds_admitted (active : Int) :
    Adds h (h ++ [⟨now, .admitted b active⟩]) [] [b] [] [] [] := adds_append _ _

theorem quiet_remarks (remarks : List Remark) :
    ∀ e ∈ remarks.map Happening.remarked, e.isQuiet = true := by
  intro e mem
  obtain ⟨remark, -, rfl⟩ := List.mem_map.mp mem
  rfl

/-- A launch starts, and writes and tries something. -/
theorem adds_start (opening : List Remark) (attempt : Option Attempt) :
    Adds h (h ++ (Happening.started b :: opening.map Happening.remarked ++
      attempt.toList.map Happening.attempted).map (⟨now, ·⟩))
      [] [] [(b, now)] [] attempt.toList := by
  have first : Adds h (h ++ [⟨now, .started b⟩]) [] [] [(b, now)] [] [] := adds_append _ _
  have opened := first.trans (adds_of_quiet _ (quiet_remarks opening) now)
  have tried (h' : History) : Adds h'
      (h' ++ (attempt.toList.map Happening.attempted).map (⟨now, ·⟩))
      [] [] [] [] attempt.toList := by
    cases attempt <;> exact adds_append _ _
  simpa using opened.trans (tried _)

/-- A launch ends and writes something. -/
theorem adds_ended (closing : List Remark) :
    Adds h (h ++ (Happening.ended b :: closing.map Happening.remarked).map (⟨now, ·⟩))
      [] [] [] [b] [] := by
  have first : Adds h (h ++ [⟨now, .ended b⟩]) [] [] [] [b] [] := adds_append _ _
  simpa using first.trans (adds_of_quiet _ (quiet_remarks closing) now)

end History

end BatchExec
