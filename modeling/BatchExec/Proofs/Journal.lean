import BatchExec.Proofs.Flight
import Mathlib.Data.Multiset.AddSub
import Mathlib.Logic.Relation

/-!
# The journal of a run

A roster says where the batches of a run are. The journal of a run says what has come of its
launches: in what order they ended, what the receiver of events is told of them, and which faults
came to light. It grows by starts and landings only.

* `Landing`: the end of a launch, and the event or the fault that comes of it.
* `Journal`, `Journal.Move`: what has come of the launches, and the two moves that add to it.
* `Journal.Tells`: a journal tells of certain landings, and of nothing else.
* `Journal.Tells.of_moves`: **every chain of moves goes on telling of landings.**
-/

namespace BatchExec

/-! ## Views of a history -/

namespace Entry

/-- The batch whose launch is cut off. -/
def killing? (e : Entry) : Option Batch :=
  match e.what with
  | .killed b => some b
  | _ => none

/-- The event that the receiver gets. -/
def delivery? (e : Entry) : Option Event :=
  match e.what with
  | .delivered event => some event
  | _ => none

/-- The fault that comes to light. -/
def fault? (e : Entry) : Option Fault :=
  match e.what with
  | .faulted f => some f
  | _ => none

end Entry

/-- Whether something neither admits nor starts a launch, ends none and tells of none. -/
def Happening.isMute : Happening → Bool
  | .admitted _ _ | .started _ | .ended _ | .killed _ | .delivered _ | .faulted _ => false
  | _ => true

namespace History

/-- The batches whose launches were cut off, in order. -/
def cut (h : History) : List Batch := h.filterMap Entry.killing?

/-- The events that the receiver got, in order. -/
def heard (h : History) : List Event := h.filterMap Entry.delivery?

/-- The faults that came to light, in order. -/
def faults (h : History) : List Fault := h.filterMap Entry.fault?

/-- The batches that got a slot after the first fault, in order. -/
def late (h : History) : List Batch := admitted (h.dropWhile (·.fault?.isNone))

theorem map_fst_events (h : History) : h.events.map Prod.fst = h.heard := by
  rw [events, heard, List.map_filterMap]
  congr 1
  funext ⟨_, what⟩
  cases what <;> rfl

theorem late_append (h h' : History) :
    (h ++ h').late = if h.faults = [] then h'.late else h.late ++ h'.admitted := by
  induction h with
  | nil => rfl
  | cons e h ih =>
    cases fault : e.fault? with
    | none =>
      have same : faults (e :: h) = faults h := List.filterMap_cons_none fault
      have skip (h : History) : late (e :: h) = h.late := by simp [late, fault]
      rw [List.cons_append, skip, skip, same, ih]
    | some f =>
      have some : faults (e :: h) ≠ [] := by simp [faults, fault]
      have all (h : History) : late (e :: h) = admitted (e :: h) := by simp [late, fault]
      rw [if_neg some, List.cons_append, all, all, ← List.cons_append]
      exact List.filterMap_append

/-- Without a fault nothing is late. -/
theorem late_eq_nil {h : History} (fine : h.faults = []) : h.late = [] := by
  have none := late_append h []
  rwa [if_pos fine, List.append_nil] at none

/-- What admits nothing adds no late batch. -/
theorem late_append_of_admitted {h h' : History} (none : h'.admitted = []) :
    (h ++ h').late = h.late := by
  have calm : h'.late = [] :=
    List.sublist_nil.mp (none ▸ (List.dropWhile_sublist _).filterMap Entry.admission?)
  rw [late_append, none, calm, List.append_nil]
  split
  · rename_i fine
    exact (late_eq_nil fine).symm
  · rfl

end History

/-! ## Landings -/

/-- The end of a launch, with the number of results and of active launches right after it. -/
structure Landing where
  flight : Flight
  completed : Nat
  active : Int

namespace Landing

/-- The event that tells of the result of a landing, if it brings one. -/
def event? (l : Landing) : Option Event := l.flight.result?.map (⟨·, l.completed, l.active⟩)

/-- What a receiver of events, if there is one, is told of a landing. -/
def told? (receiver : Listener) (l : Landing) : Option Event :=
  if receiver.isSome then l.event? else none

/-- The error that a receiver of events raises when it is told of a landing. -/
def protest? (critic : Listener) (l : Landing) : Option Failure :=
  critic.bind fun react => l.event?.bind fun e => (react e).raises

/-- The fault that a landing brings to light, if it does: something is wrong with the end of the
launch, or the receiver that is told of it raises an error. -/
def fault? (critic : Listener) (l : Landing) : Option Fault :=
  l.flight.flaw?.or ((l.protest? critic).map .callbackFailed)

/-- The error of the launch, or else of the receiver that is told of it. -/
def error? (critic : Listener) (l : Landing) : Option Failure :=
  match l.flight.plan.ending with
  | .raised failure => some failure
  | _ => l.protest? critic

variable {critic : Listener} {l : Landing}

/-- A launch that brings no result is not protested against. -/
theorem protest?_of_result? (none : l.flight.result? = none) : l.protest? critic = .none := by
  simp [protest?, event?, none]

/-- **Behind a fault is the error of the launch or of the receiver**; behind an invalid result is
none. -/
theorem cause_of_fault? {fault : Fault} (broken : l.fault? critic = some fault) :
    fault.cause = l.error? critic := by
  unfold fault? at broken
  unfold error?
  cases l.flight.ends with
  | raised failure ending none flaw =>
    rw [flaw, Option.some_or] at broken
    obtain rfl := Option.some.inj broken
    rw [ending]
    rfl
  | invalid fine none flaw =>
    rw [flaw, Option.some_or] at broken
    obtain rfl := Option.some.inj broken
    split
    · rename_i failure raised
      exact absurd raised (fine failure)
    · exact (protest?_of_result? none).symm
  | delivered r ending own brings flaw =>
    rw [flaw, Option.none_or] at broken
    obtain ⟨failure, protests, rfl⟩ := Option.map_eq_some_iff.mp broken
    rw [ending]
    exact protests.symm

end Landing

/-! ## Journals -/

/-- What a journal goes by: these do not change in the course of a run. -/
structure Terms where
  /-- The number of slots, if it is limited. -/
  bound : Option Nat
  /-- Who is told of results. -/
  receiver : Listener
  /-- Whose errors break the run. -/
  critic : Listener

/-- What has come of the launches of a run. -/
structure Journal where
  /-- The launches that have started, in order. -/
  flights : List Flight
  running : Multiset Flight
  /-- The batches whose launches have ended by themselves, in order. -/
  landed : List Batch
  /-- The batches whose launches were cut off, in order. -/
  cut : List Batch
  /-- What the receiver of events has been told or is still to be told, in order. -/
  told : List Event
  /-- The faults that came to light, in order. -/
  faults : List Fault
  /-- The batches that got a slot after the first fault. -/
  late : List Batch
  /-- The results, in the order in which they came in. -/
  completed : List Result
  /-- The fault that is to be reported. -/
  fault : Option Fault

namespace Journal

/-- The journal of a run with a history, in which these launches are running and the receiver is
still to be told of these events. -/
def ofHistory (launch : Launcher) (h : History) (running : Multiset Flight)
    (completed : List Result) (fault : Option Fault) (pending : List Event) : Journal where
  flights := h.flights launch
  running
  landed := h.landed
  cut := h.cut
  told := h.heard ++ pending
  faults := h.faults
  late := h.late
  completed
  fault

/-! ## What adds to a journal -/

section Views

variable {launch : Launcher} {h : History} {running : Multiset Flight} {completed : List Result}
  {fault : Option Fault} {pending : List Event}

/-- What happens besides admissions adds to the views. -/
theorem ofHistory_append {h' : History} (idle : h'.admitted = []) :
    ofHistory launch (h ++ h') running completed fault pending =
      { ofHistory launch h running completed fault (h'.heard ++ pending) with
        flights := (h ++ h').flights launch
        landed := h.landed ++ h'.landed
        cut := h.cut ++ h'.cut
        faults := h.faults ++ h'.faults } := by
  have heard : (h ++ h').heard ++ pending = h.heard ++ (h'.heard ++ pending) := by
    rw [← List.append_assoc]
    exact congrArg (· ++ pending) List.filterMap_append
  simp only [ofHistory, heard, History.late_append_of_admitted idle, mk.injEq, true_and, and_true]
  exact ⟨List.filterMap_append, List.filterMap_append, List.filterMap_append⟩

theorem flights_append {h' : History} (still : h'.starts = []) :
    (h ++ h').flights launch = h.flights launch := by
  have starts : (h ++ h').starts = h.starts ++ h'.starts := List.filterMap_append
  rw [History.flights, starts, still, List.append_nil]
  rfl

/-- What happens besides does not show in a journal. -/
theorem ofHistory_mute {happenings : List Happening} (mute : ∀ e ∈ happenings, e.isMute = true)
    (now : Nat) :
    ofHistory launch (h ++ happenings.map (⟨now, ·⟩)) running completed fault pending =
      ofHistory launch h running completed fault pending := by
  have none {α : Type} (view : Entry → Option α)
      (blind : ∀ e : Happening, e.isMute = true → view ⟨now, e⟩ = .none) :
      (happenings.map (⟨now, ·⟩)).filterMap view = [] := by
    rw [List.filterMap_map, List.filterMap_eq_nil_iff]
    exact fun e mem => blind e (mute e mem)
  rw [ofHistory_append (none _ fun e => by cases e <;> simp [Happening.isMute, Entry.admission?]),
    flights_append (none _ fun e => by cases e <;> simp [Happening.isMute, Entry.start?])]
  simp only [History.landed, History.cut, History.heard, History.faults,
    none Entry.landing? fun e => by cases e <;> simp [Happening.isMute, Entry.landing?],
    none Entry.killing? fun e => by cases e <;> simp [Happening.isMute, Entry.killing?],
    none Entry.delivery? fun e => by cases e <;> simp [Happening.isMute, Entry.delivery?],
    none Entry.fault? fun e => by cases e <;> simp [Happening.isMute, Entry.fault?],
    List.append_nil, List.nil_append]
  rfl

theorem mute_remarks (remarks : List Remark) :
    ∀ e ∈ remarks.map Happening.remarked, e.isMute = true := by
  intro e mem
  obtain ⟨remark, -, rfl⟩ := List.mem_map.mp mem
  rfl

/-- What is noted of a result, which may stop the run, does not show. -/
theorem mute_recorded (r : Result) (stops : Bool) :
    ∀ e ∈ Happening.recorded r :: (if stops then [.stopping r] else []), e.isMute = true := by
  cases stops <;> simp [Happening.isMute]

/-- The receiver gets the event that was to be told next. -/
theorem ofHistory_delivered (now : Nat) (e : Event) :
    ofHistory launch (h ++ [⟨now, .delivered e⟩]) running completed fault pending =
      ofHistory launch h running completed fault (e :: pending) := by
  rw [ofHistory_append rfl, flights_append rfl]
  simp [ofHistory, History.landed, History.cut, History.heard, History.faults, Entry.landing?,
    Entry.killing?, Entry.delivery?, Entry.fault?]

/-- A fault comes to light. -/
theorem ofHistory_faulted (now : Nat) (f : Fault) :
    ofHistory launch (h ++ [⟨now, .faulted f⟩]) running completed fault pending =
      { ofHistory launch h running completed fault pending with
        faults := (ofHistory launch h running completed fault pending).faults ++ [f] } := by
  rw [ofHistory_append rfl, flights_append rfl]
  simp [ofHistory, History.landed, History.cut, History.heard, History.faults, Entry.landing?,
    Entry.killing?, Entry.delivery?, Entry.fault?]

/-- A launch ends and writes something. -/
theorem ofHistory_ended (now : Nat) (b : Batch) (closing : List Remark) :
    ofHistory launch
        (h ++ (Happening.ended b :: closing.map Happening.remarked).map (⟨now, ·⟩))
        running completed fault pending =
      { ofHistory launch h running completed fault pending with
        landed := (ofHistory launch h running completed fault pending).landed ++ [b] } := by
  rw [List.map_cons, List.append_cons, ofHistory_mute (mute_remarks closing),
    ofHistory_append rfl, flights_append rfl]
  simp [ofHistory, History.landed, History.cut, History.heard, History.faults, Entry.landing?,
    Entry.killing?, Entry.delivery?, Entry.fault?]

/-- A launch starts, and writes and tries something. -/
theorem ofHistory_started (now : Nat) (f : Flight)
    (planned : f.plan = launch h.starts.length now f.batch) :
    ofHistory launch (h ++ (Happening.started f.batch :: f.plan.opening.map Happening.remarked ++
        f.plan.attempt.toList.map Happening.attempted).map (⟨now, ·⟩))
        running completed fault pending =
      { ofHistory launch h running completed fault pending with
        flights := (ofHistory launch h running completed fault pending).flights ++ [f] } := by
  have mute : ∀ e ∈ f.plan.opening.map Happening.remarked ++
      f.plan.attempt.toList.map Happening.attempted, e.isMute = true := by
    intro e mem
    rcases List.mem_append.mp mem with written | tried
    · exact mute_remarks f.plan.opening e written
    · obtain ⟨a, -, rfl⟩ := List.mem_map.mp tried
      rfl
  have flights : History.flights launch (h ++ [⟨now, .started f.batch⟩]) =
      h.flights launch ++ [f] := by
    have starts : History.starts (h ++ [⟨now, .started f.batch⟩]) = h.starts ++ [(f.batch, now)] :=
      List.filterMap_append
    rw [History.flights, starts, List.mapIdx_concat, ← planned]
    rfl
  rw [List.cons_append, List.map_cons, List.append_cons, ofHistory_mute mute, ofHistory_append rfl,
    flights]
  simp [ofHistory, History.landed, History.cut, History.heard, History.faults, Entry.landing?,
    Entry.killing?, Entry.delivery?, Entry.fault?]

/-- A batch gets a slot, and there was no fault. -/
theorem ofHistory_admitted (fine : h.faults = []) (now : Nat) (b : Batch) (active : Int) :
    ofHistory launch (h ++ [⟨now, .admitted b active⟩]) running completed fault pending =
      ofHistory launch h running completed fault pending := by
  have late : History.late (h ++ [⟨now, .admitted b active⟩]) = h.late := by
    rw [History.late_append, if_pos fine, History.late_eq_nil fine]
    rfl
  have flights : History.flights launch (h ++ [⟨now, .admitted b active⟩]) = h.flights launch :=
    flights_append rfl
  simp [ofHistory, late, flights, History.landed, History.cut, History.heard, History.faults,
    Entry.landing?, Entry.killing?, Entry.delivery?, Entry.fault?]

end Views

/-! ## Moves -/

/-- A launch starts. -/
def start (j : Journal) (f : Flight) : Journal :=
  { j with flights := j.flights ++ [f], running := f ::ₘ j.running }

/-- The landing of a launch that leaves so many others active. -/
def landing (j : Journal) (f : Flight) (active : Int) : Landing :=
  ⟨f, (j.completed ++ f.result?.toList).length, active⟩

/-- A launch lands, and these fly on. -/
def land (terms : Terms) (j : Journal) (l : Landing) (rest : Multiset Flight) : Journal :=
  { j with
    running := rest
    landed := j.landed ++ [l.flight.batch]
    told := j.told ++ (l.told? terms.receiver).toList
    faults := j.faults ++ (l.fault? terms.critic).toList
    completed := j.completed ++ l.flight.result?.toList
    fault := j.fault.or (l.fault? terms.critic) }

/-- One move of a journal. -/
inductive Move (terms : Terms) : Journal → Journal → Prop where
  | start (j : Journal) (f : Flight) : Move terms j (j.start f)
  | land (j : Journal) (f : Flight) (active : Int) (rest : Multiset Flight)
      (aloft : j.running = f ::ₘ rest) (natural : 0 ≤ active)
      (room : ∀ n, terms.bound = some n → active < n) :
      Move terms j (j.land terms (j.landing f active) rest)

/-- A chain of moves. -/
abbrev Moves (terms : Terms) : Journal → Journal → Prop := Relation.ReflTransGen (Move terms)

/-- A journal tells of these landings, in this order, and of nothing else. -/
structure Tells (terms : Terms) (j : Journal) (landings : List Landing) : Prop where
  all : (landings.map Landing.flight : Multiset Flight) + j.running = (j.flights : Multiset Flight)
  landed : j.landed = landings.map (·.flight.batch)
  cut : j.cut = []
  /-- Every result is told, -/
  told : j.told = landings.filterMap (·.told? terms.receiver)
  /-- every fault comes to light, -/
  faults : j.faults = landings.filterMap (·.fault? terms.critic)
  /-- after the first one no batch gets a slot, -/
  late : j.late = []
  completed : j.completed = landings.filterMap (·.flight.result?)
  /-- and it is the one that is reported. -/
  fault : j.fault = j.faults.head?
  /-- The events count the results. -/
  numbered : (landings.filterMap Landing.event?).map Event.completed =
    List.range' 1 j.completed.length
  active : ∀ l ∈ landings, 0 ≤ l.active ∧ ∀ n, terms.bound = some n → l.active < n

variable {terms : Terms} {j j' : Journal} {landings : List Landing}

/-- As long as no fault is to be reported, none has come to light. -/
theorem Tells.faults_eq_nil (tells : j.Tells terms landings) (whole : j.fault = none) :
    j.faults = [] :=
  List.head?_eq_none_iff.mp (tells.fault.symm.trans whole)

theorem Tells.start (tells : j.Tells terms landings) (f : Flight) :
    (j.start f).Tells terms landings := by
  refine { tells with all := ?_ }
  have all := tells.all
  simp only [Journal.start, ← Multiset.coe_add, ← all, Multiset.coe_singleton,
    Multiset.add_assoc, Multiset.add_comm j.running, Multiset.singleton_add]

theorem filterMap_concat {α β : Type} (f : α → Option β) (xs : List α) (x : α) :
    (xs ++ [x]).filterMap f = xs.filterMap f ++ (f x).toList := by
  rw [List.filterMap_append, List.filterMap_cons]
  cases f x <;> rfl

/-- A landing that brings a result makes the next event. -/
theorem Tells.numbered_land (tells : j.Tells terms landings) (f : Flight) (active : Int) :
    ((landings ++ [j.landing f active]).filterMap Landing.event?).map Event.completed =
      List.range' 1 (j.completed ++ f.result?.toList).length := by
  rw [filterMap_concat, List.map_append, tells.numbered]
  cases result : f.result? with
  | none => simp [Landing.event?, landing, result]
  | some r =>
    simp only [Landing.event?, landing, result, Option.map_some, Option.toList_some,
      List.length_append, List.length_singleton, List.map_cons, List.map_nil, List.range'_concat]
    simp [Nat.add_comm]

theorem Tells.land (tells : j.Tells terms landings) {f : Flight} {active : Int}
    {rest : Multiset Flight} (aloft : j.running = f ::ₘ rest) (natural : 0 ≤ active)
    (room : ∀ n, terms.bound = some n → active < n) :
    (j.land terms (j.landing f active) rest).Tells terms (landings ++ [j.landing f active]) := by
  refine { all := ?_, landed := ?_, cut := tells.cut, told := ?_, faults := ?_, late := tells.late
           completed := ?_, fault := ?_, numbered := tells.numbered_land f active, active := ?_ }
  · have all := tells.all
    rw [aloft] at all
    simp only [Journal.land, landing, List.map_append, List.map_cons, List.map_nil,
      ← Multiset.coe_add, Multiset.coe_singleton, ← all, Multiset.add_assoc,
      Multiset.singleton_add]
  · simp only [Journal.land, tells.landed, List.map_append, List.map_cons, List.map_nil]
  · rw [filterMap_concat, ← tells.told]
    rfl
  · rw [filterMap_concat, ← tells.faults]
    rfl
  · rw [filterMap_concat, ← tells.completed]
    rfl
  · simp only [Journal.land, tells.fault, List.head?_append]
    cases (j.landing f active).fault? terms.critic <;> rfl
  · intro l mem
    rcases List.mem_append.mp mem with old | new
    · exact tells.active l old
    · rw [List.mem_singleton.mp new]
      exact ⟨natural, room⟩

/-- **Every chain of moves goes on telling of landings.** -/
theorem Tells.of_moves (moves : Moves terms j j') (tells : j.Tells terms landings) :
    ∃ more, j'.Tells terms (landings ++ more) := by
  induction moves with
  | refl => exact ⟨[], by rwa [List.append_nil]⟩
  | tail _ move ih =>
    obtain ⟨more, tells⟩ := ih
    cases move with
    | start f => exact ⟨more, tells.start f⟩
    | land f active rest aloft natural room =>
      exact ⟨more ++ [_], by rw [← List.append_assoc]; exact tells.land aloft natural room⟩

end Journal

end BatchExec
