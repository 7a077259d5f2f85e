import BatchExec.Proofs.Agreement
import Mathlib.Data.List.MinMax
import Mathlib.Data.List.Sort
import Mathlib.Data.Multiset.MapFold
import Mathlib.Logic.Relation
import Mathlib.Order.Nat

/-!
# Timetables

When the launches of a run start and end if no slot ever idles: a launch starts at once as long as
there are slots that nobody has used, and after that as soon as enough launches before it have
ended.

* `startTimes`, `endTimes`: when launches start and end if no slot idles.
* `Timetable`, `Timetable.Move`: what the clock tells of a run, and the single moves.
* `Timetable.Greedy.of_moves`: **no slot idles as long as time passes only when every slot is
  taken.**
* `Timetable.Greedy.history`: in the end the launches have started and ended at these times.
-/

namespace BatchExec

/-! ## Times -/

/-- When a launch starts that comes after launches which end at these times: at once if one of the
`n` slots is still unused, and otherwise when all but `n - 1` of them have ended. -/
def nextStart (slots : Option Nat) (ends : List Nat) : Nat :=
  match slots with
  | none => 0
  | some n =>
    if ends.length < n then 0 else (ends.insertionSort (· ≤ ·)).getD (ends.length - n) 0

/-- When launches end that start at these times; the one at position `k` takes `lasts k`. -/
def endTimes (lasts : Nat → Nat) (starts : List Nat) : List Nat :=
  starts.mapIdx fun k time => time + lasts k

/-- When the first `n` launches start if no slot idles. -/
def startTimes (slots : Option Nat) (lasts : Nat → Nat) : (n : Nat) → List Nat
  | 0 => []
  | n + 1 =>
    startTimes slots lasts n ++ [nextStart slots (endTimes lasts (startTimes slots lasts n))]

/-- The last of some times; zero if there is none. -/
def latest (times : List Nat) : Nat := times.foldr max 0

/-- In a sorted list a time is at all positions from the number of earlier times up to the number
of times that are no later. -/
theorem getElem?_of_countP {times : List Nat} (sorted : times.Pairwise (· ≤ ·)) {i time : Nat}
    (before : times.countP (· < time) ≤ i) (after : i < times.countP (· ≤ time)) :
    times[i]? = some time := by
  have bound : i < times.length := Nat.lt_of_lt_of_le after List.countP_le_length
  have ordered := List.pairwise_iff_getElem.mp sorted
  rw [List.getElem?_eq_getElem bound]
  refine congrArg some (Nat.le_antisymm ?_ ?_)
  · by_contra late
    have none : (times.drop i).countP (· ≤ time) = 0 := by
      refine List.countP_eq_zero.mpr fun x mem => ?_
      obtain ⟨j, listed, rfl⟩ := List.mem_iff_getElem.mp mem
      rw [List.length_drop] at listed
      rw [List.getElem_drop, decide_eq_true_eq]
      rcases Nat.eq_zero_or_pos j with rfl | later
      · exact late
      · have := ordered i (i + j) bound (by omega) (by omega)
        omega
    have split : (times.take i ++ times.drop i).countP (· ≤ time) =
        (times.take i).countP (· ≤ time) + (times.drop i).countP (· ≤ time) := List.countP_append
    have few : (times.take i).countP (· ≤ time) ≤ (times.take i).length := List.countP_le_length
    rw [List.take_append_drop, none] at split
    rw [List.length_take] at few
    omega
  · by_contra early
    have all : (times.take (i + 1)).countP (· < time) = (times.take (i + 1)).length := by
      refine List.countP_eq_length.mpr fun x mem => ?_
      obtain ⟨j, listed, rfl⟩ := List.mem_iff_getElem.mp mem
      rw [List.length_take] at listed
      rw [List.getElem_take, decide_eq_true_eq]
      rcases Nat.eq_or_lt_of_le (show j ≤ i by omega) with rfl | earlier
      · omega
      · have := ordered j i (by omega) bound earlier
        omega
    have some : (times.take (i + 1)).countP (· < time) ≤ times.countP (· < time) :=
      (times.take_sublist (i + 1)).countP_le
    rw [all, List.length_take] at some
    omega

theorem latest_eq {times : List Nat} {now : Nat} (past : ∀ time ∈ times, time ≤ now)
    (reached : now = 0 ∨ now ∈ times) : latest times = now := by
  refine Nat.le_antisymm (List.max_le_of_forall_le times now past) ?_
  rcases reached with rfl | mem
  · exact Nat.zero_le _
  · exact List.le_max_of_le mem (Nat.le_refl now)

/-! ## Histories -/

/-- The batch whose launch ends by itself, and the time. -/
def Entry.end? (e : Entry) : Option (Batch × Nat) :=
  match e.what with
  | .ended b => some (b, e.time)
  | _ => none

/-- Whether something neither starts nor ends a launch. -/
def Happening.isAside : Happening → Bool
  | .started _ | .ended _ => false
  | _ => true

namespace History

/-- The batches whose launches ended by themselves, each with the time, in order. -/
def ends (h : History) : List (Batch × Nat) := h.filterMap Entry.end?

/-- What happens besides is on no timetable. -/
theorem timed_of_aside (h : History) {happenings : List Happening}
    (aside : ∀ e ∈ happenings, e.isAside = true) (now : Nat) :
    starts (h ++ happenings.map (⟨now, ·⟩)) = h.starts ∧
      ends (h ++ happenings.map (⟨now, ·⟩)) = h.ends := by
  have blind {α : Type} (view : Entry → Option α)
      (blank : ∀ e : Happening, e.isAside = true → view ⟨now, e⟩ = none) :
      (h ++ happenings.map (Entry.mk now)).filterMap view = h.filterMap view := by
    have nothing : (happenings.map (Entry.mk now)).filterMap view = [] := by
      rw [List.filterMap_map, List.filterMap_eq_nil_iff]
      exact fun e mem => blank e (aside e mem)
    rw [List.filterMap_append, nothing, List.append_nil]
  constructor
  · exact blind _ fun e => by cases e <;> simp [Happening.isAside, Entry.start?]
  · exact blind _ fun e => by cases e <;> simp [Happening.isAside, Entry.end?]

theorem aside_of_quiet {e : Happening} (quiet : e.isQuiet = true) : e.isAside = true := by
  cases e <;> first | rfl | exact absurd quiet Bool.false_ne_true

/-- A launch starts, and writes and tries something. -/
theorem timed_start (h : History) (now : Nat) (b : Batch) (opening : List Remark)
    (attempt : Option Attempt) :
    starts (h ++ (Happening.started b :: opening.map Happening.remarked ++
        attempt.toList.map Happening.attempted).map (⟨now, ·⟩)) = h.starts ++ [(b, now)] ∧
      ends (h ++ (Happening.started b :: opening.map Happening.remarked ++
        attempt.toList.map Happening.attempted).map (⟨now, ·⟩)) = h.ends := by
  have aside : ∀ e ∈ opening.map Happening.remarked ++ attempt.toList.map Happening.attempted,
      e.isAside = true := by
    intro e mem
    rcases List.mem_append.mp mem with written | tried
    · exact aside_of_quiet (quiet_remarks _ e written)
    · obtain ⟨a, -, rfl⟩ := List.mem_map.mp tried
      rfl
  obtain ⟨same, same'⟩ := timed_of_aside (h ++ [⟨now, .started b⟩]) aside now
  rw [List.cons_append, List.map_cons, List.append_cons, same, same']
  exact ⟨List.filterMap_append, List.filterMap_append.trans (List.append_nil _)⟩

/-- A launch ends and writes something. -/
theorem timed_ended (h : History) (now : Nat) (b : Batch) (closing : List Remark) :
    starts (h ++ (Happening.ended b :: closing.map Happening.remarked).map (⟨now, ·⟩)) =
        h.starts ∧
      ends (h ++ (Happening.ended b :: closing.map Happening.remarked).map (⟨now, ·⟩)) =
        h.ends ++ [(b, now)] := by
  have aside : ∀ e ∈ closing.map Happening.remarked, e.isAside = true := fun e mem =>
    aside_of_quiet (quiet_remarks closing e mem)
  obtain ⟨same, same'⟩ := timed_of_aside (h ++ [⟨now, .ended b⟩]) aside now
  rw [List.map_cons, List.append_cons, same, same']
  exact ⟨List.filterMap_append.trans (List.append_nil _), List.filterMap_append⟩

end History

/-- The batches of launches that started at these times, each with the time at which the launch
ends. -/
def bookings (lasts : Nat → Nat) (starts : List (Batch × Nat)) : List (Batch × Nat) :=
  starts.mapIdx fun k s => (s.1, s.2 + lasts k)

theorem map_snd_bookings (lasts : Nat → Nat) (starts : List (Batch × Nat)) :
    (bookings lasts starts).map Prod.snd = endTimes lasts (starts.map Prod.snd) := by
  refine List.ext_getElem (by simp [bookings, endTimes]) fun k _ _ => ?_
  simp [bookings, endTimes]

/-- In a history of these batches no slot has idled. -/
structure History.Greedy (h : History) (slots : Option Nat) (lasts : Nat → Nat)
    (batches : List Batch) : Prop where
  /-- The launches have started in the order of the source, -/
  launched : h.launched = batches
  /-- each as soon as there was a slot for it, -/
  starts : h.starts.map Prod.snd = startTimes slots lasts batches.length
  /-- and each has ended when its time was over. -/
  ends : h.ends.Perm (bookings lasts h.starts)

/-! ## Timetables -/

/-- What the clock tells of a run. -/
structure Timetable where
  now : Nat
  /-- The batches whose launches have started, each with the time, in order. -/
  starts : List (Batch × Nat)
  /-- The batches whose launches have ended, each with the time, in order. -/
  ends : List (Batch × Nat)
  /-- The batches whose launches are running, each with the time at which it is to end. -/
  dues : Multiset (Batch × Nat)

namespace Timetable

/-- What a timetable is made for. -/
structure Basis where
  /-- The number of slots, if it is limited. -/
  slots : Option Nat
  /-- How long the launch at each position takes. -/
  lasts : Nat → Nat
  /-- The number of batches. -/
  total : Nat
  /-- Whether time may also pass until something else happens than the end of a launch. -/
  pauses : Prop

/-- A launch starts, which is to end at some time. -/
def start (t : Timetable) (b : Batch) (time : Nat) : Timetable :=
  { t with starts := t.starts ++ [(b, t.now)], dues := (b, time) ::ₘ t.dues }

/-- A launch ends, and these run on. -/
def land (t : Timetable) (b : Batch) (rest : Multiset (Batch × Nat)) : Timetable :=
  { t with ends := t.ends ++ [(b, t.now)], dues := rest }

/-- Lets time pass. -/
def pass (t : Timetable) (time : Nat) : Timetable := { t with now := time }

/-- One move of a timetable. -/
inductive Move (basis : Basis) : Timetable → Timetable → Prop where
  | start (t : Timetable) (b : Batch) (next : t.starts.length < basis.total)
      (room : ∀ n, basis.slots = some n → t.dues.card < n) :
      Move basis t (t.start b (t.now + basis.lasts t.starts.length))
  | land (t : Timetable) (b : Batch) (rest : Multiset (Batch × Nat))
      (due : t.dues = (b, t.now) ::ₘ rest) : Move basis t (t.land b rest)
  /-- Time passes only when every slot is taken or every launch has started. -/
  | pass (t : Timetable) (time : Nat) (le : t.now ≤ time) (patient : ∀ d ∈ t.dues, time ≤ d.2)
      (busy : t.starts.length = basis.total ∨ ∃ n, basis.slots = some n ∧ n ≤ t.dues.card)
      (called : basis.pauses ∨ ∃ d ∈ t.dues, d.2 = time) : Move basis t (t.pass time)

/-- A chain of moves. -/
abbrev Moves (basis : Basis) : Timetable → Timetable → Prop := Relation.ReflTransGen (Move basis)

/-- The timetable before a run. -/
def initial : Timetable := ⟨0, [], [], 0⟩

/-- So far no slot has idled. -/
structure Greedy (basis : Basis) (t : Timetable) : Prop where
  booked : (t.ends : Multiset (Batch × Nat)) + t.dues = bookings basis.lasts t.starts
  past : ∀ e ∈ t.ends, e.2 ≤ t.now
  future : ∀ d ∈ t.dues, t.now ≤ d.2
  times : t.starts.map Prod.snd = startTimes basis.slots basis.lasts t.starts.length
  /-- As long as there are launches to start, every slot has been taken up to now. -/
  keen : t.starts.length < basis.total → t.now = 0 ∨ ∃ n, basis.slots = some n ∧
    (endTimes basis.lasts (t.starts.map Prod.snd)).countP (· < t.now) + n ≤ t.starts.length
  punctual : ¬ basis.pauses →
    t.now = 0 ∨ t.now ∈ endTimes basis.lasts (t.starts.map Prod.snd)

variable {basis : Basis} {t t' : Timetable}

theorem greedy_initial (basis : Basis) : initial.Greedy basis where
  booked := rfl
  past := fun _ mem => absurd mem List.not_mem_nil
  future := fun _ mem => absurd mem (Multiset.notMem_zero _)
  times := rfl
  keen := fun _ => .inl rfl
  punctual := fun _ => .inl rfl

/-- The end times of the launches that have started are those at which launches have ended and those
at which the running ones are to end. -/
theorem Greedy.countP_endTimes (g : t.Greedy basis) (p : Nat → Bool) :
    (endTimes basis.lasts (t.starts.map Prod.snd)).countP p =
      (t.ends.map Prod.snd).countP p + (t.dues.map Prod.snd).countP (p · = true) := by
  have times := congrArg (Multiset.map Prod.snd) g.booked
  rw [Multiset.map_add, Multiset.map_coe, Multiset.map_coe, map_snd_bookings] at times
  have counted := congrArg (Multiset.countP (p · = true)) times
  rw [Multiset.countP_add, Multiset.coe_countP, Multiset.coe_countP] at counted
  simpa only [Bool.decide_eq_true] using counted.symm

theorem Greedy.length_starts (g : t.Greedy basis) :
    t.ends.length + t.dues.card = t.starts.length := by
  have counted := congrArg Multiset.card g.booked
  rwa [Multiset.card_add, Multiset.coe_card, Multiset.coe_card, bookings, List.length_mapIdx]
    at counted

/-- When there is a slot for the next launch, it is the first time that there is one. -/
theorem Greedy.nextStart_eq (g : t.Greedy basis) (next : t.starts.length < basis.total)
    (room : ∀ n, basis.slots = some n → t.dues.card < n) :
    nextStart basis.slots (endTimes basis.lasts (t.starts.map Prod.snd)) = t.now := by
  obtain ⟨ends, hends⟩ : ∃ ends, ends = endTimes basis.lasts (t.starts.map Prod.snd) := ⟨_, rfl⟩
  have length : ends.length = t.starts.length := by simp [hends, endTimes]
  have keen := g.keen next
  have count := g.countP_endTimes
  rw [← hends] at keen count ⊢
  unfold nextStart
  split
  · rename_i unlimited
    rcases keen with zero | ⟨n, limited, -⟩
    · exact zero.symm
    · exact absurd (unlimited.symm.trans limited) (Option.some_ne_none n).symm
  · rename_i n limited
    have keen : t.now = 0 ∨ ends.countP (· < t.now) + n ≤ t.starts.length := by
      refine keen.imp_right ?_
      rintro ⟨m, limited', early⟩
      obtain rfl := Option.some.inj (limited.symm.trans limited')
      exact early
    split
    · omega
    · rename_i used
      have perm := ends.perm_insertionSort (· ≤ ·)
      have before : (ends.insertionSort (· ≤ ·)).countP (· < t.now) ≤ ends.length - n := by
        rw [perm.countP_eq]
        rcases keen with zero | early
        · simp [zero]
        · omega
      have after : ends.length - n < (ends.insertionSort (· ≤ ·)).countP (· ≤ t.now) := by
        have ended : (t.ends.map Prod.snd).countP (· ≤ t.now) = t.ends.length := by
          rw [List.countP_map, List.countP_eq_length]
          exact fun e mem => decide_eq_true (g.past e mem)
        have free := room n limited
        have all := g.length_starts
        rw [perm.countP_eq, count, ended]
        omega
      have first := getElem?_of_countP (ends.pairwise_insertionSort (· ≤ ·)) before after
      rw [List.getD_eq_getElem?_getD, first]
      rfl

theorem Greedy.start (g : t.Greedy basis) (b : Batch) (next : t.starts.length < basis.total)
    (room : ∀ n, basis.slots = some n → t.dues.card < n) :
    (t.start b (t.now + basis.lasts t.starts.length)).Greedy basis := by
  have first := g.nextStart_eq next room
  have booked : bookings basis.lasts (t.starts ++ [(b, t.now)]) =
      bookings basis.lasts t.starts ++ [(b, t.now + basis.lasts t.starts.length)] :=
    List.mapIdx_concat
  have ends : endTimes basis.lasts ((t.starts ++ [(b, t.now)]).map Prod.snd) =
      endTimes basis.lasts (t.starts.map Prod.snd) ++ [t.now + basis.lasts t.starts.length] := by
    rw [← map_snd_bookings, ← map_snd_bookings, booked, List.map_append]
    rfl
  refine ⟨?_, g.past, ?_, ?_, ?_, ?_⟩
  · show (t.ends : Multiset (Batch × Nat)) + (_ ::ₘ t.dues) = bookings _ (t.starts ++ [_])
    rw [booked, Multiset.add_cons, g.booked, ← Multiset.coe_add, Multiset.coe_singleton,
      Multiset.add_comm, Multiset.singleton_add]
  · intro d mem
    rcases Multiset.mem_cons.mp mem with rfl | old
    · exact Nat.le_add_right _ _
    · exact g.future d old
  · show (t.starts ++ [(b, t.now)]).map Prod.snd = startTimes _ _ (t.starts ++ [_]).length
    rw [List.map_append, g.times, List.length_append, List.length_singleton, startTimes, ← g.times,
      first]
    rfl
  · intro more
    refine (g.keen next).imp_right ?_
    rintro ⟨n, limited, early⟩
    refine ⟨n, limited, ?_⟩
    show (endTimes _ ((t.starts ++ [(b, t.now)]).map _)).countP (· < t.now) + n ≤
      (t.starts ++ [_]).length
    have later : ¬ t.now + basis.lasts t.starts.length < t.now := by omega
    rw [ends, List.countP_append, List.countP_singleton, decide_eq_false later,
      List.length_append]
    simp only [Bool.false_eq_true, if_false]
    omega
  · intro awake
    refine (g.punctual awake).imp_right fun mem => ?_
    show t.now ∈ endTimes _ ((t.starts ++ [(b, t.now)]).map _)
    rw [ends]
    exact List.mem_append_left _ mem

theorem Greedy.land (g : t.Greedy basis) {b : Batch} {rest : Multiset (Batch × Nat)}
    (due : t.dues = (b, t.now) ::ₘ rest) : (t.land b rest).Greedy basis := by
  refine { g with booked := ?_, past := ?_, future := ?_ }
  · have booked := g.booked
    rw [due] at booked
    show ((t.ends ++ [(b, t.now)] : List _) : Multiset (Batch × Nat)) + rest = _
    rw [← Multiset.coe_add, Multiset.coe_singleton, Multiset.add_assoc, Multiset.singleton_add]
    exact booked
  · intro e mem
    rcases List.mem_append.mp mem with old | new
    · exact g.past e old
    · rw [List.mem_singleton.mp new]
      exact Nat.le_refl t.now
  · intro d mem
    exact g.future d (due ▸ Multiset.mem_cons_of_mem mem)

theorem Greedy.pass (g : t.Greedy basis) {time : Nat} (le : t.now ≤ time)
    (patient : ∀ d ∈ t.dues, time ≤ d.2)
    (busy : t.starts.length = basis.total ∨ ∃ n, basis.slots = some n ∧ n ≤ t.dues.card)
    (called : basis.pauses ∨ ∃ d ∈ t.dues, d.2 = time) : (t.pass time).Greedy basis := by
  refine { g with past := ?_, future := patient, keen := ?_, punctual := ?_ }
  · exact fun e mem => Nat.le_trans (g.past e mem) le
  · intro next
    obtain ⟨n, limited, taken⟩ := busy.resolve_left (Nat.ne_of_lt next)
    refine .inr ⟨n, limited, ?_⟩
    have none : (t.dues.map Prod.snd).countP (fun x => decide (x < time) = true) = 0 := by
      rw [Multiset.countP_eq_zero]
      intro x mem
      obtain ⟨d, due, rfl⟩ := Multiset.mem_map.mp mem
      simpa using patient d due
    have few : (t.ends.map Prod.snd).countP (· < time) ≤ (t.ends.map Prod.snd).length :=
      List.countP_le_length
    rw [List.length_map] at few
    have all := g.length_starts
    show (endTimes basis.lasts (t.starts.map Prod.snd)).countP (· < time) + n ≤ t.starts.length
    rw [g.countP_endTimes, none]
    omega
  · intro awake
    obtain ⟨d, due, rfl⟩ := called.resolve_left awake
    have listed : d ∈ (bookings basis.lasts t.starts : Multiset (Batch × Nat)) := by
      rw [← g.booked]
      exact Multiset.mem_add.mpr (.inr due)
    refine .inr ?_
    show d.2 ∈ endTimes basis.lasts (t.starts.map Prod.snd)
    rw [← map_snd_bookings]
    exact List.mem_map_of_mem (Multiset.mem_coe.mp listed)

/-- **No slot idles as long as time passes only when every slot is taken.** -/
theorem Greedy.of_moves (g : t.Greedy basis) (moves : Moves basis t t') : t'.Greedy basis := by
  induction moves with
  | refl => exact g
  | tail _ move ih =>
    cases move with
    | start b next room => exact ih.start b next room
    | land b rest due => exact ih.land due
    | pass time le patient busy called => exact ih.pass le patient busy called

/-- **When every launch has started and none is running, no slot has idled in the history**, and the
run does not end before the last launch; it ends right then if nothing else lets time pass. -/
theorem Greedy.history (g : t.Greedy basis) (rests : t.dues = 0) {h : History}
    (starts : t.starts = h.starts) (ends : t.ends = h.ends) {batches : List Batch}
    (launched : h.launched = batches) :
    h.Greedy basis.slots basis.lasts batches ∧
      latest (endTimes basis.lasts (startTimes basis.slots basis.lasts batches.length)) ≤ t.now ∧
      (¬ basis.pauses → t.now =
        latest (endTimes basis.lasts (startTimes basis.slots basis.lasts batches.length))) := by
  have count : t.starts.length = batches.length := by
    rw [starts, ← launched, History.launched, List.length_map]
  obtain ⟨booked, past, -, times, -, punctual⟩ := g
  rw [rests, Multiset.add_zero] at booked
  have perm := Multiset.coe_eq_coe.mp booked
  have ended : ∀ time ∈ endTimes basis.lasts (t.starts.map Prod.snd), time ≤ t.now := by
    intro time mem
    rw [← map_snd_bookings] at mem
    obtain ⟨e, listed, rfl⟩ := List.mem_map.mp mem
    exact past e (perm.mem_iff.mpr listed)
  rw [times, count] at ended punctual
  refine ⟨⟨launched, ?_, ?_⟩, List.max_le_of_forall_le _ _ ended, fun awake => ?_⟩
  · rw [← starts, times, count]
  · rw [← starts, ← ends]
    exact perm
  · exact (latest_eq ended (punctual awake)).symm

end Timetable

/-! ## Rosters -/

/-- Launches of which each takes a fixed time, whenever it starts. -/
def Launcher.Lasts (launch : Launcher) (lasts : Nat → Nat) (batches : List Batch) : Prop :=
  ∀ k b, batches[k]? = some b → ∀ time, (launch k time b).duration = some (lasts k)

/-- Nobody and nothing stops a run, its source has no delays, and its launches take fixed times. -/
structure Rules.Unhindered (rules : Rules) (lasts : Nat → Nat) (feed : Feed) : Prop where
  loyal : ¬ rules.cancels
  calm : ¬ rules.breaks
  goes : rules.stopOnError = false
  prompt : ∀ item ∈ feed.items, item.delay = 0
  delivers : rules.launch.Delivers feed.batches
  lasts : rules.launch.Lasts lasts feed.batches

/-- An unhindered run is not cancelled. -/
theorem Rules.Unhindered.going {rules : Rules} {lasts : Nat → Nat} {feed : Feed}
    (free : rules.Unhindered lasts feed) {r : Roster} (sound : r.Sound rules feed.batches) :
    r.cancelled = false :=
  sound.cancelled_eq_false (sound.fault_eq_none free.delivers free.calm) free.loyal free.goes

/-- What the timetable of a run is made for. -/
def Rules.basis (rules : Rules) (lasts : Nat → Nat) (total : Nat) (pauses : Prop) :
    Timetable.Basis :=
  ⟨rules.bound, lasts, total, pauses⟩

namespace Roster

variable {rules : Rules} {all : List Batch} {r : Roster}

/-- The launch of a batch that has a slot is the next one of the timetable. -/
theorem Sound.next_of_waiting (s : r.Sound rules all) (orderly : ¬ rules.overtakes) {b : Batch}
    {rest : List Batch} (waits : r.waiting = b :: rest) {lasts : Nat → Nat}
    (timed : rules.launch.Lasts lasts all) :
    r.history.starts.length < all.length ∧
      (∀ n, rules.bound = some n → r.running.card < n) ∧
      (rules.launch r.started r.now b).duration = some (lasts r.history.starts.length) := by
  have order := s.order orderly
  rw [waits] at order
  obtain ⟨later, split⟩ := s.admitted_prefix
  rw [← order, List.append_assoc, List.cons_append] at split
  have count : r.history.launched.length = r.history.starts.length := List.length_map _
  have nth : all[r.history.starts.length]? = some b := by
    rw [← split, ← count, List.getElem?_append_right (Nat.le_refl _), Nat.sub_self]
    rfl
  refine ⟨(List.getElem?_eq_some_iff.mp nth).1, fun n limited => ?_, ?_⟩
  · have active := s.active
    have peak := s.peak
    have bounded := s.bounded n limited
    rw [waits, List.length_cons] at active
    omega
  · rw [s.started]
    exact timed _ b nth r.now

/-- When the source has ended and no batch waits for anything, every launch has started. -/
theorem Sound.launched_of_spent (s : r.Sound rules all) (left : r.left = []) (held : r.held = none)
    (waiting : r.waiting = []) (asks : r.refused = false) : r.history.launched.Perm all := by
  have slotted := s.slotted
  have source := s.source
  rw [left, List.append_nil, s.going asks, held, Option.toList_none, List.append_nil] at source
  rwa [waiting, List.append_nil, source] at slotted

end Roster

end BatchExec
