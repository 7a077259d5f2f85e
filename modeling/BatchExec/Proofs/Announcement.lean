import BatchExec.Proofs.Journal

/-!
# Announcements

The events that the history of a run calls for: one for each result, when it comes in, with the
number of results so far and the number of launches that have got a slot and have not ended.

* `History.announcements`: these events.
* `History.announcements_append`: what a continuation of a history adds to them.
* `History.map_result_announcements`, `History.map_completed_announcements`: **they tell of the
  results in turn, and number them.**
-/

namespace BatchExec

/-- The result that comes in. -/
def Entry.recording? (e : Entry) : Option Result :=
  match e.what with
  | .recorded r => some r
  | _ => none

/-- The event that the receiver gets. -/
def Happening.event? : Happening → Option Event
  | .delivered e => some e
  | _ => none

/-- Whether something neither takes nor frees a slot and brings no result. -/
def Happening.isIdle : Happening → Bool
  | .admitted _ _ | .ended _ | .recorded _ => false
  | _ => true

namespace History

/-- The results that have come in, in order. -/
def recorded (h : History) : List Result := h.filterMap Entry.recording?

/-- The number of launches that have got a slot and have not ended. -/
def active (h : History) : Int := h.admitted.length - h.landed.length

/-- The events that what happens calls for, if so many launches are active and so many results have
come in before. -/
def announceFrom (level : Int) (count : Nat) : History → List Event
  | [] => []
  | e :: h =>
    match e.what with
    | .admitted _ _ => announceFrom (level + 1) count h
    | .ended _ => announceFrom (level - 1) count h
    | .recorded r => ⟨r, count + 1, level⟩ :: announceFrom level (count + 1) h
    | _ => announceFrom level count h

/-- The events that the history of a run calls for. -/
def announcements (h : History) : List Event := announceFrom 0 0 h

theorem recorded_append (h h' : History) : (h ++ h').recorded = h.recorded ++ h'.recorded :=
  List.filterMap_append

theorem heard_append (h h' : History) : (h ++ h').heard = h.heard ++ h'.heard :=
  List.filterMap_append

theorem active_append (h h' : History) : (h ++ h').active = h.active + h'.active := by
  have admitted : (h ++ h').admitted = h.admitted ++ h'.admitted := List.filterMap_append
  have landed : (h ++ h').landed = h.landed ++ h'.landed := List.filterMap_append
  simp only [active, admitted, landed, List.length_append]
  omega

theorem announceFrom_append (h h' : History) (level : Int) (count : Nat) :
    announceFrom level count (h ++ h') = announceFrom level count h ++
      announceFrom (level + h.active) (count + h.recorded.length) h' := by
  induction h generalizing level count with
  | nil => simp [announceFrom, active, admitted, landed, recorded]
  | cons e h ih =>
    have split : active (e :: h) = active [e] + active h := active_append [e] h
    have results : recorded (e :: h) = recorded [e] ++ recorded h := recorded_append [e] h
    obtain ⟨time, what⟩ := e
    rw [split, results, List.length_append, ← Int.add_assoc, ← Nat.add_assoc]
    cases what <;>
      simp [announceFrom, ih, active, admitted, landed, recorded, Entry.admission?, Entry.landing?,
        Entry.recording?, List.filterMap_cons, Int.sub_eq_add_neg]

/-- What a continuation of a history adds to the events. -/
theorem announcements_append (h h' : History) :
    (h ++ h').announcements =
      h.announcements ++ announceFrom h.active h.recorded.length h' := by
  rw [announcements, announceFrom_append, Int.zero_add, Nat.zero_add]
  rfl

theorem map_result_announceFrom (h : History) (level : Int) (count : Nat) :
    (announceFrom level count h).map Event.result = h.recorded := by
  induction h generalizing level count with
  | nil => rfl
  | cons e h ih =>
    obtain ⟨time, what⟩ := e
    cases what <;> simp [announceFrom, ih, recorded, Entry.recording?, List.filterMap_cons]

theorem map_completed_announceFrom (h : History) (level : Int) (count : Nat) :
    (announceFrom level count h).map Event.completed =
      List.range' (count + 1) h.recorded.length := by
  induction h generalizing level count with
  | nil => rfl
  | cons e h ih =>
    obtain ⟨time, what⟩ := e
    cases what <;>
      simp [announceFrom, ih, recorded, Entry.recording?, List.filterMap_cons, List.range'_succ]

/-- **The events tell of the results in turn**, -/
theorem map_result_announcements (h : History) : h.announcements.map Event.result = h.recorded :=
  map_result_announceFrom h 0 0

/-- **and number them.** -/
theorem map_completed_announcements (h : History) :
    h.announcements.map Event.completed = List.range' 1 h.recorded.length :=
  map_completed_announceFrom h 0 0

/-- Each result that comes in is one of the launch that ended last; before, that was the one of
`last`. -/
def OwnFrom (last : Option Batch) : History → Prop
  | [] => True
  | e :: h =>
    match e.what with
    | .ended b => OwnFrom (some b) h
    | .recorded r => (∃ b ∈ last, r.index = b.index) ∧ OwnFrom last h
    | _ => OwnFrom last h

theorem ownFrom_append (h h' : History) (last : Option Batch) :
    OwnFrom last (h ++ h') ↔ OwnFrom last h ∧ OwnFrom (h.landed.getLast?.or last) h' := by
  induction h generalizing last with
  | nil => exact (iff_of_eq (true_and _)).symm
  | cons e h ih =>
    obtain ⟨time, what⟩ := e
    cases what with
    | ended b =>
      have later : (landed (⟨time, .ended b⟩ :: h)).getLast?.or last =
          (landed h).getLast?.or (some b) := by
        show (b :: landed h).getLast?.or last = _
        rw [List.getLast?_cons, Option.some_or]
        cases (landed h).getLast? <;> rfl
      rw [later]
      exact ih (some b)
    | recorded r => exact (and_congr_right fun _ => ih last).trans and_assoc.symm
    | _ => exact ih last

/-- Only what is not idle calls for events, -/
theorem announceFrom_filter (h : History) (level : Int) (count : Nat) :
    announceFrom level count (h.filter fun e => !e.what.isIdle) = announceFrom level count h := by
  induction h generalizing level count with
  | nil => rfl
  | cons e h ih =>
    obtain ⟨time, what⟩ := e
    cases what with
    | admitted b slots => exact ih (level + 1) count
    | ended b => exact ih (level - 1) count
    | recorded r => exact congrArg (⟨r, count + 1, level⟩ :: ·) (ih level (count + 1))
    | _ => exact ih level count

/-- brings results, -/
theorem ownFrom_filter (h : History) (last : Option Batch) :
    OwnFrom last (h.filter fun e => !e.what.isIdle) ↔ OwnFrom last h := by
  induction h generalizing last with
  | nil => exact Iff.rfl
  | cons e h ih =>
    obtain ⟨time, what⟩ := e
    cases what with
    | ended b => exact ih (some b)
    | recorded r => exact and_congr_right fun _ => ih last
    | _ => exact ih last

/-- and takes or frees slots. -/
theorem filterMap_filter (h : History) {α : Type} (view : Entry → Option α)
    (blind : ∀ e : Entry, e.what.isIdle = true → view e = none) :
    (h.filter fun e => !e.what.isIdle).filterMap view = h.filterMap view := by
  rw [List.filterMap_filter]
  refine List.filterMap_congr fun e _ => ?_
  cases idle : e.what.isIdle with
  | true => exact (blind e idle).symm
  | false => rfl

section Notes

variable {happenings : List Happening} {r? : Option Result}
  (only : (happenings.filter fun e => !e.isIdle) = r?.toList.map .recorded) (now : Nat)
include only

theorem filter_notes : ((happenings.map (Entry.mk now)).filter fun e => !e.what.isIdle) =
    r?.toList.map (⟨now, .recorded ·⟩) := by
  rw [List.filter_map]
  exact (congrArg (List.map (Entry.mk now)) only).trans (List.map_map ..)

/-- What brings at most one result calls for its event. -/
theorem announceFrom_notes (level : Int) (count : Nat) :
    announceFrom level count (happenings.map (⟨now, ·⟩)) =
      r?.toList.map (⟨·, count + 1, level⟩) := by
  rw [← announceFrom_filter, filter_notes only]
  cases r? <;> rfl

theorem ownFrom_notes {last : Option Batch} (own : ∀ r ∈ r?, ∃ b ∈ last, r.index = b.index) :
    OwnFrom last (happenings.map (⟨now, ·⟩)) := by
  rw [← ownFrom_filter, filter_notes only]
  cases r? with
  | none => trivial
  | some r => exact ⟨own r rfl, trivial⟩

theorem recorded_notes : recorded (happenings.map (⟨now, ·⟩)) = r?.toList := by
  rw [recorded, ← filterMap_filter _ Entry.recording? fun e idle => by
    obtain ⟨time, what⟩ := e
    cases what <;> first | rfl | contradiction, filter_notes only]
  cases r? <;> rfl

theorem active_notes : active (happenings.map (⟨now, ·⟩)) = 0 := by
  rw [active, admitted, landed,
    ← filterMap_filter _ Entry.admission? fun e idle => by
      obtain ⟨time, what⟩ := e
      cases what <;> first | rfl | contradiction,
    ← filterMap_filter _ Entry.landing? fun e idle => by
      obtain ⟨time, what⟩ := e
      cases what <;> first | rfl | contradiction, filter_notes only]
  cases r? <;> rfl

end Notes

/-! ## Books that agree with the history -/

/-- The history fits the number of active launches and the results so far, and the receiver of
events has been told, in turn, of all events that it calls for but these, which are pending. -/
structure Announces (receiver : Listener) (h : History) (level : Int) (completed : List Result)
    (pending : List Event) : Prop where
  active : h.active = level
  completed : h.recorded = completed
  own : h.OwnFrom none
  told : ∃ taken, taken ++ pending = h.announcements ∧ (receiver.isSome = true → taken = h.heard)

variable {receiver : Listener} {h : History} {level : Int} {completed : List Result}
  {pending : List Event}

theorem announces_nil (receiver : Listener) : Announces receiver [] 0 [] [] :=
  ⟨rfl, rfl, trivial, [], rfl, fun _ => rfl⟩

/-- What brings at most one result, of the launch that has just ended, makes its event pending. -/
theorem Announces.notes (announces : Announces receiver h level completed pending)
    {happenings : List Happening} {r? : Option Result}
    (only : (happenings.filter fun e => !e.isIdle) = r?.toList.map .recorded) (now : Nat)
    (own : ∀ r ∈ r?, ∃ b ∈ h.landed.getLast?, r.index = b.index)
    (quiet : heard (happenings.map (⟨now, ·⟩)) = []) :
    Announces receiver (h ++ happenings.map (⟨now, ·⟩)) level (completed ++ r?.toList)
      (pending ++ r?.toList.map (⟨·, completed.length + 1, level⟩)) := by
  obtain ⟨rfl, rfl, before, taken, all, told⟩ := announces
  refine ⟨?_, ?_, ?_, taken, ?_, fun listens => ?_⟩
  · rw [active_append, active_notes only, Int.add_zero]
  · rw [recorded_append, recorded_notes only]
  · rw [ownFrom_append, Option.or_none]
    exact ⟨before, ownFrom_notes only now own⟩
  · rw [announcements_append, announceFrom_notes only, ← all, List.append_assoc]
  · rw [heard_append, quiet, List.append_nil, told listens]

/-- What is idle and no event for the receiver changes nothing. -/
theorem Announces.silent (announces : Announces receiver h level completed pending)
    {happenings : List Happening}
    (silent : ∀ e ∈ happenings, e.isIdle = true ∧ e.event? = none) (now : Nat) :
    Announces receiver (h ++ happenings.map (⟨now, ·⟩)) level completed pending := by
  have only : (happenings.filter fun e => !e.isIdle) =
      (none : Option Result).toList.map .recorded := by
    rw [Option.toList_none, List.map_nil, List.filter_eq_nil_iff]
    intro e mem
    simp [(silent e mem).1]
  have quiet : heard (happenings.map (⟨now, ·⟩)) = [] := by
    rw [heard, List.filterMap_map, List.filterMap_eq_nil_iff]
    intro e mem
    exact (silent e mem).2
  simpa using announces.notes only now (by simp) quiet

/-- A batch gets a slot. -/
theorem Announces.admitted (announces : Announces receiver h level completed pending) (now : Nat)
    (b : Batch) (slots : Int) :
    Announces receiver (h ++ [⟨now, .admitted b slots⟩]) (level + 1) completed pending := by
  obtain ⟨rfl, rfl, own, taken, all, told⟩ := announces
  refine ⟨active_append _ _, ?_, (ownFrom_append _ _ _).mpr ⟨own, trivial⟩, taken, ?_,
    fun listens => ?_⟩
  · exact (recorded_append _ _).trans (List.append_nil _)
  · exact all.trans ((announcements_append _ _).trans (List.append_nil _)).symm
  · exact (told listens).trans ((heard_append _ _).trans (List.append_nil _)).symm

/-- A launch ends and writes something. -/
theorem Announces.ended (announces : Announces receiver h level completed pending) (now : Nat)
    (b : Batch) (closing : List Remark) :
    Announces receiver (h ++ (Happening.ended b :: closing.map .remarked).map (⟨now, ·⟩))
      (level - 1) completed pending := by
  have first : Announces receiver (h ++ [⟨now, .ended b⟩]) (level - 1) completed pending := by
    obtain ⟨rfl, rfl, own, taken, all, told⟩ := announces
    refine ⟨active_append _ _, ?_, (ownFrom_append _ _ _).mpr ⟨own, trivial⟩, taken, ?_,
      fun listens => ?_⟩
    · exact (recorded_append _ _).trans (List.append_nil _)
    · exact all.trans ((announcements_append _ _).trans (List.append_nil _)).symm
    · exact (told listens).trans ((heard_append _ _).trans (List.append_nil _)).symm
  rw [List.map_cons, List.append_cons]
  refine first.silent (fun e mem => ?_) now
  obtain ⟨remark, -, rfl⟩ := List.mem_map.mp mem
  exact ⟨rfl, rfl⟩

/-- The launch that ended last. -/
theorem getLast?_landed (h : History) (now : Nat) (b : Batch) (closing : List Remark) :
    (landed (h ++ (Happening.ended b :: closing.map .remarked).map (⟨now, ·⟩))).getLast? =
      some b := by
  rw [(adds_ended h now b closing).landed, List.getLast?_concat]

/-- The next event is taken, and the receiver, if there is one, is told of it. -/
theorem Announces.delivered {e : Event}
    (announces : Announces receiver h level completed (e :: pending)) (now : Nat) :
    Announces receiver (h ++ if receiver.isSome then [⟨now, .delivered e⟩] else []) level completed
      pending := by
  obtain ⟨rfl, rfl, own, taken, all, told⟩ := announces
  split
  · rename_i listens
    refine ⟨(active_append _ _).trans (Int.add_zero _), ?_,
      (ownFrom_append _ _ _).mpr ⟨own, trivial⟩, taken ++ [e], ?_, fun _ => ?_⟩
    · exact (recorded_append _ _).trans (List.append_nil _)
    · rw [announcements_append, ← all, List.append_assoc]
      exact (List.append_nil _).symm
    · rw [heard_append, told listens]
      rfl
  · rename_i deaf
    rw [List.append_nil]
    refine ⟨rfl, rfl, own, taken ++ [e], ?_, fun listens => absurd listens deaf⟩
    rw [List.append_assoc]
    exact all

end History

end BatchExec
