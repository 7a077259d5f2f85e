import BatchExec.Schedule.Work

/-!
# Consumers that leave

When the consumer of an event-driven run leaves, the producer and the launches have been cut off and
wind up. Nothing of that is seen: the history, the results and the other books of the run stay as
they are.

* `Stream.Winds`: a run winds up after its consumer has left.
* `Stream.winds_leave`: this is so from the moment in which it leaves,
* `Stream.Winds.of_next?`: **and whatever comes next.**
-/

namespace BatchExec

theorem TurnTimer.insert_perm (t : TurnTimer) (timers : List TurnTimer) :
    (TurnTimer.insert t timers).Perm (t :: timers) := by
  induction timers with
  | nil => exact .refl _
  | cons next rest ih =>
    unfold insert
    split
    · exact (ih.cons next).trans (.swap ..)
    · exact .refl _

/-- Whether a turn may come when the consumer has left. -/
def Turn.isWinding : Turn → Bool
  | .abort _ _ | .produce | .gathered | .consume => true
  | _ => false

theorem Turn.isWinding_of_abort? {now : Nat} {turn turn' : Turn}
    (cut : turn.abort? now = some turn') : turn'.isWinding = true := by
  cases turn with
  | start | relay => cases cut; rfl
  | _ => exact nomatch cut

/-- Whether the producer has been cut off or asks for no more. -/
def ProducerState.isOff : ProducerState → Bool
  | .halted _ | .gathering _ _ | .finished _ => true
  | _ => false

theorem ProducerState.isOff_cut (p : ProducerState) : p.cut.isOff = true := by
  cases p <;> rfl

/-- The producer and the launches have been cut off in one state, and wind up in another. -/
structure Stream.Winds (error : Option RunError) (s t : Stream) : Prop where
  past : t.past = s.past
  /-- Only the number of free slots may change. -/
  tally : { t.tally with free := none } = { s.tally with free := none }
  launched : t.launched = s.launched
  now : s.now ≤ t.now
  early : t.producer.stoppedEarly = s.producer.stoppedEarly
  off : t.producer.isOff = true
  consumer : t.consumer = .leaving error ∨ t.consumer = .gone error
  turns : ∀ turn ∈ t.turns, turn.isWinding = true

namespace Stream

variable {error : Option RunError} {s t u : Stream}

theorem mem_turns_call {turn other : Turn} :
    other ∈ (s.call turn).turns ↔ other = turn ∨ other ∈ s.turns := by
  have moved : (s.call turn).turns.Perm (turn :: s.turns) := by
    simp only [turns, call, ← List.append_assoc]
    exact List.perm_append_comm.append_right _
  rw [moved.mem_iff, List.mem_cons]

theorem turns_callAfter (s : Stream) (time : Nat) (turn : Turn) :
    (s.callAfter time turn).turns.Perm (turn :: s.turns) := by
  have timers := (TurnTimer.insert_perm ⟨s.now + time, turn⟩ s.timers).map TurnTimer.turn
  exact (timers.append_left (s.ready ++ s.upcoming)).trans List.perm_middle

theorem turns_round (now : Nat) (rested : s.ready = []) : (s.round now).turns = s.turns := by
  have split : s.timers.takeWhile (·.time ≤ now) ++ s.timers.dropWhile (·.time ≤ now) = s.timers :=
    List.takeWhile_append_dropWhile
  simp only [Stream.turns, round, rested, List.append_nil, List.nil_append, List.append_assoc,
    ← List.map_append, split]

/-- A consumer that does not wait for an event takes nothing from the queue. -/
theorem deliver_of_busy {consumer : Consumer} (busy : s.consumer ≠ .idle)
    (items : List (Option Event)) : deliver consumer items s = { s with queue := items } := by
  cases items with
  | nil => rfl
  | cons item rest =>
    rw [deliver]
    · exact fun idle => absurd idle busy
    · exact fun _ idle => absurd idle busy

/-! ## The moment of leaving -/

theorem winds_cutOff (s : Stream) (error : Option RunError) :
    Winds error (s.cutOff error) (s.cutOff error) where
  past := rfl
  tally := rfl
  launched := rfl
  now := Nat.le_refl _
  early := rfl
  off := s.producer.isOff_cut
  consumer := .inl rfl
  turns := by
    intro turn mem
    simp only [turns, cutOff, List.nil_append, List.map_nil, List.append_nil] at mem
    obtain ⟨before, -, cut⟩ := List.mem_filterMap.mp mem
    exact Turn.isWinding_of_abort? cut

namespace Winds

theorem gone (winds : Winds error s t) {left : Option RunError} (gone : t.consumer = .gone left) :
    t.consumer = .gone error :=
  winds.consumer.resolve_left fun leaving => nomatch leaving.symm.trans gone

/-! ## The books -/

theorem history (winds : Winds error s t) : t.history = s.history :=
  congrArg List.reverse winds.past

theorem active (winds : Winds error s t) : t.tally.active = s.tally.active :=
  (congrArg Tally.active winds.tally :)

theorem completed (winds : Winds error s t) : t.tally.completed = s.tally.completed :=
  (congrArg Tally.completed winds.tally :)

theorem stopped (winds : Winds error s t) : t.tally.stopped = s.tally.stopped :=
  (congrArg Tally.stopped winds.tally :)

theorem fault (winds : Winds error s t) : t.tally.fault = s.tally.fault :=
  (congrArg Tally.fault winds.tally :)

/-! ## Turns -/

theorem call (winds : Winds error s t) {turn : Turn} (winding : turn.isWinding = true) :
    Winds error s (t.call turn) := by
  refine { winds with turns := fun other mem => ?_ }
  rcases mem_turns_call.mp mem with rfl | old
  · exact winding
  · exact winds.turns other old

theorem callAfter (winds : Winds error s t) (time : Nat) {turn : Turn}
    (winding : turn.isWinding = true) : Winds error s (t.callAfter time turn) := by
  refine { winds with turns := fun other mem => ?_ }
  rcases List.mem_cons.mp ((turns_callAfter t time turn).mem_iff.mp mem) with rfl | old
  · exact winding
  · exact winds.turns other old

theorem notify (winds : Winds error s t) : Winds error s t.notify := by
  unfold Stream.notify
  split
  · split
    · exact winds.call rfl
    · exact winds.call rfl
    · exact winds
  · exact winds

theorem conclude (winds : Winds error s t) : Winds error s t.conclude :=
  notify (t := { t with done := t.done + 1 }) { winds with }

/-- Nobody waits for what is put into the queue. -/
theorem put (winds : Winds error s t) (item : Option Event) : Winds error s (t.put item) := by
  unfold Stream.put
  rcases winds.consumer with state | state <;>
    simp only [state] <;>
    exact { winds with consumer := by simp }

theorem signOff (winds : Winds error s t) (cut : Bool) :
    Winds error s (t.signOff s.producer.stoppedEarly cut) := by
  have closed {t : Stream} (winds : Winds error s t) :
      Winds error s (t.retire s.producer.stoppedEarly) :=
    notify (t := { t with producer := .finished s.producer.stoppedEarly })
      { winds with early := rfl, off := rfl }
  unfold Stream.signOff
  split
  · exact closed winds
  · exact closed (winds.put none)

theorem close (winds : Winds error s t) : Winds error s (t.close s.producer.stoppedEarly) := by
  have gathering : Winds error s { t with producer := .gathering s.producer.stoppedEarly false } :=
    { winds with early := rfl, off := rfl }
  unfold Stream.close
  dsimp only
  split
  · exact gathering.signOff false
  · exact gathering.notify

theorem gather (winds : Winds error s t) : Winds error s t.gather := by
  unfold Stream.gather
  split
  · rename_i early cut gathers
    have early : early = s.producer.stoppedEarly := by
      rw [← winds.early, gathers]
      rfl
    exact early ▸ winds.signOff cut
  · exact winds

theorem take (winds : Winds error s t) : Winds error s t.take := by
  have off := winds.off
  cases state : t.producer with
  | halted slot =>
    have early : false = s.producer.stoppedEarly := by
      rw [← winds.early, state]
      rfl
    have back : Winds error s
        { t with tally := if slot then t.tally.giveBack else t.tally } := by
      refine { winds with tally := ?_ }
      rw [← winds.tally]
      cases slot <;> rfl
    simp only [Stream.take, state]
    exact early ▸ back.close
  | gathering | finished => simp [Stream.take, state, winds]
  | _ => simp [state, ProducerState.isOff] at off

/-- A producer that has been cut off asks for nothing. -/
theorem produce_eq (winds : Winds error s t) (detour : Bool) : t.produce detour = t.take := by
  have off := winds.take.off
  simp only [Stream.produce]
  split
  · rename_i asks
    rw [asks] at off
    exact absurd off Bool.false_ne_true
  · rfl

theorem produce (winds : Winds error s t) (detour : Bool) : Winds error s (t.produce detour) :=
  winds.produce_eq detour ▸ winds.take

/-- A consumer that leaves takes nothing from the queue. -/
theorem deliver (winds : Winds error s t) (consumer : Consumer) (items : List (Option Event)) :
    Winds error s (deliver consumer items t) := by
  have busy : t.consumer ≠ .idle := by
    rcases winds.consumer with state | state <;> rw [state] <;> nofun
  rw [deliver_of_busy busy]
  exact { winds with }

theorem consume (winds : Winds error s t) (consumer : Consumer) :
    Winds error s (consume consumer t) := by
  unfold Stream.consume
  rcases winds.consumer with state | state
  · simp only [state]
    exact deliver (t := { t with consumer := .gone error }) { winds with consumer := .inr rfl }
      consumer t.queue
  · simp only [state]
    exact winds.deliver consumer t.queue

/-- The turns but one. -/
theorem rest (winds : Winds error s t) {turn : Turn} {rest : List Turn}
    (ready : t.ready = turn :: rest) :
    turn.isWinding = true ∧ Winds error s { t with ready := rest } := by
  have split : t.turns = turn :: Stream.turns { t with ready := rest } := by
    simp only [Stream.turns, ready, List.cons_append]
  refine ⟨winds.turns turn (split ▸ List.mem_cons_self), { winds with turns := ?_ }⟩
  exact fun other mem => winds.turns other (split ▸ List.mem_cons_of_mem _ mem)

theorem act (winds : Winds error s t) (consumer : Consumer) (launch : Launcher) (detour : Bool)
    {turn : Turn} {rest : List Turn} (ready : t.ready = turn :: rest) :
    Winds error s (act consumer launch detour { t with ready := rest } turn) := by
  obtain ⟨winding, later⟩ := winds.rest ready
  cases turn with
  | abort b time =>
    cases time with
    | zero => exact later.conclude
    | succ time => exact later.callAfter _ rfl
  | produce => exact later.produce detour
  | gathered => exact later.gather
  | consume => exact later.consume consumer
  | _ => exact absurd winding Bool.false_ne_true

theorem round (winds : Winds error s t) (rested : t.ready = []) {now : Nat} (le : t.now ≤ now) :
    Winds error s (t.round now) :=
  { winds with
    now := Nat.le_trans winds.now le
    turns := fun turn mem => winds.turns turn (turns_round now rested ▸ mem) }

/-- **Whatever comes next, a run that its consumer has left winds up.** -/
theorem of_next? (winds : Winds error s t) {consumer : Consumer} {launch : Launcher} {detour : Bool}
    (next : next? consumer launch detour t = some u) : Winds error s u := by
  unfold next? at next
  split at next
  · contradiction
  · split at next
    · rename_i turn rest ready
      cases next
      exact winds.act consumer launch detour ready
    · contradiction
    · rename_i timer timers ready _ _
      cases next
      exact winds.round ready (Nat.le_max_left t.now timer.time)
    · rename_i ready _ _
      cases next
      exact winds.round ready (Nat.le_refl t.now)

end Winds

theorem winds_leave (s : Stream) (error : Option RunError) :
    Winds error (s.cutOff error) (s.leave error) := by
  have cut := winds_cutOff s error
  unfold leave
  dsimp only
  split
  · exact cut.call rfl
  · exact cut.notify

end Stream

end BatchExec
