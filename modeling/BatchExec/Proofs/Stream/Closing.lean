import BatchExec.Proofs.Stream.Leaving
import Mathlib.Data.List.ReduceOption

/-!
# How a producer ends

A producer that asks for no more waits for the launches, says that there are no more events, and is
over. All that the others see of it is that they are called.

* `Stream.Rings`: somebody may be called, and the books stay as they are.
* `Stream.rings_close`, `Stream.rings_gather`: this is how a producer ends.
-/

namespace BatchExec.Stream

variable {s t u : Stream}

/-- Somebody may be called because the producer goes on to its end; no event comes or goes, and the
books stay as they are. -/
structure Rings (s t : Stream) : Prop where
  same : ∃ producer consumer queue upcoming, t = { s with producer, consumer, queue, upcoming }
  events : t.queue.reduceOption = s.queue.reduceOption
  consumer : t.consumer = s.consumer ∨
    s.consumer = .idle ∧ t.consumer = .called ∧ .consume ∈ t.upcoming
  calls : ∃ calls, t.upcoming = s.upcoming ++ calls ∧
    ∀ turn ∈ calls, turn = .gathered ∨ turn = .consume

theorem Rings.refl (s : Stream) : Rings s s :=
  ⟨⟨_, _, _, _, rfl⟩, rfl, .inl rfl, [], (List.append_nil _).symm,
    fun _ mem => absurd mem List.not_mem_nil⟩

theorem Rings.trans (first : Rings s t) (second : Rings t u) : Rings s u where
  same := by
    obtain ⟨_, _, _, _, rfl⟩ := first.same
    obtain ⟨_, _, _, _, rfl⟩ := second.same
    exact ⟨_, _, _, _, rfl⟩
  events := second.events.trans first.events
  consumer := by
    obtain ⟨calls, upcoming, -⟩ := second.calls
    rcases second.consumer with stays | ⟨idle, called, mem⟩
    · rw [stays, upcoming]
      exact first.consumer.imp_right fun ⟨idle, called, mem⟩ =>
        ⟨idle, called, List.mem_append_left calls mem⟩
    · rcases first.consumer with stays | ⟨-, busy, -⟩
      · exact .inr ⟨stays ▸ idle, called, mem⟩
      · exact absurd (busy.symm.trans idle) (by simp)
  calls := by
    obtain ⟨calls, upcoming, rung⟩ := first.calls
    obtain ⟨calls', upcoming', rung'⟩ := second.calls
    refine ⟨calls ++ calls', by rw [upcoming', upcoming, List.append_assoc], fun turn mem => ?_⟩
    exact (List.mem_append.mp mem).elim (rung turn) (rung' turn)

theorem Rings.tally (rings : Rings s t) : t.tally = s.tally := by
  obtain ⟨_, _, _, _, rfl⟩ := rings.same
  rfl

theorem Rings.past (rings : Rings s t) : t.past = s.past := by
  obtain ⟨_, _, _, _, rfl⟩ := rings.same
  rfl

theorem Rings.now (rings : Rings s t) : t.now = s.now := by
  obtain ⟨_, _, _, _, rfl⟩ := rings.same
  rfl

theorem Rings.feed (rings : Rings s t) : t.feed = s.feed := by
  obtain ⟨_, _, _, _, rfl⟩ := rings.same
  rfl

theorem Rings.ready (rings : Rings s t) : t.ready = s.ready := by
  obtain ⟨_, _, _, _, rfl⟩ := rings.same
  rfl

theorem Rings.timers (rings : Rings s t) : t.timers = s.timers := by
  obtain ⟨_, _, _, _, rfl⟩ := rings.same
  rfl

/-- Whatever the producer does is overlooked. -/
theorem rings_producer (s : Stream) (producer : ProducerState) : Rings s { s with producer } :=
  ⟨⟨_, _, _, _, rfl⟩, rfl, .inl rfl, [], (List.append_nil _).symm,
    fun _ mem => absurd mem List.not_mem_nil⟩

theorem rings_call (s : Stream) {turn : Turn} (rung : turn = .gathered ∨ turn = .consume) :
    Rings s (s.call turn) :=
  ⟨⟨_, _, _, _, rfl⟩, rfl, .inl rfl, [turn], rfl,
    fun _ mem => List.mem_singleton.mp mem ▸ rung⟩

theorem rings_notify (s : Stream) : Rings s s.notify := by
  unfold notify
  split
  · split
    · exact rings_call s (.inl rfl)
    · exact rings_call s (.inr rfl)
    · exact .refl s
  · exact .refl s

/-- That there are no more events is no event. -/
theorem rings_put (s : Stream) : Rings s (s.put none) := by
  have events : (s.queue ++ [none]).reduceOption = s.queue.reduceOption := by
    rw [List.reduceOption_append]
    exact List.append_nil _
  unfold put
  split
  · rename_i idle
    have called : Turn.consume ∈ s.upcoming ++ [.consume] :=
      List.mem_append_right _ List.mem_cons_self
    exact ⟨⟨_, _, _, _, rfl⟩, events, .inr ⟨idle, rfl, called⟩, [.consume], rfl,
      fun _ mem => .inr (List.mem_singleton.mp mem)⟩
  · exact ⟨⟨_, _, _, _, rfl⟩, events, .inl rfl, [], (List.append_nil _).symm,
      fun _ mem => absurd mem List.not_mem_nil⟩

theorem rings_signOff (s : Stream) (early cut : Bool) : Rings s (s.signOff early cut) := by
  have closed (s : Stream) : Rings s (s.retire early) :=
    (rings_producer s (.finished early)).trans (rings_notify _)
  unfold signOff
  split
  · exact closed s
  · exact (rings_put s).trans (closed _)

/-- The producer asks for no more. -/
theorem rings_close (s : Stream) (early : Bool) : Rings s (s.close early) := by
  refine (rings_producer s (.gathering early false)).trans ?_
  unfold close
  dsimp only
  split
  · exact rings_signOff _ early false
  · exact rings_notify _

theorem producer_notify (s : Stream) : s.notify.producer = s.producer := by
  unfold notify
  split
  · split <;> rfl
  · rfl

theorem producer_close (s : Stream) (early : Bool) :
    (s.close early).producer = .gathering early false ∨
      (s.close early).producer = .finished early := by
  unfold close
  dsimp only
  split
  · right
    simp only [signOff, Bool.false_eq_true, if_false, retire, producer_notify]
  · left
    rw [producer_notify]

/-- A producer that has been cut off gives back its slot and asks for no more. -/
theorem produce_of_halted {slot : Bool} (halted : s.producer = .halted slot) (detour : Bool) :
    s.produce detour =
      close { s with tally := if slot then s.tally.giveBack else s.tally } false := by
  have taken : s.take =
      close { s with tally := if slot then s.tally.giveBack else s.tally } false := by
    simp only [take, halted]
  have off : s.take.producer ≠ .asking := by
    rw [taken]
    rcases producer_close _ false with gathers | finished
    · rw [gathers]
      rintro ⟨⟩
    · rw [finished]
      rintro ⟨⟩
  rw [produce, if_neg off, taken]

/-- The producer goes on when all launches are over. -/
theorem rings_gather (s : Stream) : Rings s s.gather := by
  unfold gather
  split
  · exact rings_signOff s _ _
  · exact .refl s

theorem rings_conclude (s : Stream) : Rings { s with done := s.done + 1 } s.conclude :=
  rings_notify _

/-- As long as a run winds up, nobody puts an event into the queue or takes one. -/
theorem Winds.queue_of_next? {error : Option RunError} (winds : Winds error s t)
    {consumer : Consumer} {launch : Launcher} {detour : Bool}
    (next : next? consumer launch detour t = some u) :
    u.queue.reduceOption = t.queue.reduceOption := by
  unfold next? at next
  split at next
  · contradiction
  · split at next
    · rename_i turn rest ready
      cases next
      obtain ⟨winding, later⟩ := winds.rest ready
      set q : Stream := { t with ready := rest }
      cases turn with
      | abort b time =>
        cases time with
        | zero => exact (rings_conclude q).events
        | succ time => rfl
      | produce =>
        have off := later.off
        have taken : q.take.queue.reduceOption = q.queue.reduceOption := by
          cases state : q.producer with
          | halted slot =>
            simp only [Stream.take, state]
            exact (rings_close _ false).events
          | gathering | finished => simp only [Stream.take, state]
          | _ => simp [state, ProducerState.isOff] at off
        show (q.produce detour).queue.reduceOption = _
        rw [later.produce_eq detour, taken]
      | gathered => exact (rings_gather q).events
      | consume =>
        show (Stream.consume consumer q).queue.reduceOption = _
        unfold Stream.consume
        rcases later.consumer with state | state
        · simp only [state]
          rw [deliver_of_busy (s := { q with consumer := .gone error }) (by rintro ⟨⟩)]
        · simp only [state]
          rw [deliver_of_busy (by rw [state]; rintro ⟨⟩)]
      | _ => exact absurd winding Bool.false_ne_true
    · contradiction
    · cases next
      rfl
    · cases next
      rfl

/-- A batch is turned away. -/
theorem rings_refuse (s : Stream) (b : Batch) : Rings (s.note [.refused b]) (s.refuse b) :=
  rings_close _ true

end BatchExec.Stream
