import BatchExec.Proofs.Setting
import BatchExec.Proofs.Stream.Announcement

/-!
# The slots of an event-driven run

An event-driven run with a limit keeps count of its slots in two places: the free ones, and the
launches that are running. In between, a slot may be kept for the producer.

* `Stream.gives_back`: **a producer that is to find the run cancelled gives its slot back.**
* `Stream.KeepsBooks`: what holds of the books as long as the consumer is there.
* `Setting.slots_kept`: **the books are kept in any use of a tally and in every state of a run.**
-/

namespace BatchExec

namespace Stream

variable {consumer : Consumer} {launch : Launcher} {detour : Bool} {s t : Stream} {b : Batch}

/-! ## A slot that is kept for the producer -/

/-- The producer has given the slot back that was kept for it, has turned the batch away and asks
for no more. -/
structure TurnsAway (t s : Stream) (b : Batch) : Prop where
  tally : t.tally = s.tally.giveBack
  producer : t.producer = .gathering true false ∨ t.producer = .finished true
  history : t.history = s.history ++ [⟨s.now, .refused b⟩]

theorem turnsAway_refuse (s : Stream) (b : Batch) (rest : List Turn) :
    TurnsAway (refuse { s with ready := rest, tally := s.tally.giveBack } b) s b := by
  have rings := rings_refuse { s with ready := rest, tally := s.tally.giveBack } b
  refine ⟨rings.tally, producer_close _ true, ?_⟩
  rw [history, rings.past]
  exact history_note { s with ready := rest, tally := s.tally.giveBack } [.refused b]

theorem produce_of_granted (granted : s.producer = .granted b)
    (stopped : s.tally.cancelled = true) :
    s.produce detour = refuse { s with tally := s.tally.giveBack } b := by
  have taken : s.take = refuse { s with tally := s.tally.giveBack } b := by
    simp only [take, granted, stopped, if_true]
  have off : s.take.producer ≠ .asking := by
    rw [taken]
    rcases producer_close _ true with gathers | finished
    · intro asks
      cases gathers.symm.trans asks
    · intro asks
      cases finished.symm.trans asks
  rw [produce, if_neg off, taken]

/-- The end of a launch hands no second slot over to the producer. -/
theorem producer_finish (granted : s.producer = .granted b) (b' : Batch) (plan : Plan) :
    (s.finish b' plan).producer = .granted b := by
  have booked (t : Stream) (outcome : Tally × List Happening × Option Event)
      (granted : t.producer = .granted b) : (t.book outcome).conclude.producer = .granted b := by
    have still : (note { t with tally := outcome.1 } outcome.2.1).grant.producer = .granted b := by
      unfold grant
      split
      · rename_i waits reserved
        exact ProducerState.noConfusion (granted.symm.trans waits)
      · exact granted
    unfold conclude book
    dsimp only
    rw [producer_notify]
    split
    · exact (spares_put _ _).producer.trans still
    · exact still
  unfold finish
  dsimp only
  split
  · exact booked _ _ ((spares_cancel _).producer.trans granted)
  · exact booked _ _ granted

theorem producer_start (granted : s.producer = .granted b) (b' : Batch) :
    (start launch s b').producer = .granted b := by
  rw [start_eq launch s ⟨b', launch s.launched s.now b'⟩ rfl]
  unfold takeOff
  split
  · exact producer_finish (s := note { s with launched := s.launched + 1 } _) granted b' _
  · split <;> exact granted

/-- **A producer that is to find the run cancelled gives its slot back**: until it has its turn it
keeps the slot, and then the slot is free and the batch is turned away. -/
theorem gives_back (granted : s.producer = .granted b) (stopped : s.tally.cancelled = true)
    (attended : s.Attended) (next : next? consumer launch detour s = some t) (here : t.Here) :
    t.producer = .granted b ∨ t.TurnsAway s b := by
  unfold next? at next
  split at next
  · contradiction
  · split at next
    · rename_i turn rest ready
      cases next
      obtain ⟨q, hq⟩ : ∃ q, q = { s with ready := rest } := ⟨_, rfl⟩
      have kept : q.producer = .granted b := by
        rw [hq]
        exact granted
      rw [← hq] at here ⊢
      cases turn with
      | cancel => exact .inl ((spares_cancel q).producer.trans kept)
      | handOver => exact .inl kept
      | alarm => exact .inl kept
      | start b' => exact .inl (producer_start kept b')
      | relay b' plan turns =>
        cases turns with
        | zero => exact .inl (producer_finish kept b' plan)
        | succ turns => exact .inl kept
      | abort b' time =>
        cases time with
        | zero => exact .inl ((producer_notify _).trans kept)
        | succ time => exact .inl kept
      | gathered =>
        left
        show q.gather.producer = _
        simp only [gather, kept]
      | consume =>
        have served : q.consumer.Served q.queue s.turns := by
          rw [hq]
          exact attended.consumer
        rcases spares_consume q served with spared | departed
        · exact .inl (spared.producer.trans kept)
        · exact absurd here departed.not_here
      | produce =>
        right
        have stops : q.tally.cancelled = true := by
          rw [hq]
          exact stopped
        show (q.produce detour).TurnsAway s b
        rw [produce_of_granted kept stops, hq]
        exact turnsAway_refuse s b rest
    · contradiction
    · cases next
      exact .inl granted
    · cases next
      exact .inl granted

/-! ## Books -/

/-- The books of an event-driven run with so many slots are in order. -/
structure KeepsBooks (maxProcs : Nat) (receiver : Listener) (s : Stream) : Prop where
  /-- Every slot is free, is kept for the producer or belongs to a running launch. -/
  slots : ∃ free, s.tally.free = some free ∧
    free + s.producer.reserved + s.tally.active = maxProcs
  peak : s.tally.active ≤ s.tally.peak ∧ s.tally.peak ≤ maxProcs
  /-- A fault stops the run. -/
  halts : s.tally.fault.isSome = true → s.tally.stopped = true
  /-- The events that the consumer has taken and those that it has not heard of are those of the
  results in turn. -/
  events : ∃ taken, (receiver.isSome = true → taken = s.history.heard) ∧
    (taken ++ s.unheard).map Event.result = s.tally.completed ∧
    (taken ++ s.unheard).map Event.completed = List.range' 1 s.tally.completed.length

end Stream

namespace Setting

variable {s : Setting}

/-- As long as the consumer is there, the books are in order. -/
theorem keepsBooks_of_here (positive : 0 < s.maxProcs) {consumer : Consumer}
    {cancellable detour : Bool} {t : Stream}
    (passes : Stream.Passes consumer s.launch detour s.feed (s.stream cancellable) t)
    (here : t.Here) : t.KeepsBooks s.maxProcs consumer.listener := by
  have allow : (s.rules True True).Allow consumer.listener :=
    allow_all (s := { s with listener := consumer.listener })
  obtain ⟨steady, sound, -, -⟩ := Stream.present_of_here allow (.inr trivial) passes here
  obtain ⟨⟨-, recorded, -, taken, all, told⟩, halts⟩ :=
    Stream.announces_of_passes allow (.inr trivial) passes
  have limited := bound_rules positive True True
  have books := steady.slots
  rw [limited] at books
  obtain ⟨free, some, sum⟩ := Option.map_eq_some_iff.mp books
  have most := sound.bounded s.maxProcs limited
  have peak := sound.peak
  refine ⟨⟨free, some, by omega⟩, ⟨?_, ?_⟩, halts, taken, told, ?_, ?_⟩
  · exact Int.ofNat_le.mp peak
  · exact Int.ofNat_le.mp most
  · rw [all, History.map_result_announcements, recorded]
  · rw [all, History.map_completed_announcements, recorded]

/-- When a run is over, all slots are free. -/
theorem free_of_over (positive : 0 < s.maxProcs) {consumer : Consumer}
    {cancellable detour : Bool} {t : Stream}
    (passes : Stream.Passes consumer s.launch detour s.feed (s.stream cancellable) t)
    (here : t.Here) (halted : t.next? consumer s.launch detour = none) :
    t.tally.free = some s.maxProcs := by
  have allow : (s.rules True True).Allow consumer.listener :=
    allow_all (s := { s with listener := consumer.listener })
  obtain ⟨steady, sound, attended, closes⟩ :=
    Stream.present_of_here allow (.inr trivial) passes here
  obtain ⟨-, finished⟩ := closes.joined_of_halted attended allow.positive steady sound halted
  have closed : t.done = t.tasks := closes.closed finished
  have tasks := steady.tasks
  obtain ⟨⟨free, some, sum⟩, -⟩ := keepsBooks_of_here positive passes here
  have kept : t.producer.reserved = 0 := by
    cases state : t.producer with
    | finished early => rfl
    | _ => simp [state, ProducerState.isFinished] at finished
  rw [some]
  congr 1
  omega

/-- **The books of an event-driven run are kept**: in any use of its tally, and in every state of a
run in which the consumer is there, whatever the launches, the source and the consumer do and
whoever cancels the run. -/
theorem slots_kept (s : Setting) (positive : 0 < s.maxProcs) :
    (∀ uses more : List Tally.Use,
      ∃ a z, a = (Tally.Account.opened (some s.maxProcs) s.stopOnError).after uses ∧
        z = a.after more ∧ a.InOrder (some s.maxProcs) ∧ a.tally.Outlives z.tally) ∧
    ∀ (consumer : Consumer) (cancellable detour : Bool) (t : Stream),
      Stream.Passes consumer s.launch detour s.feed (s.stream cancellable) t → t.Here →
        t.KeepsBooks s.maxProcs consumer.listener ∧
        (∀ u, Stream.Before consumer s.launch detour t u → t.tally.Outlives u.tally) ∧
        (∀ b u, t.producer = .granted b → t.tally.cancelled = true →
          t.next? consumer s.launch detour = some u → u.Here →
            u.producer = .granted b ∨ u.TurnsAway t b) ∧
        (t.next? consumer s.launch detour = none → t.tally.free = some s.maxProcs) := by
  refine ⟨fun uses more => ⟨_, _, rfl, rfl, ?_, ?_⟩,
    fun consumer cancellable detour t passes here => ⟨keepsBooks_of_here positive passes here,
      fun u later => ?_, ?_, free_of_over positive passes here⟩⟩
  · exact (Tally.Account.inOrder_opened _ _).after uses
  · exact Tally.Account.outlives_after _ more
  · have allow : (s.rules True True).Allow consumer.listener :=
      allow_all (s := { s with listener := consumer.listener })
    exact Stream.outlives_of_before allow (.inr trivial) passes later
  · have attended := (Stream.attended_of_passes passes).resolve_right
      fun departed => departed.not_here here
    exact fun b u granted stopped next there =>
      Stream.gives_back granted stopped attended next there

/-- With two slots the books are kept, and in the end both slots are free. -/
theorem failing_slots_kept :
    (∀ uses more : List Tally.Use,
      ∃ a z, a = (Tally.Account.opened (some 2) true).after uses ∧ z = a.after more ∧
        a.InOrder (some 2) ∧ a.tally.Outlives z.tally) ∧
    ∃ run, (failing 2).events 3 true false = .ok run ∧
      run.stream.KeepsBooks 2 .passive ∧ run.stream.tally.free = some 2 := by
  obtain ⟨uses, states⟩ := slots_kept (failing 2) Nat.two_pos
  obtain ⟨run, ran, passes, halted, -⟩ :=
    events_rests (allow_cancels (failing_calm 2)) (.inr trivial) 3 true false
  obtain ⟨kept, -, -, free⟩ := states _ _ _ _ passes (here_of_calm (failing_calm 2) passes)
  exact ⟨uses, run, ran, kept, free halted⟩

end Setting

end BatchExec
