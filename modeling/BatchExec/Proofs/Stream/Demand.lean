import BatchExec.Proofs.Demand
import BatchExec.Proofs.Stream.Journal

/-!
# The demand of an event-driven run

The producer of an event-driven run asks for the next batch when it has admitted the last one.
Whatever launches and the consumer do meanwhile, nobody else asks for a batch or gives one a slot.

* `ProducerState.owed`: how many batches the producer has asked for that have got no slot.
* `Stream.asks_take`, `Stream.inStep_pull`: what the producer does.
* `Stream.inStep_of_next?`: **whatever comes next keeps the demand in step with the slots.**
* `Stream.inStep_of_passes`: so it is in every state of a run.
-/

namespace BatchExec

/-- How many batches the producer has asked for that have got no slot. -/
def ProducerState.owed : ProducerState → Nat
  | .asking => 0
  | _ => 1

theorem ProducerState.owed_eq_one {p : ProducerState} (busy : p ≠ .asking) : p.owed = 1 := by
  cases p with
  | asking => exact absurd rfl busy
  | _ => rfl

/-- The end of a launch asks for no batch. -/
theorem Tally.isDemand_finish (t : Tally) (b : Batch) (ending : Ending) :
    ∀ e ∈ (t.finish b ending).2.1, e.isDemand = false := by
  have released : ∀ e ∈ (t.release b.index).2, e.isDemand = false := by
    unfold release
    split
    · exact fun e mem => List.mem_singleton.mp mem ▸ rfl
    · exact fun e mem => absurd mem List.not_mem_nil
  have append {more : List Happening} (idle : ∀ e ∈ more, e.isDemand = false) :
      ∀ e ∈ (t.release b.index).2 ++ more, e.isDemand = false := fun e mem =>
    (List.mem_append.mp mem).elim (released e) (idle e)
  unfold finish
  dsimp only
  split
  · exact append fun e mem => List.mem_singleton.mp mem ▸ rfl
  · exact append fun e mem => List.mem_singleton.mp mem ▸ rfl
  · refine append fun e mem => ?_
    unfold record at mem
    rcases List.mem_cons.mp mem with rfl | stopping
    · rfl
    · split at stopping
      · rw [List.mem_singleton.mp stopping]
        rfl
      · exact absurd stopping List.not_mem_nil

namespace Stream

variable {s t : Stream} {owed : Nat}

/-- A run has asked for so many batches more than have got slots, and at no time before for more
than one. -/
def InStep (s : Stream) (owed : Nat) : Prop := s.history.InStep owed

theorem InStep.note (inStep : s.InStep owed) {happenings : List Happening}
    (idle : ∀ e ∈ happenings, e.isDemand = false) : (s.note happenings).InStep owed := by
  rw [InStep, history_note]
  exact inStep.notes idle s.now

theorem InStep.of_rings (inStep : s.InStep owed) (rings : Rings s t) : t.InStep owed := by
  rw [InStep, history, rings.past]
  exact inStep

theorem InStep.cancel (inStep : s.InStep owed) : s.cancel.InStep owed := by
  unfold Stream.cancel
  split
  · exact InStep.note (s := { s with tally := s.tally.cancel }) inStep
      (by simp [Happening.isDemand])
  · exact inStep

/-! ## The consumer -/

variable (consumer : Consumer)

theorem InStep.hear (inStep : s.InStep owed) (e : Event) :
    (Stream.hear consumer s e).InStep owed := by
  have heard : InStep (if consumer.listener.isSome then s.note [.delivered e] else s) owed := by
    split
    · exact inStep.note (by simp [Happening.isDemand])
    · exact inStep
  unfold Stream.hear
  dsimp only
  split
  · exact heard.cancel
  · exact heard

theorem InStep.leave (inStep : s.InStep owed) (error : Option RunError) :
    (s.leave error).InStep owed := by
  have killed : (s.note (s.running.map .killed)).InStep owed := inStep.note fun e mem => by
    obtain ⟨b, -, rfl⟩ := List.mem_map.mp mem
    rfl
  unfold Stream.leave
  dsimp only
  split
  · exact killed
  · exact InStep.of_rings (s := s.cutOff error) killed (rings_notify _)

theorem InStep.handle (inStep : s.InStep owed) (e : Event) :
    (Stream.handle consumer s e).InStep owed := by
  have heard := InStep.hear consumer (s := { s with consumer := .idle }) inStep e
  unfold Stream.handle
  dsimp only
  split
  · exact heard.leave _
  · exact heard

theorem InStep.deliver (inStep : s.InStep owed) (items : List (Option Event)) :
    (Stream.deliver consumer items s).InStep owed := by
  fun_induction Stream.deliver consumer items s with
  | case3 rest s e idle prompt ih => exact ih (inStep.handle consumer e)
  | _ => exact inStep

theorem InStep.consume (inStep : s.InStep owed) : (Stream.consume consumer s).InStep owed := by
  have attend (state : ConsumerState) :
      (Stream.deliver consumer s.queue { s with consumer := state }).InStep owed :=
    InStep.deliver consumer (s := { s with consumer := state }) inStep s.queue
  unfold Stream.consume
  dsimp only
  split
  · exact (inStep.handle consumer _).deliver consumer _
  · exact attend .idle
  · exact attend _
  · exact inStep.deliver consumer s.queue

/-! ## Launches -/

theorem InStep.put (inStep : s.InStep owed) (item : Option Event) : (s.put item).InStep owed := by
  unfold Stream.put
  split <;> exact inStep

/-- A slot that is handed over to the producer has not been taken yet. -/
theorem InStep.grant (inStep : s.InStep owed) : s.grant.InStep owed := by
  unfold Stream.grant
  split <;> exact inStep

theorem InStep.conclude (inStep : s.InStep owed) : s.conclude.InStep owed :=
  InStep.of_rings (s := { s with done := s.done + 1 }) inStep (rings_conclude s)

theorem InStep.finish (inStep : s.InStep owed) (b : Batch) (plan : Plan) :
    (s.finish b plan).InStep owed := by
  have ended : (s.note (.ended b :: plan.closing.map .remarked)).InStep owed := by
    refine inStep.note fun e mem => ?_
    simp only [List.mem_cons, List.mem_map] at mem
    rcases mem with rfl | ⟨remark, -, rfl⟩ <;> rfl
  have booked {u : Stream} (before : u.InStep owed) :
      (u.book (u.tally.finish b plan.ending)).InStep owed := by
    have noted := InStep.note (s := { u with tally := (u.tally.finish b plan.ending).1 }) before
      (u.tally.isDemand_finish b plan.ending)
    unfold Stream.book
    dsimp only
    split
    · exact noted.grant.put _
    · exact noted.grant
  unfold Stream.finish
  dsimp only
  split
  · exact (booked ended.cancel).conclude
  · exact (booked ended).conclude

/-- A launch starts, and it may end at once. -/
theorem InStep.start (inStep : s.InStep owed) (launch : Launcher) (b : Batch) :
    (Stream.start launch s b).InStep owed := by
  have began : InStep (Stream.note { s with launched := s.launched + 1 }
      (.started b :: (launch s.launched s.now b).opening.map .remarked ++
        (launch s.launched s.now b).attempt.toList.map .attempted)) owed := by
    refine InStep.note (s := { s with launched := s.launched + 1 }) inStep fun e mem => ?_
    simp only [List.cons_append, List.mem_cons, List.mem_append, List.mem_map] at mem
    rcases mem with rfl | ⟨remark, -, rfl⟩ | ⟨attempt, -, rfl⟩ <;> rfl
  unfold Stream.start
  dsimp only
  split
  · exact began.finish b _
  · split <;> exact began

/-! ## The producer -/

/-- The producer has asked for at most one batch that has got no slot: for one, unless it is about
to ask. -/
def Asks (s : Stream) : Prop := s.InStep s.producer.owed

theorem Asks.of_busy (asks : s.Asks) (busy : s.producer ≠ .asking) : s.InStep 1 := by
  rwa [Asks, ProducerState.owed_eq_one busy] at asks

theorem InStep.asks (inStep : s.InStep 1) (busy : s.producer ≠ .asking) : s.Asks := by
  rwa [Asks, ProducerState.owed_eq_one busy]

theorem asks_close (asked : s.InStep 1) (early : Bool) : (s.close early).Asks := by
  refine (asked.of_rings (rings_close s early)).asks fun asking => ?_
  rcases producer_close s early with gathers | finished
  · exact nomatch gathers.symm.trans asking
  · exact nomatch finished.symm.trans asking

/-- A batch that was asked for is turned away. -/
theorem asks_refuse (asked : s.InStep 1) (b : Batch) : (s.refuse b).Asks :=
  asks_close (asked.note (by simp [Happening.isDemand])) true

/-- A batch that was asked for gets a slot. -/
theorem asks_admitBatch (asked : s.InStep 1) (b : Batch) : (s.admitBatch b).Asks := by
  show History.InStep (note { s with
    tally := s.tally.count, tasks := s.tasks + 1, producer := .asking }
    [.admitted b s.tally.count.active]).history 0
  rw [history_note]
  exact History.InStep.accept asked s.now b _

/-- The producer gets a batch that it has asked for. -/
theorem asks_receive (asked : s.InStep 1) (b : Batch) : (s.receive b).Asks := by
  have received : (s.note [.received b]).InStep 1 := asked.note (by simp [Happening.isDemand])
  simp only [receive]
  split
  · exact asks_refuse received b
  · split
    · rename_i tally reserved
      exact asks_admitBatch (s := { s.note [.received b] with tally }) received b
    · exact received

/-- The producer asks for batches until it has asked for one that it cannot admit. -/
theorem inStep_pull (detour : Bool) (items : List FeedItem) (s : Stream) (free : s.InStep 0) :
    (pull detour items s).InStep 1 := by
  have requested (s : Stream) (free : s.InStep 0) : (s.note [.requested]).InStep 1 := by
    rw [InStep, history_note]
    exact History.InStep.request free s.now
  fun_induction pull detour items s with
  | case1 s noted => exact requested s free
  | case2 s noted =>
    exact InStep.of_rings (s := { noted with feed := [] }) (requested s free) (rings_close _ false)
  | case3 item rest s noted asked delayed => exact requested s free
  | case4 item rest s noted asked => exact requested s free
  | case5 item rest s noted prompt direct received again ih =>
    have got : received.Asks :=
      asks_receive (s := { noted with feed := rest }) (requested s free) item.batch
    rw [Asks, again] at got
    exact ih got
  | case6 item rest s noted prompt direct received stays =>
    have got : received.Asks :=
      asks_receive (s := { noted with feed := rest }) (requested s free) item.batch
    exact got.of_busy stays

/-- The producer takes what the source has handed over, or a slot. -/
theorem asks_take (asked : s.InStep 1) (busy : s.producer ≠ .asking) : s.take.Asks := by
  unfold Stream.take
  split
  · exact asks_close asked false
  · rename_i item rest waits next
    exact asks_receive (s := { s with feed := rest }) asked item.batch
  · rename_i b granted
    split
    · exact asks_refuse (s := { s with tally := s.tally.giveBack }) asked b
    · exact asks_admitBatch asked b
  · rename_i slot _
    exact asks_close (s := { s with tally := if slot then s.tally.giveBack else s.tally }) asked
      false
  · exact asked.asks busy

/-- When the producer has had its turn, it has asked for one batch more than have got slots. -/
theorem inStep_produce (asked : s.InStep 1) (busy : s.producer ≠ .asking) (detour : Bool) :
    (s.produce detour).InStep 1 := by
  have taken := asks_take asked busy
  simp only [Stream.produce]
  split
  · rename_i asks
    rw [Asks, asks] at taken
    exact inStep_pull detour s.take.feed s.take taken
  · rename_i busy
    exact taken.of_busy busy

/-! ## Turns -/

variable {consumer : Consumer} {launch : Launcher} {detour : Bool}

/-- **Whatever comes next keeps the demand in step with the slots.** -/
theorem inStep_of_next? (asked : s.InStep 1) (busy : s.producer ≠ .asking)
    (next : next? consumer launch detour s = some t) : t.InStep 1 := by
  unfold next? at next
  split at next
  · contradiction
  · split at next
    · rename_i turn rest ready
      cases next
      have rested : InStep { s with ready := rest } 1 := asked
      cases turn with
      | cancel => exact rested.cancel
      | handOver => exact rested
      | produce => exact inStep_produce rested busy detour
      | start b => exact rested.start launch b
      | relay b plan turns =>
        cases turns with
        | zero => exact rested.finish b plan
        | succ turns => exact rested
      | abort b time =>
        cases time with
        | zero => exact rested.conclude
        | succ time => exact rested
      | gathered => exact rested.of_rings (rings_gather _)
      | alarm => exact rested
      | consume => exact rested.consume consumer
    · contradiction
    · cases next
      exact asked
    · cases next
      exact asked

variable {feed : Feed} {interruption : Interruption} {cancellable : Bool} {tally : Tally}

theorem inStep_initial : (initial tally cancellable interruption).InStep 0 := by
  have fresh : InStep { tally, cancellable } 0 := History.inStep_nil
  have began : InStep (if interruption.beforehand then Stream.cancel { tally, cancellable }
      else { tally, cancellable }) 0 := by
    split
    · exact fresh.cancel
    · exact fresh
  exact began

/-- In no state of a run the producer is about to ask. -/
theorem busy_of_passes
    (passes : Passes consumer launch detour feed (initial tally cancellable interruption) t) :
    t.producer ≠ .asking := by
  intro asks
  rcases attended_of_passes passes with attended | ⟨s, e, error, -, winds⟩
  · have served := attended.producer
    rwa [ServesProducer, asks] at served
  · have off := winds.off
    rw [asks] at off
    exact Bool.false_ne_true off

/-- **In every state of a run the demand is in step with the slots.** -/
theorem inStep_of_passes
    (passes : Passes consumer launch detour feed (initial tally cancellable interruption) t) :
    t.InStep 1 := by
  unfold Passes at passes
  induction passes with
  | refl => exact inStep_pull detour feed.items _ inStep_initial
  | tail passed next ih => exact inStep_of_next? ih (busy_of_passes passed) next

end Stream

end BatchExec
