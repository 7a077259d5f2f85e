import BatchExec.Proofs.Roster.Rest
import BatchExec.Proofs.Stream.Closing
import BatchExec.Proofs.Stream.Turn

/-!
# Everybody is served

In an event-driven run whoever waits for something gets it: a turn is to come for the producer that
waits for a batch, has a slot or has waited for the last launch, no slot is free while it waits for
one, and a turn is to come for a consumer with something to do.

* `ProducerState.Served`, `ConsumerState.Served`: somebody is served.
* `Stream.Attended.of_next?`: **whatever comes next, everybody is served, unless the consumer
  leaves.**
-/

namespace BatchExec

/-- The producer, which has not been cut off, does not wait in vain, given the number of free slots,
whether all tasks are over, and the turns to come. -/
def ProducerState.Served (free : Option Nat) (closed : Prop) (turns : List Turn) :
    ProducerState → Prop
  | .asking | .halted _ => False
  | .waiting => .handOver ∈ turns ∨ .produce ∈ turns
  | .blocked _ => free = some 0
  | .granted _ => .produce ∈ turns
  | .gathering _ _ => closed → .gathered ∈ turns
  | .finished _ => True

/-- The consumer has not left and does not wait in vain, given what the queue holds and the turns to
come. -/
def ConsumerState.Served (queue : List (Option Event)) (turns : List Turn) : ConsumerState → Prop
  | .idle => queue = []
  | .called => queue ≠ [] ∧ .consume ∈ turns
  | .busy _ => .alarm ∈ turns ∨ .consume ∈ turns
  | .joining => True
  | .leaving _ | .gone _ => False

theorem ProducerState.Served.mono {p : ProducerState} {free : Option Nat} {closed : Prop}
    {turns more : List Turn} (served : p.Served free closed turns) (sub : turns ⊆ more) :
    p.Served free closed more := by
  cases p with
  | waiting => exact served.imp (sub ·) (sub ·)
  | granted b => exact sub served
  | gathering early cut => exact fun closed => sub (served closed)
  | _ => exact served

theorem ConsumerState.Served.mono {c : ConsumerState} {queue : List (Option Event)}
    {turns more : List Turn} (served : c.Served queue turns) (sub : turns ⊆ more) :
    c.Served queue more := by
  cases c with
  | called => exact ⟨served.1, sub served.2⟩
  | busy e => exact served.imp (sub ·) (sub ·)
  | _ => exact served

/-- Whether a turn is one of the producer's. -/
def Turn.isProducers : Turn → Bool
  | .handOver | .produce | .gathered => true
  | _ => false

/-- Whether a turn is one of the consumer's. -/
def Turn.isConsumers : Turn → Bool
  | .alarm | .consume => true
  | _ => false

/-- A turn that is not one of the producer's does not serve it. -/
theorem ProducerState.Served.of_cons {p : ProducerState} {free : Option Nat} {closed : Prop}
    {turn : Turn} {turns : List Turn} (served : p.Served free closed (turn :: turns))
    (other : turn.isProducers = false) : p.Served free closed turns := by
  have handsOver : .handOver ≠ turn := by
    rintro rfl
    contradiction
  have produces : .produce ≠ turn := by
    rintro rfl
    contradiction
  have gathers : .gathered ≠ turn := by
    rintro rfl
    contradiction
  cases p with
  | waiting =>
    exact served.imp (fun mem => (List.mem_cons.mp mem).resolve_left handsOver)
      (fun mem => (List.mem_cons.mp mem).resolve_left produces)
  | granted b => exact (List.mem_cons.mp served).resolve_left produces
  | gathering early cut =>
    exact fun closed => (List.mem_cons.mp (served closed)).resolve_left gathers
  | _ => exact served

/-- A turn that is not one of the consumer's does not serve it. -/
theorem ConsumerState.Served.of_cons {c : ConsumerState} {queue : List (Option Event)} {turn : Turn}
    {turns : List Turn} (served : c.Served queue (turn :: turns))
    (other : turn.isConsumers = false) : c.Served queue turns := by
  have alarms : .alarm ≠ turn := by
    rintro rfl
    contradiction
  have consumes : .consume ≠ turn := by
    rintro rfl
    contradiction
  cases c with
  | called => exact ⟨served.1, (List.mem_cons.mp served.2).resolve_left consumes⟩
  | busy e =>
    exact served.imp (fun mem => (List.mem_cons.mp mem).resolve_left alarms)
      (fun mem => (List.mem_cons.mp mem).resolve_left consumes)
  | _ => exact served

/-- When the source hands something over, the producer that waits for it is called. -/
theorem ProducerState.Served.of_handOver {p : ProducerState} {free : Option Nat} {closed : Prop}
    {turns more : List Turn} (served : p.Served free closed (.handOver :: turns))
    (sub : turns ⊆ more) (mem : .produce ∈ more) : p.Served free closed more := by
  cases p with
  | waiting => exact .inr mem
  | granted b => exact mem
  | gathering early cut =>
    exact fun closed => sub ((List.mem_cons.mp (served closed)).resolve_left nofun)
  | _ => exact served

/-- A turn of its own serves the consumer, whatever it waits for. -/
theorem ConsumerState.Served.of_consume {c : ConsumerState} {queue : List (Option Event)}
    {turns more : List Turn} (served : c.Served queue turns) (mem : .consume ∈ more) :
    c.Served queue more := by
  cases c with
  | called => exact ⟨served.1, mem⟩
  | busy e => exact .inr mem
  | _ => exact served

namespace Stream

variable {consumer : Consumer} {launch : Launcher} {s t u : Stream}

/-- The consumer has left. -/
def Departed (consumer : Consumer) (t : Stream) : Prop := ∃ s, Deserts consumer s t

/-- Whether all tasks are over. -/
def Over (s : Stream) : Prop := s.done = s.tasks

/-! ## What an operation leaves alone -/

/-- What concerns the producer is as it was, except that more turns may be to come. -/
structure SparesProducer (s t : Stream) : Prop where
  producer : t.producer = s.producer
  free : t.tally.free = s.tally.free
  closed : t.Over ↔ s.Over
  turns : s.turns ⊆ t.turns

/-- What concerns the consumer is as it was, except that more turns may be to come. -/
structure SparesConsumer (s t : Stream) : Prop where
  consumer : t.consumer = s.consumer
  queue : t.queue = s.queue
  turns : s.turns ⊆ t.turns

/-- What concerns either is as it was, except that more turns may be to come. -/
structure Spares (s t : Stream) : Prop extends SparesProducer s t, SparesConsumer s t

theorem SparesProducer.trans (first : SparesProducer s t) (second : SparesProducer t u) :
    SparesProducer s u :=
  ⟨second.producer.trans first.producer, second.free.trans first.free,
    second.closed.trans first.closed, List.Subset.trans first.turns second.turns⟩

theorem SparesConsumer.trans (first : SparesConsumer s t) (second : SparesConsumer t u) :
    SparesConsumer s u :=
  ⟨second.consumer.trans first.consumer, second.queue.trans first.queue,
    List.Subset.trans first.turns second.turns⟩

theorem Spares.trans (first : Spares s t) (second : Spares t u) : Spares s u :=
  { first.toSparesProducer.trans second.toSparesProducer,
    first.toSparesConsumer.trans second.toSparesConsumer with }

/-- The producer is served. -/
def ServesProducer (s : Stream) : Prop := s.producer.Served s.tally.free s.Over s.turns

/-- The consumer is there and is served. -/
def ServesConsumer (s : Stream) : Prop := s.consumer.Served s.queue s.turns

theorem SparesProducer.served (spares : SparesProducer s t) (served : s.ServesProducer) :
    t.ServesProducer := by
  unfold ServesProducer
  rw [spares.producer, spares.free, propext spares.closed]
  exact served.mono spares.turns

theorem SparesConsumer.served (spares : SparesConsumer s t) (served : s.ServesConsumer) :
    t.ServesConsumer := by
  unfold ServesConsumer
  rw [spares.consumer, spares.queue]
  exact served.mono spares.turns

theorem self_mem_turns_call (s : Stream) (turn : Turn) : turn ∈ (s.call turn).turns :=
  mem_turns_call.mpr (.inl rfl)

theorem turns_subset_call (s : Stream) (turn : Turn) : s.turns ⊆ (s.call turn).turns :=
  fun _ mem => mem_turns_call.mpr (.inr mem)

theorem turns_subset_callAfter (s : Stream) (time : Nat) (turn : Turn) :
    s.turns ⊆ (s.callAfter time turn).turns := fun _ mem =>
  (turns_callAfter s time turn).mem_iff.mpr (List.mem_cons_of_mem _ mem)

theorem mem_turns_callAfter (s : Stream) (time : Nat) (turn : Turn) :
    turn ∈ (s.callAfter time turn).turns :=
  (turns_callAfter s time turn).mem_iff.mpr List.mem_cons_self

/-- Only the books change, apart from the number of free slots. -/
theorem spares_books (s : Stream) (tally : Tally) (free : tally.free = s.tally.free)
    (launched : Nat) (past : List Entry) : Spares s { s with tally, launched, past } where
  producer := rfl
  free := free
  closed := .rfl
  turns := List.Subset.refl _
  consumer := rfl
  queue := rfl

theorem spares_note (s : Stream) (happenings : List Happening) : Spares s (s.note happenings) :=
  spares_books s s.tally rfl s.launched _

theorem spares_cancel (s : Stream) : Spares s s.cancel := by
  unfold cancel
  split
  · exact spares_books s s.tally.cancel rfl s.launched _
  · exact spares_books s s.tally rfl s.launched s.past

theorem spares_call (s : Stream) (turn : Turn) : Spares s (s.call turn) where
  producer := rfl
  free := rfl
  closed := .rfl
  turns := turns_subset_call s turn
  consumer := rfl
  queue := rfl

theorem spares_callAfter (s : Stream) (time : Nat) (turn : Turn) :
    Spares s (s.callAfter time turn) where
  producer := rfl
  free := rfl
  closed := .rfl
  turns := turns_subset_callAfter s time turn
  consumer := rfl
  queue := rfl

/-! ## The consumer -/

theorem spares_hear (consumer : Consumer) (s : Stream) (e : Event) :
    Spares s (hear consumer s e) := by
  unfold hear
  dsimp only
  have heard : Spares s (if consumer.listener.isSome then s.note [.delivered e] else s) := by
    split
    · exact spares_note s _
    · exact spares_books s s.tally rfl s.launched s.past
  split
  · exact heard.trans (spares_cancel _)
  · exact heard

theorem spares_handle (s : Stream) {e : Event} (stays : consumer.departure? e = none) :
    SparesProducer s (handle consumer s e) ∧ (handle consumer s e).consumer = .idle := by
  have heard := spares_hear consumer { s with consumer := .idle } e
  unfold handle
  rw [stays]
  exact ⟨⟨heard.producer, heard.free, heard.closed, heard.turns⟩, heard.consumer⟩

/-- A consumer that leaves takes no more events. -/
theorem departed_deliver (s : Stream) {e : Event} {error : Option RunError}
    (leaves : consumer.departure? e = some error) (items : List (Option Event)) :
    Departed consumer (deliver consumer items (handle consumer s e)) := by
  unfold handle
  rw [leaves]
  exact ⟨_, deliver_of_deserts ⟨e, error, leaves, winds_leave _ error⟩ items⟩

theorem spares_deliver (consumer : Consumer) (items : List (Option Event)) (s : Stream) :
    SparesProducer s (deliver consumer items s) ∨
      Departed consumer (deliver consumer items s) := by
  fun_induction deliver consumer items s with
  | case1 s => exact .inl ⟨rfl, rfl, .rfl, List.Subset.refl _⟩
  | case2 rest s idle => exact .inl ⟨rfl, rfl, .rfl, List.Subset.refl _⟩
  | case3 rest s e idle prompt ih =>
    cases leaves : consumer.departure? e with
    | none => exact ih.imp_left (spares_handle s leaves).1.trans
    | some error => exact .inr (departed_deliver s leaves rest)
  | case4 rest s e idle pauses =>
    have called := spares_callAfter { s with queue := rest, consumer := .busy e } consumer.delay
      .alarm
    exact .inl ⟨called.producer, called.free, called.closed, called.turns⟩
  | case5 item rest s busy => exact .inl ⟨rfl, rfl, .rfl, List.Subset.refl _⟩

/-- A consumer that takes what the queue holds is served afterwards. -/
theorem served_deliver (consumer : Consumer) (items : List (Option Event)) (s : Stream)
    (idle : s.consumer = .idle) :
    (deliver consumer items s).ServesConsumer ∨ Departed consumer (deliver consumer items s) := by
  fun_induction deliver consumer items s with
  | case1 s =>
    unfold ServesConsumer
    rw [idle]
    exact .inl rfl
  | case2 rest s _ => exact .inl trivial
  | case3 rest s e _ prompt ih =>
    cases leaves : consumer.departure? e with
    | none => exact ih (spares_handle s leaves).2
    | some error => exact .inr (departed_deliver s leaves rest)
  | case4 rest s e _ pauses => exact .inl (.inl (mem_turns_callAfter _ _ _))
  | case5 item rest s ends busy =>
    cases item with
    | none => exact (ends idle rfl).elim
    | some e => exact (busy e idle rfl).elim

theorem spares_consume {turns : List Turn} (s : Stream)
    (served : s.consumer.Served s.queue turns) :
    SparesProducer s (consume consumer s) ∨ Departed consumer (consume consumer s) := by
  unfold consume
  split
  · rename_i e busy
    cases leaves : consumer.departure? e with
    | none =>
      exact (spares_deliver consumer _ _).imp_left (spares_handle s leaves).1.trans
    | some error => exact .inr (departed_deliver s leaves _)
  · refine (spares_deliver consumer s.queue { s with consumer := .idle }).imp_left ?_
    exact fun delivered => ⟨delivered.producer, delivered.free, delivered.closed, delivered.turns⟩
  · rename_i error leaving
    rw [leaving] at served
    contradiction
  · exact spares_deliver consumer _ _

/-- After its turn the consumer is served. -/
theorem served_consume {turns : List Turn} (s : Stream)
    (served : s.consumer.Served s.queue turns) :
    (consume consumer s).ServesConsumer ∨ Departed consumer (consume consumer s) := by
  unfold consume
  cases state : s.consumer with
  | idle => exact served_deliver consumer s.queue s state
  | called => exact served_deliver consumer s.queue { s with consumer := .idle } rfl
  | busy e =>
    cases leaves : consumer.departure? e with
    | none => exact served_deliver consumer _ _ (spares_handle s leaves).2
    | some error => exact .inr (departed_deliver s leaves _)
  | joining =>
    have busy : s.consumer ≠ .idle := by rw [state]; nofun
    refine .inl ?_
    simp only [deliver_of_busy busy, ServesConsumer, state, ConsumerState.Served]
  | leaving error | gone error =>
    rw [state] at served
    contradiction

theorem spares_put (s : Stream) (item : Option Event) : SparesProducer s (s.put item) := by
  unfold put
  split
  · have called := spares_call { s with queue := s.queue ++ [item], consumer := .called } .consume
    exact ⟨called.producer, called.free, called.closed, called.turns⟩
  · exact ⟨rfl, rfl, .rfl, List.Subset.refl _⟩

theorem served_put (s : Stream) (item : Option Event) (served : s.ServesConsumer) :
    (s.put item).ServesConsumer := by
  unfold ServesConsumer at served
  unfold put
  cases state : s.consumer with
  | idle => exact ⟨List.append_ne_nil_of_right_ne_nil _ (List.cons_ne_nil _ _),
      self_mem_turns_call _ _⟩
  | called =>
    rw [state] at served
    exact ⟨List.append_ne_nil_of_left_ne_nil served.1 _, served.2⟩
  | busy other =>
    rw [state] at served
    exact served
  | joining => trivial
  | leaving error | gone error =>
    rw [state] at served
    contradiction

/-- If the last task is over, the producer that waits for that is called. -/
theorem served_notify (s : Stream) (other : Prop)
    (served : s.producer.Served s.tally.free other s.turns) : s.notify.ServesProducer := by
  unfold notify
  cases state : s.producer with
  | gathering early cut =>
    split
    · unfold ServesProducer
      rw [show (s.call .gathered).producer = s.producer from rfl, state]
      exact fun _ => self_mem_turns_call _ _
    · rename_i going
      unfold ServesProducer
      rw [state]
      exact fun closed => absurd closed going
  | finished early =>
    have calm {t : Stream} (same : t.producer = s.producer) : t.ServesProducer := by
      unfold ServesProducer
      rw [same, state]
      trivial
    split
    · split
      · exact calm rfl
      · exact calm rfl
      · exact calm rfl
    · exact calm rfl
  | asking | halted =>
    rw [state] at served
    contradiction
  | waiting | blocked | granted =>
    rw [state] at served
    unfold ServesProducer
    split <;> (simp only [state]; exact served)

theorem spares_notify (s : Stream) : SparesConsumer s s.notify := by
  have calls (turn : Turn) : SparesConsumer s (s.call turn) := (spares_call s turn).toSparesConsumer
  unfold notify
  split
  · split
    · exact calls _
    · exact calls _
    · exact ⟨rfl, rfl, List.Subset.refl _⟩
  · exact ⟨rfl, rfl, List.Subset.refl _⟩

/-! ## Launches -/

theorem spares_grant (s : Stream) : SparesConsumer s s.grant := by
  unfold grant
  split
  · rename_i b tally blocked reserved
    have called := spares_call { s with tally, producer := .granted b } .produce
    exact ⟨called.consumer, called.queue, called.turns⟩
  · exact ⟨rfl, rfl, List.Subset.refl _⟩

/-- Once the free slots have been looked through, the producer is served, whatever their number was
before. -/
theorem served_grant (s : Stream) (free : Option Nat)
    (served : s.producer.Served free s.Over s.turns) : s.grant.ServesProducer := by
  unfold grant ServesProducer
  cases state : s.producer with
  | blocked b =>
    cases reserved : s.tally.reserve? with
    | some tally => exact self_mem_turns_call _ _
    | none =>
      simp only [state]
      exact Tally.free_of_reserve? reserved
  | asking | halted =>
    rw [state] at served
    contradiction
  | waiting | granted | gathering | finished =>
    rw [state] at served
    simp only [state]
    exact served

/-- Both the producer and the consumer, who has not left, are served. -/
structure Attended (s : Stream) : Prop where
  producer : s.ServesProducer
  consumer : s.ServesConsumer

theorem Attended.book (attended : s.Attended) (outcome : Tally × List Happening × Option Event) :
    (s.book outcome).Attended := by
  set noted := note { s with tally := outcome.1 } outcome.2.1 with hnoted
  have granted := spares_grant noted
  have producer := served_grant noted s.tally.free attended.producer
  have consumer := granted.served attended.consumer
  unfold Stream.book
  dsimp only
  rw [← hnoted]
  split
  · rename_i e _
    exact ⟨(spares_put noted.grant (some e)).served producer,
      served_put noted.grant (some e) consumer⟩
  · exact ⟨producer, consumer⟩

theorem Attended.conclude (attended : s.Attended) : s.conclude.Attended :=
  ⟨served_notify { s with done := s.done + 1 } s.Over attended.producer,
    (spares_notify { s with done := s.done + 1 }).served attended.consumer⟩

theorem Attended.of_spares (attended : s.Attended) (spares : Spares s t) : t.Attended :=
  ⟨spares.toSparesProducer.served attended.producer,
    spares.toSparesConsumer.served attended.consumer⟩

theorem Attended.finish (attended : s.Attended) (b : Batch) (plan : Plan) :
    (s.finish b plan).Attended := by
  have noted := attended.of_spares (spares_note s (.ended b :: plan.closing.map .remarked))
  unfold Stream.finish
  dsimp only
  split
  · exact ((noted.of_spares (spares_cancel _)).book _).conclude
  · exact (noted.book _).conclude

theorem Attended.start (attended : s.Attended) (launch : Launcher) (b : Batch) :
    (start launch s b).Attended := by
  unfold Stream.start
  dsimp only
  set began : Stream := note { s with launched := s.launched + 1 } _ with hbegan
  have served : began.Attended :=
    attended.of_spares (spares_books s s.tally rfl (s.launched + 1) _)
  split
  · exact served.finish _ _
  · split
    · exact served.of_spares (spares_call _ _)
    · exact served.of_spares (spares_callAfter _ _ _)

/-! ## The producer -/

/-- The producer is over, and the consumer is told. -/
theorem Attended.signOff (consumer : s.ServesConsumer) (early cut : Bool) :
    (s.signOff early cut).Attended := by
  have closed {t : Stream} (consumer : t.ServesConsumer) : (t.retire early).Attended :=
    ⟨served_notify { t with producer := .finished early } True trivial,
      (spares_notify { t with producer := .finished early }).served consumer⟩
  unfold Stream.signOff
  split
  · exact closed consumer
  · exact closed (served_put s none consumer)

/-- A producer that asks for no more does not wait in vain. -/
theorem Attended.close (consumer : s.ServesConsumer) (early : Bool) : (s.close early).Attended := by
  unfold Stream.close
  dsimp only
  split
  · exact Attended.signOff (s := { s with producer := .gathering early false }) consumer early false
  · rename_i busy
    refine ⟨?_, (spares_notify { s with producer := .gathering early false }).served consumer⟩
    by_cases closed : s.Over
    · have called : notify { s with producer := .gathering early false } =
          call { s with producer := .gathering early false } .gathered := if_pos closed
      rw [called]
      exact fun _ => self_mem_turns_call _ _
    · exact served_notify { s with producer := .gathering early false } s.Over
        fun own => absurd own closed

theorem served_admitBatch (s : Stream) (b : Batch) (consumer : s.ServesConsumer) :
    (s.admitBatch b).ServesConsumer := by
  unfold admitBatch
  set counted : Stream :=
    { s with tally := s.tally.count, tasks := s.tasks + 1, producer := .asking }
  have called := spares_call (counted.note [.admitted b s.tally.count.active]) (.start b)
  exact SparesConsumer.served (s := s) ⟨called.consumer, called.queue, called.turns⟩ consumer

/-- A producer that has got a batch goes on asking, or it is served. -/
theorem served_receive (s : Stream) (b : Batch) (consumer : s.ServesConsumer) :
    (s.receive b).ServesConsumer ∧
      ((s.receive b).producer = .asking ∨ (s.receive b).ServesProducer) := by
  simp only [receive]
  split
  · have closed : ((s.note [.received b]).refuse b).Attended :=
      Attended.close (s := (s.note [.received b]).note [.refused b]) consumer true
    exact ⟨closed.consumer, .inr closed.producer⟩
  · split
    · rename_i tally reserved
      exact ⟨served_admitBatch { s.note [.received b] with tally } b consumer, .inl rfl⟩
    · rename_i full
      exact ⟨consumer, .inr (Tally.free_of_reserve? full)⟩

/-- A producer that has asked is served. -/
theorem Attended.pull (detour : Bool) (items : List FeedItem) (s : Stream)
    (consumer : s.ServesConsumer) : (pull detour items s).Attended := by
  fun_induction Stream.pull detour items s with
  | case1 s noted =>
    have called := spares_call { noted with feed := [], producer := .waiting } .handOver
    exact ⟨.inl (self_mem_turns_call _ _), called.toSparesConsumer.served consumer⟩
  | case2 s noted => exact Attended.close (s := { noted with feed := [] }) consumer false
  | case3 item rest s noted asked delayed =>
    have called := spares_callAfter asked item.delay .handOver
    exact ⟨.inl (mem_turns_callAfter _ _ _), called.toSparesConsumer.served consumer⟩
  | case4 item rest s noted asked =>
    have called := spares_call asked .handOver
    exact ⟨.inl (self_mem_turns_call _ _), called.toSparesConsumer.served consumer⟩
  | case5 item rest s noted prompt direct received again ih =>
    exact ih (served_receive { noted with feed := rest } item.batch consumer).1
  | case6 item rest s noted prompt direct received stays =>
    obtain ⟨consumer, producer⟩ := served_receive { noted with feed := rest } item.batch consumer
    exact ⟨producer.resolve_left stays, consumer⟩

theorem served_take (s : Stream)
    (producer : s.producer.Served s.tally.free s.Over (.produce :: s.turns))
    (consumer : s.ServesConsumer) :
    s.take.ServesConsumer ∧ (s.take.producer = .asking ∨ s.take.ServesProducer) := by
  cases state : s.producer with
  | waiting =>
    cases left : s.feed with
    | nil =>
      have closed := Attended.close consumer false
      simp only [take, state, left]
      exact ⟨closed.consumer, .inr closed.producer⟩
    | cons item rest =>
      simp only [take, state, left]
      exact served_receive { s with feed := rest } item.batch consumer
  | granted b =>
    simp only [take, state]
    split
    · have closed : (refuse { s with tally := s.tally.giveBack } b).Attended :=
        Attended.close (s := note { s with tally := s.tally.giveBack } [.refused b]) consumer true
      exact ⟨closed.consumer, .inr closed.producer⟩
    · exact ⟨served_admitBatch s b consumer, .inl rfl⟩
  | asking | halted =>
    rw [state] at producer
    contradiction
  | blocked | finished =>
    rw [state] at producer
    simp only [take, state, ServesProducer]
    exact ⟨consumer, .inr producer⟩
  | gathering early cut =>
    rw [state] at producer
    simp only [take, state, ServesProducer]
    refine ⟨consumer, .inr fun closed => ?_⟩
    exact (List.mem_cons.mp (producer closed)).resolve_left (by rintro ⟨⟩)

theorem Attended.produce (detour : Bool)
    (producer : s.producer.Served s.tally.free s.Over (.produce :: s.turns))
    (consumer : s.ServesConsumer) : (s.produce detour).Attended := by
  obtain ⟨consumer, producer⟩ := served_take s producer consumer
  simp only [Stream.produce]
  split
  · exact Attended.pull _ _ _ consumer
  · rename_i settled
    exact ⟨producer.resolve_left settled, consumer⟩

theorem Attended.gather (producer : s.producer.Served s.tally.free s.Over (.gathered :: s.turns))
    (consumer : s.ServesConsumer) : s.gather.Attended := by
  unfold Stream.gather
  split
  · exact Attended.signOff consumer _ _
  · rename_i other
    refine ⟨?_, consumer⟩
    unfold ServesProducer
    cases state : s.producer with
    | gathering early cut => exact absurd state (other early cut)
    | waiting =>
      rw [state] at producer
      have waits : .handOver ∈ Turn.gathered :: s.turns ∨ .produce ∈ Turn.gathered :: s.turns :=
        producer
      simpa [ProducerState.Served] using waits
    | granted b =>
      rw [state] at producer
      exact (List.mem_cons.mp producer).resolve_left nofun
    | asking | halted | blocked | finished =>
      rw [state] at producer
      exact producer

/-! ## Turns -/

/-- Only in its own turn the consumer leaves. -/
theorem Attended.act_of_ne (detour : Bool) {turn : Turn} {rest : List Turn}
    (ready : s.ready = turn :: rest) (attended : s.Attended) (other : turn ≠ .consume) :
    (act consumer launch detour { s with ready := rest } turn).Attended := by
  have split : s.turns = turn :: turns { s with ready := rest } := by
    simp only [Stream.turns, ready, List.cons_append]
  obtain ⟨producer, consumer⟩ := attended
  unfold ServesProducer at producer
  unfold ServesConsumer at consumer
  rw [split] at producer consumer
  clear split
  set q : Stream := { s with ready := rest } with hq
  cases turn with
  | cancel =>
    have attended : q.Attended := ⟨producer.of_cons rfl, consumer.of_cons rfl⟩
    exact attended.of_spares (spares_cancel q)
  | handOver =>
    exact ⟨producer.of_handOver (turns_subset_call q .produce) (self_mem_turns_call q .produce),
      (spares_call q .produce).toSparesConsumer.served (consumer.of_cons rfl)⟩
  | produce => exact Attended.produce detour producer (consumer.of_cons rfl)
  | start b =>
    have attended : q.Attended := ⟨producer.of_cons rfl, consumer.of_cons rfl⟩
    exact attended.start launch b
  | relay b plan turns =>
    have attended : q.Attended := ⟨producer.of_cons rfl, consumer.of_cons rfl⟩
    cases turns with
    | zero => exact attended.finish b plan
    | succ turns => exact attended.of_spares (spares_call q _)
  | abort b time =>
    have attended : q.Attended := ⟨producer.of_cons rfl, consumer.of_cons rfl⟩
    cases time with
    | zero => exact attended.conclude
    | succ time => exact attended.of_spares (spares_callAfter q _ _)
  | gathered => exact Attended.gather producer (consumer.of_cons rfl)
  | alarm =>
    exact ⟨(spares_call q .consume).toSparesProducer.served (producer.of_cons rfl),
      consumer.of_consume (self_mem_turns_call q .consume)⟩
  | consume => exact absurd rfl other

theorem Attended.act (detour : Bool) {turn : Turn} {rest : List Turn}
    (ready : s.ready = turn :: rest) (attended : s.Attended) :
    (act consumer launch detour { s with ready := rest } turn).Attended ∨
      Departed consumer (Stream.act consumer launch detour { s with ready := rest } turn) := by
  by_cases own : turn = .consume
  · have split : s.turns = turn :: turns { s with ready := rest } := by
      simp only [Stream.turns, ready, List.cons_append]
    obtain ⟨producer, consumer⟩ := attended
    unfold ServesProducer at producer
    unfold ServesConsumer at consumer
    rw [split, own] at producer consumer
    rw [own]
    rcases spares_consume { s with ready := rest } consumer with spared | departed
    · exact (served_consume { s with ready := rest } consumer).imp_left
        (⟨spared.served (producer.of_cons rfl), ·⟩)
    · exact .inr departed
  · exact .inl (attended.act_of_ne detour ready own)

theorem Attended.round (attended : s.Attended) (rested : s.ready = []) (now : Nat) :
    (s.round now).Attended := by
  refine ⟨?_, ?_⟩
  · unfold ServesProducer
    rw [turns_round now rested]
    exact attended.producer
  · unfold ServesConsumer
    rw [turns_round now rested]
    exact attended.consumer

/-- **Whatever comes next, everybody is served, unless the consumer leaves.** -/
theorem Attended.of_next? {detour : Bool} (attended : s.Attended)
    (next : next? consumer launch detour s = some t) : t.Attended ∨ Departed consumer t := by
  unfold next? at next
  split at next
  · contradiction
  · split at next
    · rename_i turn rest ready
      cases next
      exact attended.act detour ready
    · contradiction
    · rename_i ready _ _
      cases next
      exact .inl (attended.round ready _)
    · rename_i ready _ _
      cases next
      exact .inl (attended.round ready _)

end Stream

end BatchExec
