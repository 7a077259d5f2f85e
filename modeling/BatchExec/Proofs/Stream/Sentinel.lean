import BatchExec.Proofs.Stream.Service

/-!
# The end of the events

That there are no more events is said through the queue, by a producer that has waited for all
launches. It is the last thing in the queue: whoever takes it has taken every event, and nothing is
under way any more.

* `ConsumerState.Hears`: what the queue may hold.
* `Stream.Sealed`: nothing comes after the end of the events, and it comes after all launches.
* `Stream.Sealed.of_next?`: **this is so whatever comes next, unless the consumer leaves.**
* `Stream.Sealed.rests`: **when nothing comes next, all events are taken and nothing is under way.**
-/

namespace BatchExec

/-- The queue of a consumer holds events, behind which stands that there are no more if the producer
is over; a consumer that has taken that waits for nothing else. -/
def ConsumerState.Hears (closed : Bool) (queue : List (Option Event)) : ConsumerState → Prop
  | .joining => closed = true ∧ queue = []
  | _ => ∃ events : List Event, queue = events.map some ++ if closed then [none] else []

theorem ConsumerState.Hears.of_ne {c : ConsumerState} {closed : Bool} {queue : List (Option Event)}
    (hears : c.Hears closed queue) (waits : c ≠ .joining) :
    ∃ events : List Event, queue = events.map some ++ if closed then [none] else [] := by
  cases c with
  | joining => exact absurd rfl waits
  | _ => exact hears

theorem ConsumerState.hears_of_ne {c : ConsumerState} {closed : Bool} {queue : List (Option Event)}
    (waits : c ≠ .joining) (events : List Event)
    (holds : queue = events.map some ++ if closed then [none] else []) : c.Hears closed queue := by
  cases c with
  | joining => exact absurd rfl waits
  | _ => exact ⟨events, holds⟩

namespace Stream

variable {consumer : Consumer} {launch : Launcher} {s t : Stream}

/-- The producer is over only when all launches are, and what it says is the last thing in the
queue. -/
structure Sealed (s : Stream) : Prop where
  sane : s.done ≤ s.tasks
  gathered : .gathered ∈ s.turns → s.Over ∧ s.producer.isOff = true
  closed : s.producer.isFinished = true → s.Over
  queue : s.consumer.Hears s.producer.isFinished s.queue

/-- The producer is not over and is not called for that, and the queue holds events only. -/
structure Open (s : Stream) : Prop where
  sane : s.done ≤ s.tasks
  turns : .gathered ∉ s.turns
  producer : s.producer.isFinished = false
  consumer : s.consumer ≠ .joining
  queue : ∃ events : List Event, s.queue = events.map some

theorem Open.sealed (opened : s.Open) : s.Sealed where
  sane := opened.sane
  gathered := fun mem => absurd mem opened.turns
  closed := fun closed => absurd (opened.producer.symm.trans closed) Bool.false_ne_true
  queue := by
    obtain ⟨events, holds⟩ := opened.queue
    rw [opened.producer]
    exact ConsumerState.hears_of_ne opened.consumer events (by simpa using holds)

theorem Sealed.queue_of_going (sealed : s.Sealed) (going : s.producer.isFinished = false) :
    s.consumer ≠ .joining ∧ ∃ events : List Event, s.queue = events.map some := by
  have hears := sealed.queue
  rw [going] at hears
  have waits : s.consumer ≠ .joining := by
    intro joining
    rw [joining] at hears
    exact Bool.false_ne_true hears.1
  exact ⟨waits, by simpa using hears.of_ne waits⟩

/-- As long as some task is not over, neither is the producer. -/
theorem Sealed.open_of_going (sealed : s.Sealed) (going : ¬ s.Over) : s.Open := by
  have asks : s.producer.isFinished = false :=
    eq_false_of_ne_true fun closed => going (sealed.closed closed)
  obtain ⟨waits, events⟩ := sealed.queue_of_going asks
  exact ⟨sealed.sane, fun mem => going (sealed.gathered mem).1, asks, waits, events⟩

theorem Sealed.open_of_asking (sealed : s.Sealed) (asks : s.producer.isOff = false) : s.Open := by
  have going : s.producer.isFinished = false := by
    cases state : s.producer with
    | finished => simp [state, ProducerState.isOff] at asks
    | _ => rfl
  obtain ⟨waits, events⟩ := sealed.queue_of_going going
  refine ⟨sealed.sane, fun mem => ?_, going, waits, events⟩
  exact Bool.false_ne_true (asks.symm.trans (sealed.gathered mem).2)

/-! ## Turns that are called -/

theorem Sealed.of_same (sealed : s.Sealed) (tasks : t.done = s.done ∧ t.tasks = s.tasks)
    (producer : t.producer = s.producer) (consumer : t.consumer = s.consumer)
    (queue : t.queue = s.queue) (turns : .gathered ∈ t.turns → .gathered ∈ s.turns) : t.Sealed := by
  have closed : t.Over ↔ s.Over := by simp only [Over, tasks]
  refine ⟨by rw [tasks.1, tasks.2]; exact sealed.sane, ?_, ?_, ?_⟩
  · rw [closed, producer]
    exact fun mem => sealed.gathered (turns mem)
  · rw [closed, producer]
    exact sealed.closed
  · rw [consumer, producer, queue]
    exact sealed.queue

theorem Sealed.call (sealed : s.Sealed) {turn : Turn} (other : turn ≠ .gathered) :
    (s.call turn).Sealed :=
  sealed.of_same ⟨rfl, rfl⟩ rfl rfl rfl fun mem => (mem_turns_call.mp mem).resolve_left other.symm

theorem Sealed.callAfter (sealed : s.Sealed) (time : Nat) {turn : Turn} (other : turn ≠ .gathered) :
    (s.callAfter time turn).Sealed :=
  sealed.of_same ⟨rfl, rfl⟩ rfl rfl rfl fun mem =>
    (List.mem_cons.mp ((turns_callAfter s time turn).mem_iff.mp mem)).resolve_left other.symm

theorem Open.call (opened : s.Open) {turn : Turn} (other : turn ≠ .gathered) :
    (s.call turn).Open :=
  { opened with turns := fun mem => opened.turns ((mem_turns_call.mp mem).resolve_left other.symm) }

theorem Open.callAfter (opened : s.Open) (time : Nat) {turn : Turn} (other : turn ≠ .gathered) :
    (s.callAfter time turn).Open := by
  refine { opened with turns := fun mem => opened.turns ?_ }
  exact (List.mem_cons.mp ((turns_callAfter s time turn).mem_iff.mp mem)).resolve_left other.symm

theorem Open.cancel (opened : s.Open) : s.cancel.Open := by
  unfold Stream.cancel
  split
  · exact { opened with }
  · exact opened

theorem Sealed.cancel (sealed : s.Sealed) : s.cancel.Sealed := by
  unfold Stream.cancel
  split
  · exact sealed.of_same ⟨rfl, rfl⟩ rfl rfl rfl id
  · exact sealed

/-- When the last task is over, the producer may be called for that. -/
theorem Open.notify (opened : s.Open) : s.notify.Sealed := by
  unfold Stream.notify
  split
  · rename_i closed
    split
    · rename_i gathers
      have off : s.producer.isOff = true := by
        rw [gathers]
        rfl
      exact ⟨opened.sane, fun _ => ⟨closed, off⟩, opened.sealed.closed, opened.sealed.queue⟩
    · exact opened.sealed.call nofun
    · exact opened.sealed
  · exact opened.sealed

/-! ## The consumer -/

/-- Hearing of an event may cancel the run. -/
theorem hear_same (consumer : Consumer) (s : Stream) (e : Event) :
    ∃ tally past, hear consumer s e = { s with tally, past } := by
  have cancelled (s : Stream) : ∃ tally past, s.cancel = { s with tally, past } := by
    unfold cancel
    split <;> exact ⟨_, _, rfl⟩
  unfold hear
  dsimp only
  split <;> split
  · exact cancelled (s.note [.delivered e])
  · exact cancelled s
  · exact ⟨_, _, rfl⟩
  · exact ⟨_, _, rfl⟩

/-- What the consumer waits for and what the queue holds have changed, and the books. -/
theorem Sealed.attend (sealed : s.Sealed) {c : ConsumerState} {queue : List (Option Event)}
    (hears : c.Hears s.producer.isFinished queue) (tally : Tally) (past : List Entry) :
    Sealed { s with consumer := c, queue, tally, past } :=
  ⟨sealed.sane, sealed.gathered, sealed.closed, hears⟩

/-- Once the first event is taken, the queue holds the others. -/
theorem hears_rest {closed : Bool} {e : Event} {rest : List (Option Event)} {c : ConsumerState}
    (waits : c ≠ .joining) (hears : ConsumerState.Hears closed (some e :: rest) .idle) :
    c.Hears closed rest := by
  obtain ⟨events, holds⟩ := hears
  cases events with
  | nil => cases closed <;> exact nomatch holds
  | cons e' events => exact ConsumerState.hears_of_ne waits events (List.cons.inj holds).2

/-- The end of the events is the last thing in the queue. -/
theorem ends_of_none {closed : Bool} {rest : List (Option Event)}
    (hears : ConsumerState.Hears closed (none :: rest) .idle) : closed = true ∧ rest = [] := by
  obtain ⟨events, holds⟩ := hears
  cases events with
  | nil =>
    cases closed
    · exact nomatch holds
    · exact ⟨rfl, (List.cons.inj holds).2⟩
  | cons e events => exact nomatch (List.cons.inj holds).1

/-- A consumer that takes what the queue holds takes the end of the events last. -/
theorem sealed_deliver (items : List (Option Event)) (s : Stream) (idle : s.consumer = .idle)
    (sealed : Sealed { s with queue := items }) :
    (deliver consumer items s).Sealed ∨ Departed consumer (deliver consumer items s) := by
  have hears : s.consumer.Hears s.producer.isFinished items := sealed.queue
  rw [idle] at hears
  fun_induction deliver consumer items s with
  | case1 s => exact .inl sealed
  | case2 rest s _ =>
    have joins : ConsumerState.Hears s.producer.isFinished rest .joining := ends_of_none hears
    exact .inl (sealed.attend joins s.tally s.past)
  | case3 rest s e _ prompt ih =>
    cases leaves : consumer.departure? e with
    | some error => exact .inr (departed_deliver s leaves rest)
    | none =>
      obtain ⟨tally, past, heard⟩ := hear_same consumer { s with consumer := .idle } e
      have handled : handle consumer s e = { s with consumer := .idle, tally, past } := by
        rw [handle, leaves, heard]
      rw [handled] at ih ⊢
      have later : ConsumerState.Hears s.producer.isFinished rest .idle :=
        hears_rest (by rintro ⟨⟩) hears
      exact ih rfl (sealed.attend later tally past) later
  | case4 rest s e _ pauses =>
    have later : ConsumerState.Hears s.producer.isFinished rest (.busy e) :=
      hears_rest (by rintro ⟨⟩) hears
    exact .inl ((sealed.attend later s.tally s.past).callAfter consumer.delay (by rintro ⟨⟩))
  | case5 item rest s ends busy =>
    cases item with
    | none => exact (ends idle rfl).elim
    | some e => exact (busy e idle rfl).elim

theorem sealed_consume {turns : List Turn} (attended : s.consumer.Served s.queue turns)
    (sealed : s.Sealed) :
    (consume consumer s).Sealed ∨ Departed consumer (consume consumer s) := by
  have hears := sealed.queue
  unfold consume
  cases state : s.consumer with
  | idle => exact sealed_deliver s.queue s state sealed
  | called =>
    rw [state] at hears
    exact sealed_deliver s.queue { s with consumer := .idle } rfl
      (sealed.attend (c := .idle) hears s.tally s.past)
  | busy e =>
    rw [state] at hears
    cases leaves : consumer.departure? e with
    | some error => exact .inr (departed_deliver s leaves _)
    | none =>
      obtain ⟨tally, past, heard⟩ := hear_same consumer { s with consumer := .idle } e
      have handled : handle consumer s e = { s with consumer := .idle, tally, past } := by
        rw [handle, leaves, heard]
      simp only [handled]
      exact sealed_deliver s.queue { s with consumer := .idle, tally, past } rfl
        (sealed.attend (c := .idle) hears tally past)
  | joining =>
    have busy : s.consumer ≠ .idle := by rw [state]; nofun
    simp only [deliver_of_busy busy]
    exact .inl sealed
  | leaving error | gone error =>
    rw [state] at attended
    contradiction

/-! ## Launches -/

theorem Open.put (opened : s.Open) (e : Event) : (s.put (some e)).Open := by
  obtain ⟨events, holds⟩ := opened.queue
  have longer : ∃ events : List Event, s.queue ++ [some e] = events.map some :=
    ⟨events ++ [e], by rw [holds, List.map_append]; rfl⟩
  unfold Stream.put
  split
  · exact Open.call (s := { s with queue := s.queue ++ [some e], consumer := .called })
      { opened with consumer := nofun, queue := longer } nofun
  · exact { opened with queue := longer }

theorem Open.grant (opened : s.Open) : s.grant.Open := by
  unfold Stream.grant
  split
  · rename_i b tally _ _
    exact Open.call (s := { s with tally, producer := .granted b })
      { opened with producer := rfl } nofun
  · exact opened

theorem Open.book (opened : s.Open) (outcome : Tally × List Happening × Option Event) :
    (s.book outcome).Open := by
  have noted : (note { s with tally := outcome.1 } outcome.2.1).Open := { opened with }
  unfold Stream.book
  dsimp only
  split
  · exact noted.grant.put _
  · exact noted.grant

theorem done_book_eq (s : Stream) (outcome : Tally × List Happening × Option Event) :
    (s.book outcome).done = s.done ∧ (s.book outcome).tasks = s.tasks := by
  have granted (s : Stream) : s.grant.done = s.done ∧ s.grant.tasks = s.tasks := by
    unfold Stream.grant
    split <;> exact ⟨rfl, rfl⟩
  have put (s : Stream) (item : Option Event) :
      (s.put item).done = s.done ∧ (s.put item).tasks = s.tasks := by
    unfold Stream.put
    split <;> exact ⟨rfl, rfl⟩
  unfold Stream.book
  dsimp only
  split
  · rw [(put _ _).1, (put _ _).2]
    exact granted _
  · exact granted _

/-- The task of a launch that ends is not over yet. -/
theorem Open.finish (opened : s.Open) (active : s.done < s.tasks) (b : Batch) (plan : Plan) :
    (s.finish b plan).Sealed := by
  have noted : (s.note (.ended b :: plan.closing.map .remarked)).Open := { opened with }
  have concludes {s : Stream} (opened : s.Open) (active : s.done < s.tasks)
      (outcome : Tally × List Happening × Option Event) : (s.book outcome).conclude.Sealed := by
    obtain ⟨done, tasks⟩ := done_book_eq s outcome
    have booked := opened.book outcome
    exact Open.notify (s := { s.book outcome with done := (s.book outcome).done + 1 })
      { booked with sane := by rw [done, tasks]; exact active }
  have busy : (s.note (.ended b :: plan.closing.map .remarked)).cancel.done <
      (s.note (.ended b :: plan.closing.map .remarked)).cancel.tasks := by
    unfold Stream.cancel
    split <;> exact active
  unfold Stream.finish
  dsimp only
  split
  · exact concludes noted.cancel busy _
  · exact concludes noted active _

theorem Open.start (opened : s.Open) (active : s.done < s.tasks) (launch : Launcher) (b : Batch) :
    (start launch s b).Sealed := by
  unfold Stream.start
  dsimp only
  set began : Stream := note { s with launched := s.launched + 1 } _
  have opened : began.Open := { opened with }
  split
  · exact opened.finish active _ _
  · split
    · exact Open.sealed (opened.call nofun)
    · exact Open.sealed (opened.callAfter _ nofun)

/-! ## The producer -/

/-- The producer says that there are no more events, and is over. -/
theorem Sealed.signOff (sealed : s.Sealed) (closed : s.Over) (asks : s.producer.isFinished = false)
    (early : Bool) : (s.signOff early false).Sealed := by
  obtain ⟨waits, events, holds⟩ := sealed.queue_of_going asks
  have put : Sealed { s.put none with producer := .finished early } := by
    have longer : s.queue ++ [none] = events.map some ++ [none] := congrArg (· ++ [none]) holds
    unfold Stream.put
    split
    · exact ⟨sealed.sane, fun mem => ⟨closed, rfl⟩, fun _ => closed, events, longer⟩
    · exact ⟨sealed.sane, fun mem => ⟨closed, rfl⟩, fun _ => closed,
        ConsumerState.hears_of_ne waits events longer⟩
  simp only [Stream.signOff, Bool.false_eq_true, if_false, retire]
  unfold Stream.notify
  split
  · split
    · contradiction
    · exact put.call (by rintro ⟨⟩)
    · exact put
  · exact put

/-- A producer that asks for no more is over only when all launches are. -/
theorem Open.close (opened : s.Open) (early : Bool) : (s.close early).Sealed := by
  have gathering : Open { s with producer := .gathering early false } :=
    { opened with producer := rfl }
  unfold Stream.close
  dsimp only
  split
  · rename_i none
    have closed : s.done = s.tasks := Nat.le_antisymm opened.sane (none ▸ Nat.zero_le _)
    exact gathering.sealed.signOff closed rfl early
  · exact gathering.notify

theorem Open.admitBatch (opened : s.Open) (b : Batch) : (s.admitBatch b).Open := by
  unfold Stream.admitBatch
  exact Open.call (s := note { s with tally := s.tally.count, tasks := s.tasks + 1
                                      producer := .asking } [.admitted b s.tally.count.active])
    { opened with sane := Nat.le_succ_of_le opened.sane, producer := rfl } nofun

theorem Open.receive (opened : s.Open) (b : Batch) : (s.receive b).Sealed := by
  simp only [Stream.receive]
  split
  · exact Open.close (s := (s.note [.received b]).note [.refused b]) { opened with } true
  · split
    · rename_i tally _
      exact (Open.admitBatch (s := { s.note [.received b] with tally }) { opened with } b).sealed
    · exact (Open.sealed (s := { s.note [.received b] with producer := .blocked b })
        { opened with producer := rfl })

theorem Open.pull (detour : Bool) (items : List FeedItem) (s : Stream) (opened : s.Open) :
    (pull detour items s).Sealed := by
  fun_induction Stream.pull detour items s with
  | case1 s noted =>
    have asked : Open { noted with feed := [], producer := .waiting } :=
      { opened with producer := rfl }
    exact Open.sealed (asked.call (by rintro ⟨⟩))
  | case2 s noted => exact Open.close (s := { noted with feed := [] }) { opened with } false
  | case3 item rest s noted asked delayed =>
    have waits : asked.Open := { opened with producer := rfl }
    exact Open.sealed (waits.callAfter item.delay (by rintro ⟨⟩))
  | case4 item rest s noted asked =>
    have waits : asked.Open := { opened with producer := rfl }
    exact Open.sealed (waits.call (by rintro ⟨⟩))
  | case5 item rest s noted prompt direct received again ih =>
    have got : received.Sealed :=
      Open.receive (s := { noted with feed := rest }) { opened with } item.batch
    exact ih (got.open_of_asking (by rw [again]; rfl))
  | case6 item rest s noted prompt direct received stays =>
    exact Open.receive (s := { noted with feed := rest }) { opened with } item.batch

theorem Sealed.take (sealed : s.Sealed) (going : s.producer.isCut = false) : s.take.Sealed := by
  unfold Stream.take
  split
  · rename_i waits _
    exact (sealed.open_of_asking (by rw [waits]; rfl)).close false
  · rename_i item rest waits _
    have opened := sealed.open_of_asking (by rw [waits]; rfl)
    exact Open.receive (s := { s with feed := rest }) { opened with } item.batch
  · rename_i b granted
    have opened := sealed.open_of_asking (by rw [granted]; rfl)
    split
    · exact Open.close (s := note { s with tally := s.tally.giveBack } [.refused b])
        { opened with } true
    · exact (opened.admitBatch b).sealed
  · rename_i slot halted
    rw [halted] at going
    exact absurd going.symm Bool.false_ne_true
  · exact sealed

theorem Sealed.produce (sealed : s.Sealed) (going : s.producer.isCut = false) (detour : Bool) :
    (s.produce detour).Sealed := by
  have taken := sealed.take going
  simp only [Stream.produce]
  split
  · rename_i asks
    exact Open.pull _ _ _ (taken.open_of_asking (by rw [asks]; rfl))
  · exact taken

/-! ## Turns -/

variable {rules : Rules} {all : List Batch}

/-- A launch whose turn it is has a task that is not over. -/
theorem done_lt_of_turn {turn : Turn} {rest : List Turn} (ready : s.ready = turn :: rest)
    (own : turn.start?.isSome = true ∨ turn.flight?.isSome = true) (steady : s.Steady rules)
    (sound : s.roster.Sound rules all) : s.done < s.tasks := by
  have same := roster_ready ready
  have active : 0 < s.roster.active := by
    rcases own with starts | flies
    · obtain ⟨b, starts⟩ := Option.isSome_iff_exists.mp starts
      refine sound.active_pos_of_waiting (b := b) ?_
      rw [same, starts]
      exact List.mem_cons_self
    · obtain ⟨f, flies⟩ := Option.isSome_iff_exists.mp flies
      refine sound.active_pos_of_running (f := f) ?_
      rw [same, flies]
      exact Multiset.mem_add.mpr (.inl (Multiset.mem_singleton_self f))
  have tasks := steady.tasks
  have active : 0 < s.tally.active := Int.natCast_pos.mp active
  omega

theorem Sealed.act (detour : Bool) {turn : Turn} {rest : List Turn}
    (ready : s.ready = turn :: rest) (attended : s.Attended) (steady : s.Steady rules)
    (sound : s.roster.Sound rules all) (sealed : s.Sealed) :
    (act consumer launch detour { s with ready := rest } turn).Sealed ∨
      Departed consumer (Stream.act consumer launch detour { s with ready := rest } turn) := by
  have split : s.turns = turn :: turns { s with ready := rest } := by
    simp only [Stream.turns, ready, List.cons_append]
  set q : Stream := { s with ready := rest } with hq
  have later : q.Sealed := sealed.of_same ⟨rfl, rfl⟩ rfl rfl rfl fun mem =>
    split ▸ List.mem_cons_of_mem _ mem
  have busy (own : turn.start?.isSome = true ∨ turn.flight?.isSome = true) :
      q.Open ∧ q.done < q.tasks := by
    have going := done_lt_of_turn ready own steady sound
    exact ⟨later.open_of_going (Nat.ne_of_lt going), going⟩
  cases turn with
  | cancel => exact .inl later.cancel
  | handOver | alarm => exact .inl (later.call (by rintro ⟨⟩))
  | produce => exact .inl (later.produce steady.going detour)
  | start b =>
    obtain ⟨opened, going⟩ := busy (.inl rfl)
    exact .inl (opened.start going launch b)
  | relay b plan turns =>
    obtain ⟨opened, going⟩ := busy (.inr rfl)
    cases turns with
    | zero => exact .inl (opened.finish going b plan)
    | succ turns => exact .inl (later.call (by rintro ⟨⟩))
  | abort b time => exact (steady.rest ready).1.elim
  | gathered =>
    have closed : q.Over := (sealed.gathered (split ▸ List.mem_cons_self)).1
    refine .inl ?_
    show q.gather.Sealed
    unfold Stream.gather
    split
    · rename_i early cut gathers
      have whole : cut = false := by
        have going : q.producer.isCut = false := steady.going
        rw [gathers] at going
        cases cut
        · rfl
        · exact absurd going.symm Bool.false_ne_true
      rw [whole]
      exact later.signOff closed (by rw [gathers]; rfl) early
    · exact later
  | consume => exact sealed_consume attended.consumer later

/-- **Whatever comes next, the end of the events comes after all of them and after all launches,
unless the consumer leaves.** -/
theorem Sealed.of_next? {detour : Bool} (sealed : s.Sealed) (attended : s.Attended)
    (steady : s.Steady rules) (sound : s.roster.Sound rules all)
    (next : next? consumer launch detour s = some t) : t.Sealed ∨ Departed consumer t := by
  unfold next? at next
  split at next
  · contradiction
  · split at next
    · rename_i turn rest ready
      cases next
      exact sealed.act detour ready attended steady sound
    · contradiction
    all_goals
      rename_i ready _ _
      cases next
      exact .inl (sealed.of_same ⟨rfl, rfl⟩ rfl rfl rfl fun mem => turns_round _ ready ▸ mem)

/-! ## Rest -/

/-- When nobody has a turn, the consumer knows that there are no more events, and the producer is
over: all slots are free, and a producer that waits for one has got one. -/
theorem Sealed.joined_of_idle (sealed : s.Sealed) (attended : s.Attended)
    (positive : rules.bound ≠ some 0) (steady : s.Steady rules) (sound : s.roster.Sound rules all)
    (idle : s.turns = []) : s.consumer = .joining ∧ s.producer.isFinished = true := by
  have active := sound.active
  change (s.tally.active : Int) = _ at active
  have near : s.ready ++ s.upcoming = [] := (List.append_eq_nil_iff.mp idle).1
  have still : s.roster.waiting = [] ∧ s.roster.running = 0 := by simp [roster, idle, near]
  rw [still.1, still.2] at active
  have none : s.tally.active = 0 := by simpa using active
  have closed : s.Over := by
    have tasks := steady.tasks
    rw [none] at tasks
    exact tasks.symm
  have producer := attended.producer
  have consumer := attended.consumer
  unfold ServesProducer at producer
  unfold ServesConsumer at consumer
  rw [idle] at producer consumer
  have finished : s.producer.isFinished = true := by
    cases state : s.producer with
    | finished early => rfl
    | blocked b =>
      have slots := steady.slots
      rw [state] at producer slots
      rw [producer, none] at slots
      exact absurd slots.symm positive
    | gathering early cut =>
      rw [state] at producer
      exact absurd (producer closed) List.not_mem_nil
    | _ =>
      rw [state] at producer
      simp [ProducerState.Served] at producer
  refine ⟨?_, finished⟩
  have hears := sealed.queue
  rw [finished] at hears
  cases state : s.consumer with
  | joining => rfl
  | idle =>
    rw [state] at consumer hears
    obtain ⟨events, holds⟩ := hears
    rw [show s.queue = [] from consumer] at holds
    simp at holds
  | _ =>
    rw [state] at consumer
    simp [ConsumerState.Served] at consumer

theorem Sealed.joined_of_halted {detour : Bool} (sealed : s.Sealed) (attended : s.Attended)
    (positive : rules.bound ≠ some 0) (steady : s.Steady rules) (sound : s.roster.Sound rules all)
    (halted : next? consumer launch detour s = none) :
    s.consumer = .joining ∧ s.producer.isFinished = true := by
  unfold next? at halted
  split at halted
  · rename_i ended
    unfold isOver at ended
    split at ended
    · rename_i error gone
      have served := attended.consumer
      unfold ServesConsumer at served
      rw [gone] at served
      contradiction
    · rename_i joining
      exact ⟨joining, ended⟩
    · contradiction
  · split at halted
    · contradiction
    · rename_i ready upcoming timers
      exact sealed.joined_of_idle attended positive steady sound
        (by simp [Stream.turns, ready, upcoming, timers])
    · contradiction
    · contradiction

/-- **When nothing comes next, all events are taken and nothing is under way.** -/
theorem Sealed.rests {detour : Bool} (sealed : s.Sealed) (attended : s.Attended)
    (positive : rules.bound ≠ some 0) (steady : s.Steady rules) (sound : s.roster.Sound rules all)
    (halted : next? consumer launch detour s = none) :
    s.consumer = .joining ∧ s.queue = [] ∧ s.Over ∧ s.roster.Rests := by
  obtain ⟨joining, finished⟩ := sealed.joined_of_halted attended positive steady sound halted
  have closed := sealed.closed finished
  have hears := sealed.queue
  rw [joining] at hears
  refine ⟨joining, hears.2, closed, ?_⟩
  have tasks := steady.tasks
  have done : s.done = s.tasks := closed
  have active := sound.active
  change (s.tally.active : Int) = _ at active
  have still : s.roster.waiting.length = 0 ∧ s.roster.running.card = 0 := by omega
  obtain ⟨early, finished⟩ : ∃ early, s.producer = .finished early := by
    cases state : s.producer with
    | finished early => exact ⟨early, rfl⟩
    | _ => simp [state, ProducerState.isFinished] at finished
  refine ⟨Multiset.card_eq_zero.mp still.2, List.eq_nil_of_length_eq_zero still.1, ?_, ?_⟩
  · rw [roster, finished]
    rfl
  · intro whole
    rw [roster, finished] at whole
    obtain rfl : early = false := whole
    rw [roster, steady.spent (by rw [finished]; rfl)]
    rfl

end Stream

end BatchExec
