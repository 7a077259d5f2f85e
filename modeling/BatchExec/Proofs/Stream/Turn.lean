import BatchExec.Proofs.Stream.Leaving
import BatchExec.Proofs.Stream.Roster
import Mathlib.Data.List.TakeWhile

/-!
# The turns of an event-driven run

What each actor does in its turn is a chain of moves of the roster, unless the consumer leaves.

* `Stream.moves_finish`, `Stream.moves_start`: launches.
* `Stream.leads_produce`: the producer.
* `Stream.leads_consume`: the consumer, who may leave.
* `Stream.moves_of_next?`: **whatever comes next is a chain of moves, unless the consumer leaves.**
-/

namespace BatchExec.Stream

variable {rules : Rules} {consumer : Consumer} {s t u : Stream}

/-! ## The consumer -/

/-- What the consumer does and what it has still to look at moves no batch on. -/
theorem leads_attend (s : Stream) (queue : List (Option Event)) (state : ConsumerState) :
    Leads rules s { s with queue, consumer := state } := fun steady => ⟨.refl, { steady with }⟩

theorem leads_hear (allow : rules.Allow consumer.listener) (s : Stream) (e : Event) :
    Leads rules s (hear consumer s e) := by
  have heard : Leads rules s (if consumer.listener.isSome then s.note [.delivered e] else s) := by
    split
    · exact leads_note s (by simp [Happening.isQuiet])
    · exact .refl s
  unfold hear
  dsimp only
  split
  · rename_i cancels
    refine heard.trans (leads_cancel _ ?_)
    cases listens : consumer.listener with
    | none => simp [Consumer.reaction, listens] at cancels
    | some react =>
      simp only [Consumer.reaction, listens] at cancels
      exact allow.reacts react listens e cancels
  · exact heard

/-- One state is what becomes of another one when the consumer leaves. -/
def Deserts (consumer : Consumer) (s t : Stream) : Prop :=
  ∃ e error, consumer.departure? e = some error ∧ Winds error (s.cutOff error) t

theorem leads_handle (allow : rules.Allow consumer.listener) (s : Stream) (e : Event) :
    ∃ u, Leads rules s u ∧
      (handle consumer s e = u ∨ Deserts consumer u (handle consumer s e)) := by
  have heard := (leads_attend s s.queue .idle).trans
    (leads_hear allow { s with consumer := .idle } e)
  refine ⟨_, heard, ?_⟩
  unfold handle
  cases departs : consumer.departure? e with
  | none => exact .inl rfl
  | some error => exact .inr ⟨e, error, departs, winds_leave _ error⟩

/-- A consumer that leaves takes nothing from the queue. -/
theorem deliver_of_deserts (deserts : Deserts consumer s t) (items : List (Option Event)) :
    Deserts consumer s (deliver consumer items t) := by
  obtain ⟨e, error, departs, winds⟩ := deserts
  exact ⟨e, error, departs, winds.deliver consumer items⟩

theorem leads_deliver (allow : rules.Allow consumer.listener) (items : List (Option Event))
    (s : Stream) : ∃ u, Leads rules s u ∧
      (deliver consumer items s = u ∨ Deserts consumer u (deliver consumer items s)) := by
  fun_induction deliver consumer items s with
  | case1 s => exact ⟨_, leads_attend s [] s.consumer, .inl rfl⟩
  | case2 rest s idle => exact ⟨_, leads_attend s rest .joining, .inl rfl⟩
  | case3 rest s e idle prompt ih =>
    obtain ⟨u, handled, stays | deserts⟩ := leads_handle allow s e
    · rw [stays] at ih ⊢
      obtain ⟨v, delivered, outcome⟩ := ih
      exact ⟨v, handled.trans delivered, outcome⟩
    · exact ⟨u, handled, .inr (deliver_of_deserts deserts rest)⟩
  | case4 rest s e idle pauses =>
    refine ⟨_, (leads_attend s rest (.busy e)).trans fun steady => ?_, .inl rfl⟩
    refine ⟨?_, steady.callAfter rfl trivial⟩
    rw [roster_callAfter _ _ rfl]
  | case5 item rest s busy => exact ⟨_, leads_attend s (item :: rest) s.consumer, .inl rfl⟩

/-- The consumer goes on. -/
theorem leads_consume (allow : rules.Allow consumer.listener) (s : Stream) :
    ∃ u, Leads rules s u ∧ (consume consumer s = u ∨ Deserts consumer u (consume consumer s)) := by
  have attends (state : ConsumerState) : ∃ u, Leads rules s u ∧
      (deliver consumer s.queue { s with consumer := state } = u ∨
        Deserts consumer u (deliver consumer s.queue { s with consumer := state })) := by
    obtain ⟨u, delivered, outcome⟩ := leads_deliver allow s.queue { s with consumer := state }
    exact ⟨u, (leads_attend s s.queue state).trans delivered, outcome⟩
  unfold consume
  split
  · rename_i e busy
    obtain ⟨u, handled, stays | deserts⟩ := leads_handle allow s e
    · rw [stays]
      obtain ⟨v, delivered, outcome⟩ := leads_deliver allow u.queue u
      exact ⟨v, handled.trans delivered, outcome⟩
    · exact ⟨u, handled, .inr (deliver_of_deserts deserts _)⟩
  · exact attends .idle
  · rename_i error leaving
    exact attends (.gone error)
  · exact leads_deliver allow s.queue s

theorem leads_put (s : Stream) (item : Option Event) : Leads rules s (s.put item) := by
  unfold put
  split
  · exact (leads_attend s (s.queue ++ [item]) .called).trans (leads_call _ rfl rfl trivial)
  · exact leads_attend s (s.queue ++ [item]) s.consumer

theorem leads_notify (s : Stream) : Leads rules s s.notify := by
  unfold notify
  split
  · split
    · exact leads_call s rfl rfl trivial
    · exact leads_call s rfl rfl trivial
    · exact .refl s
  · exact .refl s

/-! ## Launches -/

/-- A free slot is kept for the producer, which waits for one. -/
theorem leads_reserve {b : Batch} {tally : Tally} (blocked : s.producer = .blocked b)
    (reserved : s.tally.reserve? = some tally) :
    Leads rules s { s with tally, producer := .granted b } := by
  obtain ⟨same, free⟩ := Tally.reserve?_eq reserved
  rw [same]
  intro steady
  refine ⟨?_, { steady with slots := ?_, going := rfl, spent := fun ended => by cases ended }⟩
  · simp only [roster, blocked]
    exact .refl
  · have slots := steady.slots
    rw [← free, blocked, Option.map_map] at slots
    rw [← slots]
    simp only [ProducerState.reserved, Function.comp_def]
    congr 1
    funext k
    omega

/-- The slot that is kept for the producer becomes a free one. -/
theorem leads_giveBack {b : Batch} (granted : s.producer = .granted b) :
    Leads rules s { s with tally := s.tally.giveBack, producer := .blocked b } := by
  intro steady
  refine ⟨?_, { steady with slots := ?_, going := rfl, spent := fun ended => by cases ended }⟩
  · simp only [roster, granted]
    exact .refl
  · have slots := steady.slots
    rw [granted] at slots
    rw [← slots]
    simp only [Tally.giveBack, ProducerState.reserved, Option.map_map, Function.comp_def]
    congr 1
    funext k
    omega

theorem leads_grant (s : Stream) : Leads rules s s.grant := by
  unfold grant
  split
  · rename_i b tally blocked reserved
    exact (leads_reserve blocked reserved).trans (leads_call _ rfl rfl trivial)
  · exact .refl s

theorem leads_book (s : Stream) (outcome : Tally × List Happening × Option Event)
    (quiet : ∀ e ∈ outcome.2.1, e.isQuiet = true) :
    Leads rules { s with tally := outcome.1 } (s.book outcome) := by
  have noted : Leads rules { s with tally := outcome.1 }
      (note { s with tally := outcome.1 } outcome.2.1) := leads_note _ quiet
  have granted := noted.trans (leads_grant _)
  unfold book
  dsimp only
  split
  · exact granted.trans (leads_put _ _)
  · exact granted

theorem roster_start (s : Stream) (b : Batch) :
    (s.call (.start b)).roster = { s.roster with waiting := s.roster.waiting ++ [b] } := by
  simp only [roster, turns, call, List.filterMap_append, List.filterMap_cons, List.filterMap_nil,
    Turn.start?, Turn.flight?, List.append_assoc, List.nil_append]

theorem roster_relay (s : Stream) (f : Flight) (turns : Nat) :
    (s.call (.relay f.batch f.plan turns)).roster =
      { s.roster with running := f ::ₘ s.roster.running } := by
  have perm : (s.call (.relay f.batch f.plan turns)).turns.Perm
      (.relay f.batch f.plan turns :: s.turns) := by
    simp only [Stream.turns, Stream.call, ← List.append_assoc]
    exact List.perm_append_comm.append_right _
  have running := Multiset.coe_eq_coe.mpr (perm.filterMap Turn.flight?)
  simp only [roster, running]
  simp [Stream.call, Turn.start?, Turn.flight?]

theorem roster_relayAfter (s : Stream) (time : Nat) (f : Flight) (turns : Nat) :
    (s.callAfter time (.relay f.batch f.plan turns)).roster =
      { s.roster with running := f ::ₘ s.roster.running } := by
  have perm := turns_callAfter s time (.relay f.batch f.plan turns)
  have running := Multiset.coe_eq_coe.mpr (perm.filterMap Turn.flight?)
  simp only [roster, running]
  rfl

/-- A launch that has ended lands: it gives back its slot, its task is over, and what it came to is
recorded. -/
theorem moves_settle (s : Stream) (f : Flight) (steady : s.Steady rules)
    (held : 0 < s.tally.active) (settled : rules.launch.Reaps → f.plan.SettledBy s.now) :
    Roster.Moves rules { s.roster with running := f ::ₘ s.roster.running }
        { s.note (.ended f.batch :: f.plan.closing.map .remarked) with
          tally := s.tally.settle f, done := s.done + 1 }.roster ∧
      Steady rules { s.note (.ended f.batch :: f.plan.closing.map .remarked) with
        tally := s.tally.settle f, done := s.done + 1 } := by
  constructor
  · have land := Roster.Move.land { s.roster with running := f ::ₘ s.roster.running } f
      s.roster.running rfl settled
    convert Relation.ReflTransGen.single land using 1
    have active : ((s.tally.active - 1 : Nat) : Int) = s.tally.active - 1 := by omega
    simp only [roster, note, Roster.land, Roster.note, Tally.cancelled_settle, steady.stopOnError]
    simp only [Tally.settle, active]
    rfl
  · refine { steady with slots := ?_, tasks := ?_ }
    · have slots := steady.slots
      simp only [note, Tally.settle, Option.map_map]
      rw [← slots]
      congr 1
      funext k
      simp only [Function.comp_apply]
      omega
    · have tasks := steady.tasks
      simp only [note, Tally.settle]
      omega

/-- It does not matter whether a run is cancelled before a launch lands or after. -/
theorem cancel_settle (s : Stream) (f : Flight) (done : Nat) :
    { s with tally := s.tally.settle f, done }.cancel =
      { s.cancel with tally := s.cancel.tally.settle f, done } := by
  unfold cancel
  split <;> rfl

theorem active_cancel (s : Stream) : s.cancel.tally.active = s.tally.active := by
  unfold cancel
  split <;> rfl

/-- The books do not say how many tasks are over. -/
theorem done_book (s : Stream) (outcome : Tally × List Happening × Option Event) (done : Nat) :
    { s.book outcome with done } = { s with done }.book outcome := by
  have granted (s : Stream) : { s.grant with done } = { s with done }.grant := by
    unfold grant
    dsimp only
    split <;> rfl
  have put (s : Stream) (item : Option Event) :
      { s.put item with done } = { s with done }.put item := by
    unfold Stream.put
    dsimp only
    split <;> rfl
  unfold book
  dsimp only
  split
  · rw [put, granted]; rfl
  · rw [granted]; rfl

theorem done_put (s : Stream) (item : Option Event) : (s.put item).done = s.done := by
  unfold put
  split <;> rfl

theorem conclude_book (s : Stream) (outcome : Tally × List Happening × Option Event) :
    (s.book outcome).conclude = ({ s with done := s.done + 1 }.book outcome).notify := by
  have done : (s.book outcome).done = s.done := by
    have granted (s : Stream) : s.grant.done = s.done := by
      unfold grant
      split <;> rfl
    unfold book
    dsimp only
    split
    · rw [done_put, granted]; rfl
    · rw [granted]; rfl
  rw [conclude, done_book, done]

/-- The books are kept while a launch lands. -/
theorem leads_book_finish (s : Stream) (f : Flight) (held : 0 < s.tally.active) :
    Leads rules { s with tally := s.tally.settle f, done := s.done + 1 }
      (s.book (s.tally.finish f.batch f.plan.ending)).conclude := by
  obtain ⟨same, quiet⟩ := s.tally.finish_eq held f
  rw [← same, conclude_book]
  exact (leads_book { s with done := s.done + 1 } _ quiet).trans (leads_notify _)

/-- **The end of a launch**, which counts as running until then. -/
theorem moves_finish (s : Stream) (f : Flight) (steady : s.Steady rules)
    (held : 0 < s.tally.active) (settled : rules.launch.Reaps → f.plan.SettledBy s.now)
    (cancels : f.plan.cancels = true → rules.cancels) :
    Roster.Moves rules { s.roster with running := f ::ₘ s.roster.running }
        (s.finish f.batch f.plan).roster ∧ (s.finish f.batch f.plan).Steady rules := by
  obtain ⟨landed, steady'⟩ := moves_settle s f steady held settled
  set noted := s.note (.ended f.batch :: f.plan.closing.map .remarked) with hnoted
  by_cases wants : f.plan.cancels = true
  · have cancelled : Leads rules { noted with tally := s.tally.settle f, done := s.done + 1 }
        { noted.cancel with tally := noted.cancel.tally.settle f, done := s.done + 1 } :=
      cancel_settle noted f (s.done + 1) ▸ leads_cancel _ (cancels wants)
    have done : noted.cancel.done = s.done := by
      unfold cancel
      split <;> rfl
    have busy : 0 < noted.cancel.tally.active := (active_cancel noted).symm ▸ held
    have booked : Leads rules _ _ := leads_book_finish noted.cancel f busy
    rw [done] at booked
    obtain ⟨moves, steady''⟩ := (cancelled.trans booked) steady'
    simp only [finish, ← hnoted, wants, if_true]
    exact ⟨landed.trans moves, steady''⟩
  · obtain ⟨moves, steady''⟩ := (leads_book_finish noted f held) steady'
    simp only [finish, ← hnoted, wants, Bool.false_eq_true, if_false]
    exact ⟨landed.trans moves, steady''⟩

/-- The start of a launch, which has waited until then. -/
theorem moves_start (s : Stream) (b : Batch) (steady : s.Steady rules) (held : 0 < s.tally.active)
    (allow : rules.Allow consumer.listener) :
    Roster.Moves rules { s.roster with waiting := b :: s.roster.waiting }
        (start rules.launch s b).roster ∧ (start rules.launch s b).Steady rules := by
  obtain ⟨plan, planned⟩ : ∃ plan, plan = rules.launch s.launched s.now b := ⟨_, rfl⟩
  set began : Stream := note { s with launched := s.launched + 1 }
    (.started b :: plan.opening.map .remarked ++ plan.attempt.toList.map .attempted) with hbegan
  have started : Roster.Moves rules { s.roster with waiting := b :: s.roster.waiting }
      { began.roster with running := ⟨b, plan⟩ ::ₘ began.roster.running } := by
    rw [hbegan, planned]
    exact .single (.start _ b [] s.roster.waiting rfl (.inl rfl))
  have steady' : began.Steady rules := { steady with }
  have settled : rules.launch.Reaps → plan.SettledBy (began.now + plan.duration.getD 0) :=
    fun reaps => planned ▸ reaps s.launched s.now b
  simp only [start, ← planned, ← hbegan]
  cases lasts : plan.duration with
  | none =>
    rw [lasts] at settled
    obtain ⟨moves, steady''⟩ := moves_finish began ⟨b, plan⟩ steady' held settled
      (fun cancels => allow.plans s.launched s.now b (planned ▸ cancels))
    exact ⟨started.trans moves, steady''⟩
  | some duration =>
    rw [lasts] at settled
    dsimp only
    split
    · rename_i prompt
      have called := roster_relay began ⟨b, plan⟩ 0
      rw [prompt.1] at settled
      exact ⟨called ▸ started, steady'.call settled⟩
    · have called := roster_relayAfter began duration ⟨b, plan⟩ plan.waitsFor.turns
      exact ⟨called ▸ started, steady'.callAfter rfl settled⟩

/-! ## The producer -/

/-- The producer, which waits for the launches, is over. -/
theorem leads_retire {early cut : Bool} (gathers : s.producer = .gathering early cut) :
    Leads rules s (s.retire early) := by
  have closed : Leads rules s { s with producer := .finished early } := by
    refine fun steady => ⟨?_, { steady with slots := ?_, going := rfl, spent := ?_ }⟩
    · simp only [roster, gathers]
      exact .refl
    · have slots := steady.slots
      rwa [gathers] at slots
    · intro spent
      refine steady.spent ?_
      rw [gathers]
      cases early
      · rfl
      · exact absurd spent Bool.false_ne_true
  exact closed.trans (leads_notify _)

theorem leads_signOff {early cut : Bool} (gathers : s.producer = .gathering early cut)
    (silent : Bool) : Leads rules s (s.signOff early silent) := by
  unfold signOff
  split
  · exact leads_retire gathers
  · exact (leads_put s none).trans (leads_retire ((producer_put s none).trans gathers))

/-- The producer, which asks for no more, waits for the launches. -/
theorem leads_close (s : Stream) (early : Bool) :
    Leads rules { s with producer := .gathering early false } (s.close early) := by
  unfold close
  dsimp only
  split
  · exact leads_signOff rfl false
  · exact leads_notify _

theorem leads_gather (s : Stream) : Leads rules s s.gather := by
  unfold gather
  split
  · rename_i early cut gathers
    exact leads_signOff gathers cut
  · exact .refl s

/-- The producer turns away the batch that it has got. -/
theorem leads_refuse {b : Batch} (blocked : s.producer = .blocked b)
    (stopped : s.tally.cancelled = true) : Leads rules s (s.refuse b) := by
  have turned : Leads rules s { s.note [.refused b] with producer := .gathering true false } := by
    intro steady
    have held : s.roster.held = some b := by
      rw [roster, blocked]
      rfl
    have refused : Roster.Moves rules s.roster (s.roster.refuse.note [.refused b]) :=
      (Relation.ReflTransGen.single (.refuse _ b held stopped)).tail
        (.note _ _ (by simp [Happening.isQuiet]))
    have slots := steady.slots
    rw [blocked] at slots
    exact ⟨refused, { steady with slots, going := rfl, spent := fun ended => by cases ended }⟩
  exact turned.trans (leads_close (s.note [.refused b]) true)

/-- The producer admits the batch that it has got; a slot is kept for it. -/
theorem leads_admitBatch {b : Batch} (granted : s.producer = .granted b)
    (goes : s.tally.cancelled = false) : Leads rules s (s.admitBatch b) := by
  intro steady
  have slots := steady.slots
  rw [granted] at slots
  have room : ∀ n, rules.bound = some n → s.roster.active < n := by
    intro n bound
    rw [bound] at slots
    obtain ⟨k, -, total⟩ := Option.map_eq_some_iff.mp slots
    simp only [ProducerState.reserved] at total
    change (s.tally.active : Int) < n
    omega
  have held : s.roster.held = some b := by
    rw [roster, granted]
    rfl
  have admitted : Roster.Move rules s.roster (s.roster.accept b) := .accept _ b held goes room
  have same : (s.admitBatch b).roster = s.roster.accept b := by
    have peak : ((max s.tally.peak (s.tally.active + 1) : Nat) : Int) =
        max (s.tally.peak : Int) (s.tally.active + 1) := by omega
    rw [admitBatch, roster_start]
    simp only [roster, note, Tally.count, Roster.accept, Roster.note, granted, peak]
    rfl
  refine ⟨.single (same ▸ admitted), ?_⟩
  have called : Turn.Fits rules s.now (.start b) := trivial
  refine Steady.call ?_ called
  have tasks : s.tasks + 1 = s.done + (s.tally.active + 1) := by
    rw [steady.tasks]
    rfl
  exact { steady with slots, tasks, going := rfl, spent := fun ended => by cases ended }

/-- The producer, which waits for nothing else, gets a batch. -/
theorem moves_receive {b : Batch} (steady : s.Steady rules)
    (free : s.producer = .asking ∨ s.producer = .waiting) :
    Roster.Moves rules { s.roster with left := b :: s.roster.left } (s.receive b).roster ∧
      (s.receive b).Steady rules := by
  set holding : Stream := { s.note [.received b] with producer := .blocked b } with hholding
  have going : s.producer.held? = none ∧ s.producer.stoppedEarly = false ∧
      s.producer.reserved = 0 := by
    rcases free with state | state <;> rw [state] <;> exact ⟨rfl, rfl, rfl⟩
  have received : Roster.Moves rules { s.roster with left := b :: s.roster.left }
      holding.roster := by
    have move : Roster.Move rules { s.roster with left := b :: s.roster.left }
        (Roster.receive { s.roster with left := b :: s.roster.left } b s.roster.left) :=
      .receive _ _ _ rfl going.1 going.2.1
    convert Relation.ReflTransGen.single move using 1
    simp only [hholding, roster, note, Roster.receive, Roster.note, going.2.1]
    rfl
  have slots := steady.slots
  rw [going.2.2] at slots
  have steady' : holding.Steady rules :=
    { steady with slots, going := rfl, spent := fun ended => by cases ended }
  have next : Leads rules holding (s.receive b) := by
    simp only [receive]
    split
    · rename_i stopped
      have refused : Leads rules holding (holding.refuse b) := leads_refuse rfl stopped
      exact refused
    · rename_i goes
      split
      · rename_i tally reserved
        have kept : Leads rules holding { holding with tally, producer := .granted b } :=
          leads_reserve rfl reserved
        have stays : tally.cancelled = false := by
          rw [Tally.cancelled_of_reserve? reserved]
          exact eq_false_of_ne_true goes
        exact kept.trans (leads_admitBatch rfl stays)
      · exact .refl holding
  obtain ⟨moves, steady''⟩ := next steady'
  exact ⟨received.trans moves, steady''⟩

theorem leads_receive {item : FeedItem} {rest : List FeedItem} (next : s.feed = item :: rest)
    (free : s.producer = .asking ∨ s.producer = .waiting) :
    Leads rules s (receive { s with feed := rest } item.batch) := by
  intro steady
  have steady' : Steady rules { s with feed := rest } := by
    refine { steady with spent := fun ended => ?_ }
    have ended : s.producer.isSpent = true := ended
    rcases free with state | state <;> rw [state] at ended <;> exact absurd ended Bool.false_ne_true
  have same : s.roster = { roster { s with feed := rest } with
      left := item.batch :: rest.map FeedItem.batch } := by
    simp only [roster, next, List.map_cons]
    rfl
  rw [same]
  exact moves_receive steady' free

/-- The producer asks for batches. -/
theorem leads_pull (detour : Bool) (items : List FeedItem) (s : Stream)
    (asks : s.producer = .asking) :
    Leads rules { s with feed := items } (pull detour items s) := by
  have requested (s : Stream) (items : List FeedItem) : Leads rules { s with feed := items }
      { s.note [.requested] with feed := items } := leads_note _ (by simp [Happening.isQuiet])
  have waits (s : Stream) (asks : s.producer = .asking) (items : List FeedItem) :
      Leads rules { s with feed := items }
        { s.note [.requested] with feed := items, producer := .waiting } := by
    refine (requested s items).trans fun steady =>
      ⟨?_, { steady with slots := ?_, going := rfl, spent := fun ended => by cases ended }⟩
    · simp only [roster, note, asks]
      exact .refl
    · have slots := steady.slots
      simp only [note, asks] at slots
      exact slots
  fun_induction pull detour items s with
  | case1 s noted => exact (waits s asks []).trans (leads_call _ rfl rfl trivial)
  | case2 s noted =>
    have closed : Leads rules { noted with feed := [], producer := .gathering false false }
        (close { noted with feed := [] } false) := leads_close { noted with feed := [] } false
    have gathers : Leads rules { noted with feed := [], producer := .waiting }
        { noted with feed := [], producer := .gathering false false } := fun steady =>
      ⟨.refl, { steady with going := rfl, spent := fun _ => rfl }⟩
    exact (waits s asks []).trans (gathers.trans closed)
  | case3 item rest s noted asked delayed =>
    refine (waits s asks (item :: rest)).trans fun steady => ⟨?_, steady.callAfter rfl trivial⟩
    rw [roster_callAfter _ _ rfl]
  | case4 item rest s noted asked =>
    exact (waits s asks (item :: rest)).trans (leads_call _ rfl rfl trivial)
  | case5 item rest s noted prompt direct received again ih =>
    have got : Leads rules { noted with feed := item :: rest } received :=
      leads_receive rfl (.inl asks)
    have left : received.feed = rest := feed_receive _ _
    have same : { received with feed := rest } = received := by rw [← left]
    rw [same] at ih
    exact (requested s (item :: rest)).trans (got.trans (ih again))
  | case6 item rest s noted prompt direct received stays =>
    have got : Leads rules { noted with feed := item :: rest } received :=
      leads_receive rfl (.inl asks)
    exact (requested s (item :: rest)).trans got

/-- The producer takes what the source has handed over, or a slot. -/
theorem leads_take (s : Stream) : Leads rules s s.take := by
  unfold take
  split
  · rename_i waits spent
    have gathers : Leads rules s { s with producer := .gathering false false } := by
      refine fun steady => ⟨?_, { steady with slots := ?_, going := rfl, spent := fun _ => spent }⟩
      · simp only [roster, waits]
        exact .refl
      · have slots := steady.slots
        rw [waits] at slots
        exact slots
    exact gathers.trans (leads_close s false)
  · rename_i item rest waits next
    exact leads_receive next (.inr waits)
  · rename_i b granted
    split
    · rename_i stopped
      exact (leads_giveBack granted).trans (leads_refuse rfl stopped)
    · rename_i goes
      exact leads_admitBatch granted (eq_false_of_ne_true goes)
  · rename_i slot halted
    exact fun steady => absurd (steady.going.symm.trans (congrArg ProducerState.isCut halted))
      Bool.false_ne_true
  · exact .refl s

/-- The producer goes on. -/
theorem leads_produce (detour : Bool) (s : Stream) : Leads rules s (s.produce detour) := by
  have taken : Leads rules s s.take := leads_take s
  simp only [produce]
  split
  · rename_i asks
    exact taken.trans (leads_pull detour s.take.feed s.take asks)
  · exact taken

/-! ## Rounds -/

/-- A new round begins, for which time may have passed. -/
theorem leads_round {now : Nat} (rested : s.ready = []) (le : s.now ≤ now) :
    Leads rules s (s.round now) := by
  intro steady
  have split : s.timers.takeWhile (·.time ≤ now) ++ s.timers.dropWhile (·.time ≤ now) = s.timers :=
    List.takeWhile_append_dropWhile
  have due : ∀ t ∈ s.timers.takeWhile (·.time ≤ now), t ∈ s.timers ∧ t.time ≤ now := by
    intro t mem
    refine ⟨split ▸ List.mem_append_left _ mem, ?_⟩
    simpa using List.mem_takeWhile_imp mem
  have later : ∀ t ∈ s.timers.dropWhile (·.time ≤ now), t ∈ s.timers := fun t mem =>
    split ▸ List.mem_append_right _ mem
  have waiting : ((s.round now).ready ++ (s.round now).upcoming).filterMap Turn.start? =
      (s.ready ++ s.upcoming).filterMap Turn.start? := by
    have none : ((s.timers.takeWhile (·.time ≤ now)).map TurnTimer.turn).filterMap Turn.start? =
        [] := by
      rw [List.filterMap_eq_nil_iff]
      intro turn mem
      obtain ⟨t, listed, rfl⟩ := List.mem_map.mp mem
      exact steady.late t (due t listed).1
    simp only [round, rested, List.append_nil, List.nil_append, List.filterMap_append, none]
  refine ⟨?_, { steady with near := ?_, far := ?_, late := ?_ }⟩
  · have passed : Roster.Move rules s.roster (s.roster.pass now) := .pass _ now le
    have same : (s.round now).roster = s.roster.pass now := by
      simp only [roster, turns_round now rested, waiting]
      rfl
    exact .single (same ▸ passed)
  · intro turn mem
    simp only [round, List.append_nil] at mem
    rcases List.mem_append.mp mem with called | due'
    · exact (steady.near turn (List.mem_append_right _ called)).mono le
    · obtain ⟨t, listed, rfl⟩ := List.mem_map.mp due'
      exact (steady.far t (due t listed).1).mono (due t listed).2
  · exact fun t mem => steady.far t (later t mem)
  · exact fun t mem => steady.late t (later t mem)

/-! ## Turns -/

/-- A turn that is next, apart from the other turns. -/
theorem roster_ready {turn : Turn} {rest : List Turn} (ready : s.ready = turn :: rest) :
    s.roster = { roster { s with ready := rest } with
      waiting := turn.start?.toList ++ (roster { s with ready := rest }).waiting
      running := (turn.flight?.toList : Multiset Flight) +
        (roster { s with ready := rest }).running } := by
  have waiting : (s.ready ++ s.upcoming).filterMap Turn.start? =
      turn.start?.toList ++ (rest ++ s.upcoming).filterMap Turn.start? := by
    rw [ready, List.cons_append, List.filterMap_cons]
    cases turn.start? <;> rfl
  have running : s.turns.filterMap Turn.flight? =
      turn.flight?.toList ++ (turns { s with ready := rest }).filterMap Turn.flight? := by
    rw [Stream.turns, ready, List.cons_append, List.cons_append, List.filterMap_cons]
    cases turn.flight? <;> rfl
  simp only [roster, waiting, running, ← Multiset.coe_add]

theorem Steady.rest (steady : s.Steady rules) {turn : Turn} {rest : List Turn}
    (ready : s.ready = turn :: rest) :
    turn.Fits rules s.now ∧ Steady rules { s with ready := rest } := by
  have fits : ∀ other ∈ turn :: rest ++ s.upcoming, other.Fits rules s.now := ready ▸ steady.near
  refine ⟨fits turn (by simp), { steady with near := fun other mem => fits other ?_ }⟩
  exact List.mem_cons_of_mem _ mem

variable {all : List Batch} {rest : List Turn}

theorem moves_start_turn (allow : rules.Allow consumer.listener) {b : Batch}
    (ready : s.ready = .start b :: rest) (steady : s.Steady rules)
    (sound : s.roster.Sound rules all) :
    Roster.Moves rules s.roster (start rules.launch { s with ready := rest } b).roster ∧
      (start rules.launch { s with ready := rest } b).Steady rules := by
  set q : Stream := { s with ready := rest } with hq
  have same : s.roster = { q.roster with waiting := b :: q.roster.waiting } := by
    rw [roster_ready ready]
    simp only [Turn.flight?, Option.toList_none, Multiset.coe_nil, Multiset.zero_add]
    rfl
  have waits : b ∈ s.roster.waiting := by
    rw [same]
    exact List.mem_cons_self
  have held : 0 < q.tally.active := Int.natCast_pos.mp (sound.active_pos_of_waiting waits)
  rw [same]
  exact moves_start q b (steady.rest ready).2 held allow

theorem roster_relay_turn {b : Batch} {plan : Plan} {turns : Nat}
    (ready : s.ready = .relay b plan turns :: rest) :
    s.roster = { roster { s with ready := rest } with
      running := ⟨b, plan⟩ ::ₘ (roster { s with ready := rest }).running } := by
  rw [roster_ready ready]
  simp only [Turn.start?, Option.toList_none, List.nil_append, Turn.flight?, Option.toList_some,
    Multiset.coe_singleton, Multiset.singleton_add]

theorem moves_finish_turn (allow : rules.Allow consumer.listener) {b : Batch} {plan : Plan}
    (ready : s.ready = .relay b plan 0 :: rest) (steady : s.Steady rules)
    (sound : s.roster.Sound rules all) :
    Roster.Moves rules s.roster (finish { s with ready := rest } b plan).roster ∧
      (finish { s with ready := rest } b plan).Steady rules := by
  obtain ⟨settled, steady'⟩ := steady.rest ready
  have same := roster_relay_turn ready
  set q : Stream := { s with ready := rest } with hq
  have aloft : (⟨b, plan⟩ : Flight) ∈ s.roster.running := by
    rw [same]
    exact Multiset.mem_cons_self (⟨b, plan⟩ : Flight) q.roster.running
  have held : 0 < q.tally.active := Int.natCast_pos.mp (sound.active_pos_of_running aloft)
  obtain ⟨ordinal, time, planned⟩ := sound.plan_of_mem aloft
  rw [same]
  exact moves_finish q ⟨b, plan⟩ steady' held settled
    (fun cancels => allow.plans ordinal time b (planned ▸ cancels))

/-- **A turn is a chain of moves, unless the consumer leaves.** -/
theorem moves_of_act (allow : rules.Allow consumer.listener) (detour : Bool) {turn : Turn}
    (ready : s.ready = turn :: rest) (steady : s.Steady rules) (sound : s.roster.Sound rules all) :
    ∃ u, Roster.Moves rules s.roster u.roster ∧ u.Steady rules ∧
      (act consumer rules.launch detour { s with ready := rest } turn = u ∨
        Deserts consumer u (act consumer rules.launch detour { s with ready := rest } turn)) := by
  obtain ⟨fits, steady'⟩ := steady.rest ready
  set q : Stream := { s with ready := rest } with hq
  have plain {t : Stream} (idle : turn.start? = none) (free : turn.flight? = none)
      (leads : Leads rules q t) : Roster.Moves rules s.roster t.roster ∧ t.Steady rules := by
    have same : s.roster = q.roster := by
      rw [roster_ready ready, idle, free]
      simp only [Option.toList_none, Multiset.coe_nil, Multiset.zero_add, List.nil_append, hq]
    exact same ▸ leads steady'
  cases turn with
  | cancel =>
    obtain ⟨moves, steady''⟩ := plain rfl rfl (leads_cancel q fits)
    exact ⟨_, moves, steady'', .inl rfl⟩
  | handOver =>
    have called : Leads rules q (q.call .produce) := leads_call q rfl rfl trivial
    obtain ⟨moves, steady''⟩ := plain rfl rfl called
    exact ⟨_, moves, steady'', .inl rfl⟩
  | produce =>
    obtain ⟨moves, steady''⟩ := plain rfl rfl (leads_produce detour q)
    exact ⟨_, moves, steady'', .inl rfl⟩
  | start b =>
    obtain ⟨moves, steady''⟩ := moves_start_turn allow ready steady sound
    exact ⟨_, moves, steady'', .inl rfl⟩
  | relay b plan turns =>
    cases turns with
    | zero =>
      obtain ⟨moves, steady''⟩ := moves_finish_turn allow ready steady sound
      exact ⟨_, moves, steady'', .inl rfl⟩
    | succ turns =>
      have called := roster_relay q ⟨b, plan⟩ turns
      refine ⟨q.call (.relay b plan turns), ?_, steady'.call fits, .inl rfl⟩
      rw [called, roster_relay_turn ready]
  | abort b time => exact fits.elim
  | gathered =>
    obtain ⟨moves, steady''⟩ := plain rfl rfl (leads_gather q)
    exact ⟨_, moves, steady'', .inl rfl⟩
  | alarm =>
    have called : Leads rules q (q.call .consume) := leads_call q rfl rfl trivial
    obtain ⟨moves, steady''⟩ := plain rfl rfl called
    exact ⟨_, moves, steady'', .inl rfl⟩
  | consume =>
    obtain ⟨u, leads, outcome⟩ := leads_consume allow q
    obtain ⟨moves, steady''⟩ := plain rfl rfl leads
    exact ⟨u, moves, steady'', outcome⟩

/-- **Whatever comes next is a chain of moves, unless the consumer leaves.** -/
theorem moves_of_next? (allow : rules.Allow consumer.listener) {detour : Bool}
    (steady : s.Steady rules) (sound : s.roster.Sound rules all)
    (next : next? consumer rules.launch detour s = some t) :
    ∃ u, Roster.Moves rules s.roster u.roster ∧ u.Steady rules ∧
      (t = u ∨ Deserts consumer u t) := by
  unfold next? at next
  split at next
  · contradiction
  · split at next
    · rename_i turn rest ready
      cases next
      exact moves_of_act allow detour ready steady sound
    · contradiction
    · rename_i timer timers ready _ _
      cases next
      obtain ⟨moves, steady'⟩ := leads_round ready (Nat.le_max_left s.now timer.time) steady
      exact ⟨_, moves, steady', .inl rfl⟩
    · rename_i ready _ _
      cases next
      obtain ⟨moves, steady'⟩ := leads_round ready (Nat.le_refl s.now) steady
      exact ⟨_, moves, steady', .inl rfl⟩

end BatchExec.Stream
