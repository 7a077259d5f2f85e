import BatchExec.Proofs.Stream.CallOff

/-!
# Events under a single slot

Under a single slot, and with a consumer that does not wait before it handles an event, events do
not pile up: the end of a launch calls the consumer, and no other launch starts before its turn.

* `Stream.Prompt`: the consumer has nothing to hear of, or it is called for one event and no launch
  starts before its turn.
* `Stream.prompt_of_next?`: **whatever comes next leaves the consumer prompt.**
* `Stream.prompt_of_passes`: so it is in every state of a run.
* `Stream.Hearing.launched_of_single`: **when the consumer hears of an event, as many launches have
  started as it has heard of events, that one included.**
-/

namespace BatchExec

/-- A consumer that waits has nothing to hear of; one that has been called has to hear of one event
at most, and until its turn no launch is running and none starts. -/
def ConsumerState.Prompt (events : List Event) (flights : Multiset Flight) (near : List Turn) :
    ConsumerState → Prop
  | .idle => events = []
  | .called => events.length ≤ 1 ∧ flights = 0 ∧ ∃ first rest,
      near = first ++ .consume :: rest ∧ first.filterMap Turn.start? = []
  | .busy _ => False
  | .joining | .leaving _ | .gone _ => True

/-- There are as many results as events that the receiver has heard of and that are pending. -/
theorem History.Announces.length_completed {receiver : Listener} {h : History} {level : Int}
    {completed : List Result} {pending : List Event}
    (announces : h.Announces receiver level completed pending) (listens : receiver.isSome = true) :
    completed.length = h.heard.length + pending.length := by
  obtain ⟨-, recorded, -, taken, all, told⟩ := announces
  have results := congrArg List.length h.map_result_announcements
  rw [List.length_map, ← all, told listens, List.length_append, recorded] at results
  exact results.symm

namespace Stream

variable {consumer : Consumer} {launch : Launcher} {s t : Stream}

/-- The consumer hears of each event before another launch starts. -/
def Prompt (s : Stream) : Prop := s.consumer.Prompt s.queue.reduceOption s.flights s.near

/-- No launch is running, and none is about to start. -/
def Still (s : Stream) : Prop := s.flights = 0 ∧ s.near.filterMap Turn.start? = []

/-- If the consumer is called though it has nothing to hear of, no launch is under way. -/
def Calm (s : Stream) : Prop :=
  s.consumer = .called → s.queue.reduceOption = [] → s.Still

/-- As long as the consumer is not called, nobody else matters to it. -/
theorem Prompt.of_uncalled (prompt : s.Prompt) (uncalled : s.consumer ≠ .called)
    (same : t.consumer = s.consumer) (events : t.queue.reduceOption = s.queue.reduceOption) :
    t.Prompt := by
  unfold Prompt at prompt ⊢
  rw [same, events]
  cases consumer : s.consumer with
  | called => exact absurd consumer uncalled
  | _ =>
    rw [consumer] at prompt
    exact prompt

/-- What others do leaves the consumer prompt if they do not call it. -/
theorem Prompt.defer_of_same (prompt : s.Prompt) (defers : Defers s t)
    (same : t.consumer = s.consumer) : t.Prompt := by
  obtain ⟨more, grown⟩ := defers.near
  cases consumer : s.consumer with
  | called =>
    unfold Prompt at prompt ⊢
    rw [same, defers.events, defers.flights, ← grown, consumer]
    rw [consumer] at prompt
    obtain ⟨one, none, first, rest, split, still⟩ := prompt
    refine ⟨one, none, first, rest ++ more, ?_, still⟩
    rw [split, List.append_assoc]
    rfl
  | _ => exact prompt.of_uncalled (by rw [consumer]; nofun) same defers.events

/-- If others call a consumer that has nothing to hear of, no launch must be under way. -/
theorem Prompt.defer (prompt : s.Prompt) (defers : Defers s t)
    (calm : t.Calm) : t.Prompt := by
  rcases defers.consumer with same | ⟨idle, called, mem⟩
  · exact prompt.defer_of_same defers same
  · have nothing : t.queue.reduceOption = [] := by
      rw [Prompt, idle] at prompt
      exact defers.events.trans prompt
    obtain ⟨landed, unstarted⟩ := calm called nothing
    obtain ⟨first, rest, split⟩ := List.append_of_mem mem
    rw [split, List.filterMap_append] at unstarted
    rw [Prompt, called, nothing]
    exact ⟨Nat.zero_le 1, landed, first, rest, split, (List.append_eq_nil_iff.mp unstarted).1⟩

/-! ## Launches -/

theorem Still.grant (still : s.Still) : s.grant.Still := by
  refine ⟨(defers_grant s).flights.trans still.1, ?_⟩
  unfold Stream.grant
  split
  · rename_i b tally waits reserved
    rw [near_call, List.filterMap_append]
    show s.near.filterMap Turn.start? ++ [] = []
    rw [still.2]
    rfl
  · exact still.2

/-- An event is put into the queue. -/
theorem Prompt.put (prompt : s.Prompt) (still : s.Still) (uncalled : s.consumer ≠ .called)
    (e : Event) : (s.put (some e)).Prompt := by
  unfold Stream.put
  dsimp only
  cases state : s.consumer with
  | idle =>
    have empty : s.queue.reduceOption = [] := by
      rw [Prompt, state] at prompt
      exact prompt
    refine ⟨?_, ?_, s.near, [], near_call _ _, still.2⟩
    · show (s.queue ++ [some e]).reduceOption.length ≤ 1
      rw [List.reduceOption_append, empty]
      exact Nat.le_refl 1
    · have called : Defers _ (call { s with queue := s.queue ++ [some e], consumer := .called }
        .consume) := defers_call _ rfl
      exact called.flights.trans still.1
  | called => exact absurd state uncalled
  | busy other =>
    rw [Prompt, state] at prompt
    exact prompt.elim
  | joining | leaving error | gone error =>
    simp only [Prompt]
    trivial

theorem Prompt.finish (prompt : s.Prompt) (still : s.Still) (uncalled : s.consumer ≠ .called)
    (b : Batch) (plan : Plan) : (s.finish b plan).Prompt := by
  have booked {u : Stream} (defers : Defers s u) (same : u.consumer = s.consumer) (still : u.Still)
      (outcome : Tally × List Happening × Option Event) : (u.book outcome).conclude.Prompt := by
    obtain ⟨noted, hnoted⟩ : ∃ noted, noted = note { u with tally := outcome.1 } outcome.2.1 :=
      ⟨_, rfl⟩
    have deferred : Defers u noted := by
      rw [hnoted]
      exact defers_books u outcome.1 u.feed u.producer u.tasks _
    have granted := (defers.trans deferred).trans (defers_grant noted)
    have quiet : noted.Still := by
      rw [hnoted]
      exact still
    have same' : noted.grant.consumer = s.consumer := by
      rw [(spares_grant noted).consumer, hnoted]
      exact same
    have calm := prompt.defer_of_same granted same'
    have concludes {v : Stream} (prompt : v.Prompt) : v.conclude.Prompt :=
      Prompt.defer_of_same (s := { v with done := v.done + 1 }) prompt
        (defers_of_rings (rings_conclude v)) (spares_notify { v with done := v.done + 1 }).consumer
    unfold book
    dsimp only
    rw [← hnoted]
    split
    · exact concludes (calm.put quiet.grant (same' ▸ uncalled) _)
    · exact concludes calm
  have noted : Defers s (s.note (.ended b :: plan.closing.map .remarked)) :=
    defers_books s s.tally s.feed s.producer s.tasks _
  unfold Stream.finish
  dsimp only
  split
  · refine booked (noted.trans (defers_cancel _)) (spares_cancel _).consumer ?_ _
    unfold Stream.cancel
    split <;> exact still
  · exact booked noted rfl still _

/-- A launch starts, and it may end at once. -/
theorem Prompt.start (prompt : s.Prompt) (still : s.Still) (uncalled : s.consumer ≠ .called)
    (launch : Launcher) (b : Batch) : (Stream.start launch s b).Prompt := by
  unfold Stream.start
  dsimp only
  split
  · exact Prompt.finish (s := note { s with launched := s.launched + 1 } _) prompt still
      uncalled _ _
  · split <;> exact prompt.of_uncalled uncalled rfl rfl

/-! ## The consumer -/

/-- A consumer that does not wait takes all events from the queue, or it leaves. -/
theorem prompt_deliver (quick : consumer.delay = 0) (items : List (Option Event)) (s : Stream)
    (free : s.consumer = .idle ∨ ∃ error, s.consumer = .leaving error ∨ s.consumer = .gone error) :
    (deliver consumer items s).Prompt := by
  have handled (s : Stream) (e : Event) : (handle consumer s e).consumer = .idle ∨
      ∃ error, (handle consumer s e).consumer = .leaving error ∨
        (handle consumer s e).consumer = .gone error := by
    unfold handle
    dsimp only
    split
    · exact .inr ⟨_, (winds_leave _ _).consumer⟩
    · exact .inl (spares_hear consumer { s with consumer := .idle } e).consumer
  fun_induction deliver consumer items s with
  | case1 s =>
    rw [Prompt]
    rcases free with idle | ⟨error, leaving | gone⟩
    · rw [idle]
      rfl
    · rw [leaving]
      trivial
    · rw [gone]
      trivial
  | case2 rest s idle => trivial
  | case3 rest s e idle prompt ih => exact ih (handled s e)
  | case4 rest s e idle pauses => exact absurd quick pauses
  | case5 item rest s ends busy =>
    have away : s.consumer ≠ .idle := fun idle => by
      cases item with
      | none => exact ends idle rfl
      | some e => exact busy e idle rfl
    rw [Prompt]
    obtain ⟨error, leaving | gone⟩ := free.resolve_left away
    · rw [leaving]
      trivial
    · rw [gone]
      trivial

/-! ## Turns -/

variable {rules : Rules} {all : List Batch} {turn : Turn} {left : List Turn}

/-- Under a single slot a launch that starts or runs is the only one. -/
theorem still_of_single (sound : s.roster.Sound rules all) (single : rules.bound = some 1)
    (ready : s.ready = turn :: left)
    (busy : 0 < turn.start?.toList.length + turn.flight?.toList.length) :
    Still { s with ready := left } := by
  have waiting : s.roster.waiting = turn.start?.toList ++
      (Stream.near { s with ready := left }).filterMap Turn.start? :=
    congrArg Roster.waiting (roster_ready ready)
  have running : s.roster.running = (turn.flight?.toList : Multiset Flight) +
      flights { s with ready := left } := congrArg Roster.running (roster_ready ready)
  have active := sound.active
  have bounded := sound.bounded 1 single
  have peak := sound.peak
  rw [waiting, running, List.length_append, Multiset.card_add, Multiset.coe_card] at active
  exact ⟨Multiset.card_eq_zero.mp (by omega), List.eq_nil_of_length_eq_zero (by omega)⟩

/-- When the consumer is called, the next turn is its own, or it is one of somebody else who neither
starts a launch nor has one running. -/
theorem Prompt.next (prompt : s.Prompt) (called : s.consumer = .called)
    (ready : s.ready = turn :: left) :
    turn = .consume ∨ turn.start? = none ∧ turn.flight? = none ∧
      Prompt { s with ready := left } := by
  have near : s.near = turn :: Stream.near { s with ready := left } := by
    rw [Stream.near, ready]
    rfl
  rw [Prompt, called] at prompt
  obtain ⟨one, none, first, after, split, still⟩ := prompt
  have flights := congrArg Multiset.card (flights_ready ready)
  rw [none, Multiset.card_zero, Multiset.card_add, Multiset.coe_card] at flights
  rw [near] at split
  rcases List.cons_eq_append_iff.mp split with ⟨rfl, consumes⟩ | ⟨first, rfl, later⟩
  · exact .inl (List.cons.inj consumes).1.symm
  · have quiet := List.filterMap_eq_nil_iff.mp still
    refine .inr ⟨quiet turn List.mem_cons_self, ?_, ?_⟩
    · cases flies : turn.flight? with
      | none => rfl
      | some f =>
        rw [flies, Option.toList_some, List.length_singleton] at flights
        omega
    · have landed : Stream.flights { s with ready := left } = 0 :=
        Multiset.card_eq_zero.mp (by omega)
      rw [Prompt, called]
      refine ⟨one, landed, first, after, later, ?_⟩
      exact List.filterMap_eq_nil_iff.mpr fun x mem => quiet x (List.mem_cons_of_mem _ mem)

/-- The other turns when somebody else has his. -/
theorem Prompt.rest (prompt : s.Prompt) (ready : s.ready = turn :: left)
    (other : turn ≠ .consume) : Prompt { s with ready := left } := by
  by_cases called : s.consumer = .called
  · exact ((prompt.next called ready).resolve_left other).2.2
  · exact prompt.of_uncalled called rfl rfl

/-- The consumer is not called while a launch starts or runs. -/
theorem Prompt.uncalled (prompt : s.Prompt) (ready : s.ready = turn :: left)
    (busy : 0 < turn.start?.toList.length + turn.flight?.toList.length) :
    s.consumer ≠ .called := by
  intro called
  rcases prompt.next called ready with rfl | ⟨starts, flies, -⟩
  · exact absurd busy (Nat.lt_irrefl 0)
  · rw [starts, flies] at busy
    exact absurd busy (Nat.lt_irrefl 0)

/-- **A turn leaves the consumer prompt.** -/
theorem Prompt.act (prompt : s.Prompt) (sound : s.roster.Sound rules all)
    (single : rules.bound = some 1) (quick : consumer.delay = 0) (here : s.Here) (detour : Bool)
    (ready : s.ready = turn :: left)
    (calm : Calm (Stream.act consumer rules.launch detour { s with ready := left } turn)) :
    (Stream.act consumer rules.launch detour { s with ready := left } turn).Prompt := by
  obtain ⟨q, hq⟩ : ∃ q : Stream, q = { s with ready := left } := ⟨_, rfl⟩
  rw [← hq] at calm ⊢
  have rest (other : turn ≠ .consume) : q.Prompt := hq ▸ prompt.rest ready other
  have busy (one : 0 < turn.start?.toList.length + turn.flight?.toList.length) :
      q.Still ∧ q.consumer ≠ .called := by
    rw [hq]
    exact ⟨still_of_single sound single ready one, prompt.uncalled ready one⟩
  cases turn with
  | cancel => exact (rest nofun).defer (defers_cancel q) calm
  | handOver => exact (rest nofun).defer (defers_call q rfl) calm
  | produce => exact (rest nofun).defer (defers_produce detour q) calm
  | start b =>
    obtain ⟨still, uncalled⟩ := busy Nat.one_pos
    exact (rest nofun).start still uncalled rules.launch b
  | relay b plan turns =>
    obtain ⟨still, uncalled⟩ := busy Nat.one_pos
    cases turns with
    | zero => exact (rest nofun).finish still uncalled b plan
    | succ turns => exact (rest nofun).of_uncalled uncalled rfl rfl
  | abort b time =>
    cases time with
    | zero =>
      exact Prompt.defer (s := { q with done := q.done + 1 }) (rest nofun)
        (defers_of_rings (rings_conclude q)) calm
    | succ time => exact (rest nofun).defer (defers_callAfter q _ rfl) calm
  | gathered => exact (rest nofun).defer (defers_of_rings (rings_gather q)) calm
  | alarm => exact (rest nofun).defer (defers_call q rfl) calm
  | consume =>
    have there : q.Here := by
      rw [hq]
      exact here
    show (consume consumer q).Prompt
    by_cases joins : q.consumer = .joining
    · have busy : q.consumer ≠ .idle := by rw [joins]; nofun
      unfold consume Prompt
      simp only [joins, deliver_of_busy busy]
      trivial
    · rw [consume_eq quick there joins]
      exact prompt_deliver quick _ _ (.inl rfl)

theorem defers_round (rested : s.ready = []) (now : Nat) : Defers s (s.round now) where
  consumer := .inl rfl
  events := rfl
  cancellable := rfl
  flights := by
    rw [flights, turns_round now rested]
    rfl
  near := by
    rw [near, rested, near, round, List.append_nil]
    exact List.prefix_append _ _

/-- **Whatever comes next leaves the consumer prompt.** -/
theorem prompt_of_next? (prompt : s.Prompt) (sound : s.roster.Sound rules all)
    (single : rules.bound = some 1) (quick : consumer.delay = 0) (here : s.Here) (calm : t.Calm)
    {detour : Bool} (next : next? consumer rules.launch detour s = some t) : t.Prompt := by
  unfold next? at next
  split at next
  · contradiction
  · split at next
    · rename_i turn left ready
      cases next
      exact prompt.act sound single quick here detour ready calm
    · contradiction
    · rename_i ready _ _
      cases next
      exact prompt.defer (defers_round ready _) calm
    · rename_i ready _ _
      cases next
      exact prompt.defer (defers_round ready _) calm

/-! ## Whole runs -/

variable {feed : Feed} {interruption : Interruption} {cancellable detour : Bool}

/-- A consumer that is called though it has nothing to hear of is told that there are no more
events, and that is said when all launches are over. -/
theorem Attended.calm (attended : s.Attended) (closes : s.Sealed) (steady : s.Steady rules)
    (sound : s.roster.Sound rules all) : s.Calm := by
  intro called nothing
  have holds : s.queue ≠ [] := by
    have served := attended.consumer
    rw [ServesConsumer, called] at served
    exact served.1
  have closed : s.Over := by
    by_contra going
    obtain ⟨events, queue⟩ := (closes.open_of_going going).queue
    cases events with
    | nil => exact holds queue
    | cons e rest =>
      rw [queue, List.map_cons, List.reduceOption_cons_of_some] at nothing
      exact List.cons_ne_nil _ _ nothing
  have done : s.done = s.tasks := closed
  have tasks := steady.tasks
  have active : (s.tally.active : Int) =
      (s.near.filterMap Turn.start?).length + (s.flights).card := sound.active
  exact ⟨Multiset.card_eq_zero.mp (by omega), List.eq_nil_of_length_eq_zero (by omega)⟩

/-- In every state of a run under a single slot the consumer is prompt. -/
theorem prompt_of_passes (allow : rules.Allow consumer.listener)
    (may : interruption = {} ∨ rules.cancels) (single : rules.bound = some 1)
    (quick : consumer.delay = 0)
    (passes : Passes consumer rules.launch detour feed
      (initial rules.tally cancellable interruption) t) : t.Prompt := by
  have calm {t : Stream} (passes : Passes consumer rules.launch detour feed
      (initial rules.tally cancellable interruption) t) (here : t.Here) : t.Calm := by
    obtain ⟨steady, sound, attended, closes⟩ := present_of_here allow may passes here
    exact attended.calm closes steady sound
  unfold Passes at passes
  induction passes with
  | refl =>
    obtain ⟨-, idle, empty⟩ := initial_asks rules.tally cancellable interruption
    have fresh : (initial rules.tally cancellable interruption).Prompt := by
      rw [Prompt, idle, empty]
      rfl
    exact fresh.defer (defers_pull detour feed.items _) (calm .refl attended_initial.here)
  | @tail s t passed next ih =>
    rcases attended_of_passes (Relation.ReflTransGen.tail passed next) with attended | departed
    · have here : s.Here := attended.here.of_before passed (.single next)
      have sound := (moves_of_here allow may passed here).1.sound
      exact prompt_of_next? ih sound single quick here (calm (passed.tail next) attended.here) next
    · obtain ⟨s, e, error, -, winds⟩ := departed
      unfold Prompt
      rcases winds.consumer with state | state <;>
      · rw [state]
        trivial

/-- A prompt consumer has to hear of at most one event, and of none while a launch is running. -/
theorem Prompt.length_unheard (prompt : s.Prompt) (here : s.Here) (closes : s.Sealed) :
    s.unheard.length = 0 ∨ s.unheard.length = 1 ∧ s.flights = 0 := by
  rw [unheard]
  cases state : s.consumer with
  | idle =>
    have empty : s.queue.reduceOption = [] := by
      rw [Prompt, state] at prompt
      exact prompt
    rw [empty]
    exact .inl rfl
  | called =>
    rw [Prompt, state] at prompt
    obtain ⟨few, landed, -⟩ := prompt
    have length : (s.queue.reduceOption).length = 0 ∨ (s.queue.reduceOption).length = 1 := by omega
    exact length.imp_right (⟨·, landed⟩)
  | busy e =>
    rw [Prompt, state] at prompt
    exact prompt.elim
  | joining =>
    have hears := closes.queue
    rw [state] at hears
    rw [hears.2]
    exact .inl rfl
  | leaving error => exact absurd state (here error).1
  | gone error => exact absurd state (here error).2

/-- **When the consumer hears of an event, as many launches have started as it has heard of events,
that one included**, and at most one batch has a slot but has not started. -/
theorem Hearing.launched_of_single (allow : rules.Allow consumer.listener)
    (may : interruption = {} ∨ rules.cancels) (single : rules.bound = some 1)
    (quick : consumer.delay = 0) (listens : consumer.listener.isSome = true)
    (passes : Passes consumer rules.launch detour feed
      (initial rules.tally cancellable interruption) s)
    (next : next? consumer rules.launch detour s = some t) (here : s.Here)
    (whole : s.tally.fault = none) {before : History} {time : Nat} {e : Event}
    (hearing : Hearing consumer before ⟨time, .delivered e⟩ s t) :
    before.launched.length = before.heard.length + 1 ∧
      before.admitted.length ≤ before.launched.length + 1 := by
  obtain ⟨-, sound, -, closes⟩ := present_of_here allow may passes here
  obtain ⟨early, admitted, launched⟩ := hearing.quiet
  obtain ⟨⟨rest, ready, rfl⟩, first, last, rfl, told⟩ := hearing
  have heard : Hears consumer { s with ready := rest } _ := hears_consume { s with ready := rest }
  have results := congrArg List.length heard.completed
  -- what the consumer has heard of after its turn is among the results before it
  have before := (announces_of_passes allow may passes).1.length_completed listens
  have after := (announces_of_passes allow may (passes.tail next)).1.length_completed listens
  have one : History.heard (⟨time, .delivered e⟩ :: last) = e :: History.heard last := rfl
  rw [told, History.heard_append, History.heard_append, one, List.length_append,
    List.length_append, List.length_cons] at after
  change _ = s.tally.completed.length at results
  obtain ⟨pending, flights⟩ : s.unheard.length = 1 ∧ s.flights = 0 :=
    ((prompt_of_passes allow may single quick passes).length_unheard here closes).resolve_left
      (by omega)
  have still : s.roster.running.card = 0 := Multiset.card_eq_zero.mpr flights
  have started := sound.length_completed whole
  rw [still, Nat.add_zero] at started
  change s.tally.completed.length = s.history.launched.length at started
  refine ⟨?_, ?_⟩
  · rw [← launched, History.heard_append, List.length_append]
    omega
  · rw [← launched, admitted.trans early.symm]
    exact sound.length_admitted_le single

end Stream

end BatchExec
