import BatchExec.Proofs.Stream.Journal
import BatchExec.Proofs.Timetable

/-!
# The timetable of an event-driven run

If the source has no delays and nobody cancels the run, whatever comes next in an event-driven run
is a chain of moves of its timetable. Turns take no time, so that a launch ends when its time is
over, however many turns that takes. Time passes only when nobody has a turn, and then every slot is
taken or every launch has started.

* `Stream.timetable`: what the clock tells of a state.
* `Stream.Idles`: an operation neither starts nor ends a launch.
* `Stream.timed_of_next?`: **whatever comes next is a chain of moves.**
* `Stream.greedy_of_passes`: **in no state a slot has idled.**
* `Stream.full_of_next?`: **when time passes while a batch waits, every slot is taken.**
-/

namespace BatchExec

/-! ## Notes -/

/-- The end of a launch moves no other batch on. -/
theorem Tally.quiet_finish (t : Tally) (b : Batch) (ending : Ending) :
    ∀ e ∈ (t.finish b ending).2.1, e.isQuiet = true := by
  have released : ∀ e ∈ (t.release b.index).2, e.isQuiet = true := by
    unfold release
    split <;> simp [fail, Happening.isQuiet]
  have more {happenings : List Happening} (quiet : ∀ e ∈ happenings, e.isQuiet = true) :
      ∀ e ∈ (t.release b.index).2 ++ happenings, e.isQuiet = true := fun e mem =>
    (List.mem_append.mp mem).elim (released e) (quiet e)
  unfold finish
  dsimp only
  split
  · exact more (by simp [fail, Happening.isQuiet])
  · exact more (by simp [fail, Happening.isQuiet])
  · exact more (quiet_recorded _ _)

/-! ## Timers -/

/-- The batch whose launch a turn is one of, with a time at which it is to end. -/
def Turn.due? (time : Nat) (turn : Turn) : Option (Batch × Nat) :=
  turn.flight?.map fun f => (f.batch, time)

/-- Timers are in order, and each belongs to a launch or, if the consumer pauses, to the consumer.
-/
structure TurnTimer.InOrder (pauses : Prop) (now : Nat) (timers : List TurnTimer) : Prop where
  sorted : timers.Pairwise (·.time ≤ ·.time)
  ahead : ∀ t ∈ timers, now ≤ t.time
  owned : ∀ t ∈ timers, t.turn.flight?.isSome = true ∨ pauses ∧ t.turn = .alarm

theorem TurnTimer.sorted_insert (t : TurnTimer) {timers : List TurnTimer}
    (sorted : timers.Pairwise (·.time ≤ ·.time)) :
    (insert t timers).Pairwise (·.time ≤ ·.time) := by
  induction timers with
  | nil => exact List.pairwise_singleton _ t
  | cons next rest ih =>
    obtain ⟨first, sorted⟩ := List.pairwise_cons.mp sorted
    unfold insert
    split
    · rename_i earlier
      refine List.pairwise_cons.mpr ⟨fun u mem => ?_, ih sorted⟩
      rcases List.mem_cons.mp ((insert_perm t rest).mem_iff.mp mem) with rfl | old
      · exact earlier
      · exact first u old
    · rename_i later
      refine List.pairwise_cons.mpr ⟨fun u mem => ?_, List.pairwise_cons.mpr ⟨first, sorted⟩⟩
      rcases List.mem_cons.mp mem with rfl | old
      · exact Nat.le_of_not_le later
      · exact Nat.le_trans (Nat.le_of_not_le later) (first u old)

theorem TurnTimer.InOrder.insert {pauses : Prop} {now : Nat} {timers : List TurnTimer}
    (order : InOrder pauses now timers) (t : TurnTimer) (ahead : now ≤ t.time)
    (owned : t.turn.flight?.isSome = true ∨ pauses ∧ t.turn = .alarm) :
    InOrder pauses now (TurnTimer.insert t timers) where
  sorted := sorted_insert t order.sorted
  ahead := fun u mem => by
    rcases List.mem_cons.mp ((insert_perm t timers).mem_iff.mp mem) with rfl | old
    · exact ahead
    · exact order.ahead u old
  owned := fun u mem => by
    rcases List.mem_cons.mp ((insert_perm t timers).mem_iff.mp mem) with rfl | old
    · exact owned
    · exact order.owned u old

namespace Stream

variable {rules : Rules} {consumer : Consumer} {s t u : Stream}

/-- The launches that are running, each with the time at which it is to end. -/
def dues (s : Stream) : Multiset (Batch × Nat) :=
  ((s.ready ++ s.upcoming).filterMap (Turn.due? s.now) : List (Batch × Nat)) +
    (s.timers.filterMap fun t => t.turn.due? t.time : List (Batch × Nat))

/-- What the clock tells of a state. -/
def timetable (s : Stream) : Timetable := ⟨s.now, s.history.starts, s.history.ends, s.dues⟩

/-- The timers are in order, and the source has no delays. -/
def Tidy (consumer : Consumer) (s : Stream) : Prop :=
  TurnTimer.InOrder (consumer.delay ≠ 0) s.now s.timers ∧ ∀ item ∈ s.feed, item.delay = 0

theorem card_dues (s : Stream) : s.dues.card = s.flights.card := by
  have owes (turn : Turn) (time : Nat) : (turn.due? time).isSome = turn.flight?.isSome :=
    Option.isSome_map
  simp only [dues, flights, turns, Multiset.card_add, Multiset.coe_card, List.filterMap_append,
    List.filterMap_map, List.length_append, List.length_filterMap_eq_countP, owes,
    Function.comp_def]

theorem dues_call (s : Stream) (turn : Turn) :
    (s.call turn).dues = ((turn.due? s.now).toList : Multiset (Batch × Nat)) + s.dues := by
  have perm : ((s.call turn).ready ++ (s.call turn).upcoming).Perm
      ([turn] ++ (s.ready ++ s.upcoming)) := by
    simp only [call, ← List.append_assoc]
    exact List.perm_append_comm
  have near := Multiset.coe_eq_coe.mpr (perm.filterMap (Turn.due? s.now))
  have own : ([turn] ++ (s.ready ++ s.upcoming)).filterMap (Turn.due? s.now) =
      (turn.due? s.now).toList ++ (s.ready ++ s.upcoming).filterMap (Turn.due? s.now) := by
    cases due : turn.due? s.now <;> simp [due]
  rw [own, ← Multiset.coe_add] at near
  exact (congrArg (· + _) near).trans (Multiset.add_assoc _ _ _)

theorem dues_callAfter (s : Stream) (time : Nat) (turn : Turn) :
    (s.callAfter time turn).dues =
      ((turn.due? (s.now + time)).toList : Multiset (Batch × Nat)) + s.dues := by
  have perm := (TurnTimer.insert_perm ⟨s.now + time, turn⟩ s.timers).filterMap
    fun t => t.turn.due? t.time
  have far := Multiset.coe_eq_coe.mpr perm
  have own : (TurnTimer.mk (s.now + time) turn :: s.timers).filterMap
      (fun t => t.turn.due? t.time) = (turn.due? (s.now + time)).toList ++
        s.timers.filterMap fun t => t.turn.due? t.time := by
    cases due : turn.due? (s.now + time) <;> simp [due]
  rw [own, ← Multiset.coe_add] at far
  refine (congrArg (_ + ·) far).trans ((Multiset.add_assoc _ _ _).symm.trans ?_)
  exact (congrArg (· + _) (Multiset.add_comm _ _)).trans (Multiset.add_assoc _ _ _)

/-! ## Operations that take no time -/

/-- What comes next neither starts nor ends a launch and lets no time pass. -/
structure Idles (consumer : Consumer) (s t : Stream) : Prop where
  timetable : t.timetable = s.timetable
  tidy : s.Tidy consumer → t.Tidy consumer

theorem Idles.refl (s : Stream) : Idles consumer s s := ⟨rfl, id⟩

theorem Idles.trans (first : Idles consumer s t) (second : Idles consumer t u) :
    Idles consumer s u :=
  ⟨second.timetable.trans first.timetable, second.tidy ∘ first.tidy⟩

theorem idles_note (s : Stream) {happenings : List Happening}
    (aside : ∀ e ∈ happenings, e.isAside = true) : Idles consumer s (s.note happenings) := by
  obtain ⟨starts, ends⟩ := s.history.timed_of_aside aside s.now
  refine ⟨?_, id⟩
  rw [timetable, history_note, starts, ends]
  rfl

theorem idles_cancel (s : Stream) : Idles consumer s s.cancel := by
  unfold cancel
  split
  · have stopped : Idles consumer s { s with tally := s.tally.cancel } := ⟨rfl, id⟩
    exact stopped.trans (idles_note _ (by simp [Happening.isAside]))
  · exact .refl s

/-- Somebody who is no launch gets a turn. -/
theorem idles_call (s : Stream) {turn : Turn} (free : turn.flight? = none) :
    Idles consumer s (s.call turn) := by
  refine ⟨?_, id⟩
  rw [timetable, dues_call, Turn.due?, free]
  exact congrArg (Timetable.mk _ _ _) (Multiset.zero_add s.dues)

/-! ## The consumer -/

theorem idles_hear (s : Stream) (e : Event) : Idles consumer s (hear consumer s e) := by
  have heard : Idles consumer s
      (if consumer.listener.isSome then s.note [.delivered e] else s) := by
    split
    · exact idles_note s (by simp [Happening.isAside])
    · exact .refl s
  unfold hear
  dsimp only
  split
  · exact heard.trans (idles_cancel _)
  · exact heard

/-- Whoever is called because the producer goes on to its end is no launch. -/
theorem idles_of_rings (rings : Rings s t) : Idles consumer s t := by
  obtain ⟨calls, upcoming, rung⟩ := rings.calls
  have free : calls.filterMap (Turn.due? s.now) = [] := by
    rw [List.filterMap_eq_nil_iff]
    intro turn mem
    rcases rung turn mem with rfl | rfl <;> rfl
  constructor
  · simp only [timetable, dues, history, rings.now, rings.past, rings.ready, rings.timers, upcoming,
      List.filterMap_append, free, List.append_nil]
  · unfold Tidy
    rw [rings.timers, rings.now, rings.feed]
    exact id

theorem idles_handle (stays : consumer.Stays) (s : Stream) (e : Event) :
    Idles consumer s (handle consumer s e) := by
  have rests : Idles consumer s { s with consumer := .idle } := ⟨rfl, id⟩
  unfold handle
  dsimp only
  rw [stays e]
  exact rests.trans (idles_hear _ e)

theorem idles_deliver (stays : consumer.Stays) (items : List (Option Event)) (s : Stream) :
    Idles consumer s (deliver consumer items s) := by
  fun_induction deliver consumer items s with
  | case1 s => exact ⟨rfl, id⟩
  | case2 rest s idle => exact ⟨rfl, id⟩
  | case3 rest s e idle prompt ih => exact (idles_handle stays s e).trans ih
  | case4 rest s e idle pauses =>
    refine ⟨?_, fun tidy => ⟨?_, tidy.2⟩⟩
    · rw [timetable, dues_callAfter]
      exact congrArg (Timetable.mk _ _ _) (Multiset.zero_add s.dues)
    · exact tidy.1.insert ⟨s.now + consumer.delay, .alarm⟩ (Nat.le_add_right _ _)
        (.inr ⟨pauses, rfl⟩)
  | case5 item rest s busy => exact ⟨rfl, id⟩

theorem idles_consume (stays : consumer.Stays) (s : Stream) :
    Idles consumer s (consume consumer s) := by
  have attends (state : ConsumerState) : Idles consumer s
      (deliver consumer s.queue { s with consumer := state }) := by
    have rests : Idles consumer s { s with consumer := state } := ⟨rfl, id⟩
    exact rests.trans (idles_deliver stays s.queue _)
  unfold consume
  split
  · exact (idles_handle stays s _).trans (idles_deliver stays _ _)
  · exact attends .idle
  · exact attends _
  · exact idles_deliver stays _ s

theorem idles_put (s : Stream) (item : Option Event) : Idles consumer s (s.put item) := by
  unfold put
  split
  · have queued : Idles consumer s { s with queue := s.queue ++ [item], consumer := .called } :=
      ⟨rfl, id⟩
    exact queued.trans (idles_call _ rfl)
  · exact ⟨rfl, id⟩

/-! ## The producer -/

theorem idles_grant (s : Stream) : Idles consumer s s.grant := by
  unfold grant
  split
  · rename_i b tally _ _
    have kept : Idles consumer s { s with tally, producer := .granted b } := ⟨rfl, id⟩
    exact kept.trans (idles_call _ rfl)
  · exact .refl s

theorem idles_refuse (s : Stream) (b : Batch) : Idles consumer s (s.refuse b) := by
  have noted : Idles consumer s (s.note [.refused b]) := idles_note s (by simp [Happening.isAside])
  exact noted.trans (idles_of_rings (rings_refuse s b))

theorem idles_admitBatch (s : Stream) (b : Batch) : Idles consumer s (s.admitBatch b) := by
  have counted : Idles consumer s
      { s with tally := s.tally.count, tasks := s.tasks + 1, producer := .asking } := ⟨rfl, id⟩
  exact counted.trans ((idles_note _ (by simp [Happening.isAside])).trans (idles_call _ rfl))

theorem idles_receive (s : Stream) (b : Batch) : Idles consumer s (s.receive b) := by
  have received : Idles consumer s (s.note [.received b]) :=
    idles_note s (by simp [Happening.isAside])
  simp only [receive]
  split
  · exact received.trans (idles_refuse _ b)
  · split
    · rename_i tally _
      have kept : Idles consumer s { s.note [.received b] with tally } := received.trans ⟨rfl, id⟩
      exact kept.trans (idles_admitBatch _ b)
    · exact received.trans ⟨rfl, id⟩

/-- The source hands over its next batch. -/
theorem idles_feed {item : FeedItem} {rest : List FeedItem} (next : s.feed = item :: rest) :
    Idles consumer s { s with feed := rest } := by
  refine ⟨rfl, fun tidy => ⟨tidy.1, fun other mem => tidy.2 other ?_⟩⟩
  rw [next]
  exact List.mem_cons_of_mem item mem

/-- The producer asks for batches. -/
theorem idles_pull (detour : Bool) (items : List FeedItem) (s : Stream) :
    Idles consumer { s with feed := items } (pull detour items s) := by
  have requested (s : Stream) (items : List FeedItem) :
      Idles consumer { s with feed := items } { s.note [.requested] with feed := items } :=
    idles_note { s with feed := items } (by simp [Happening.isAside])
  have waits (s : Stream) (items : List FeedItem) : Idles consumer { s with feed := items }
      { s.note [.requested] with feed := items, producer := .waiting } :=
    (requested s items).trans ⟨rfl, id⟩
  fun_induction pull detour items s with
  | case1 s noted => exact (waits s []).trans (idles_call _ rfl)
  | case2 s noted => exact (requested s []).trans (idles_of_rings (rings_close _ false))
  | case3 item rest s noted asked delayed =>
    refine (waits s (item :: rest)).trans ⟨?_, fun tidy => ?_⟩
    · rw [timetable, dues_callAfter]
      exact congrArg (Timetable.mk _ _ _) (Multiset.zero_add _)
    · exact absurd (tidy.2 item List.mem_cons_self) delayed
  | case4 item rest s noted asked => exact (waits s (item :: rest)).trans (idles_call _ rfl)
  | case5 item rest s noted prompt direct received again ih =>
    have handed : Idles consumer { noted with feed := item :: rest } { noted with feed := rest } :=
      idles_feed rfl
    have got := handed.trans (idles_receive _ item.batch)
    have left : received.feed = rest := feed_receive _ _
    have same : { received with feed := rest } = received := by rw [← left]
    rw [same] at ih
    exact (requested s (item :: rest)).trans (got.trans ih)
  | case6 item rest s noted prompt direct received stays =>
    have handed : Idles consumer { noted with feed := item :: rest } { noted with feed := rest } :=
      idles_feed rfl
    have got := handed.trans (idles_receive _ item.batch)
    exact (requested s (item :: rest)).trans got

/-- The producer takes what the source has handed over, or a slot. -/
theorem idles_take (s : Stream) : Idles consumer s s.take := by
  unfold take
  split
  · exact idles_of_rings (rings_close s false)
  · rename_i item rest _ next
    exact (idles_feed next).trans (idles_receive _ item.batch)
  · rename_i b _
    split
    · have returned : Idles consumer s { s with tally := s.tally.giveBack } := ⟨rfl, id⟩
      exact returned.trans (idles_refuse _ b)
    · exact idles_admitBatch s b
  · rename_i slot _
    have back : Idles consumer s
        { s with tally := if slot then s.tally.giveBack else s.tally } := ⟨rfl, id⟩
    exact back.trans (idles_of_rings (rings_close _ false))
  · exact .refl s

/-- The producer goes on. -/
theorem idles_produce (detour : Bool) (s : Stream) : Idles consumer s (s.produce detour) := by
  simp only [produce]
  split
  · exact (idles_take s).trans (idles_pull detour s.take.feed s.take)
  · exact idles_take s

/-! ## Launches -/

theorem idles_book (s : Stream) (b : Batch) (ending : Ending) :
    Idles consumer s (s.book (s.tally.finish b ending)) := by
  have settled : Idles consumer s { s with tally := (s.tally.finish b ending).1 } := ⟨rfl, id⟩
  have noted := settled.trans (idles_note _ fun e mem =>
    History.aside_of_quiet (s.tally.quiet_finish b ending e mem))
  have booked := noted.trans (idles_grant _)
  unfold book
  dsimp only
  split
  · exact booked.trans (idles_put _ _)
  · exact booked

theorem idles_conclude (s : Stream) : Idles consumer s s.conclude := by
  have closed : Idles consumer s { s with done := s.done + 1 } := ⟨rfl, id⟩
  exact closed.trans (idles_of_rings (rings_conclude s))

/-- A launch ends, of which no turn is left. -/
theorem timetable_finish (consumer : Consumer) (s : Stream) (b : Batch) (plan : Plan) :
    (s.finish b plan).timetable = s.timetable.land b s.dues ∧
      (s.Tidy consumer → (s.finish b plan).Tidy consumer) := by
  obtain ⟨noted, hnoted⟩ : ∃ noted, noted = s.note (.ended b :: plan.closing.map .remarked) :=
    ⟨_, rfl⟩
  have landed : noted.timetable = s.timetable.land b s.dues ∧
      (s.Tidy consumer → noted.Tidy consumer) := by
    obtain ⟨starts, ends⟩ := s.history.timed_ended s.now b plan.closing
    rw [hnoted, timetable, history_note, starts, ends]
    exact ⟨rfl, id⟩
  have booked (t : Stream) (idles : Idles consumer noted t) :
      (t.book (t.tally.finish b plan.ending)).conclude.timetable = s.timetable.land b s.dues ∧
        (s.Tidy consumer → (t.book (t.tally.finish b plan.ending)).conclude.Tidy consumer) := by
    have after := (idles.trans (idles_book t b plan.ending)).trans (idles_conclude _)
    exact ⟨after.timetable.trans landed.1, after.tidy ∘ landed.2⟩
  unfold finish
  dsimp only
  rw [← hnoted]
  split
  · exact booked _ (idles_cancel noted)
  · exact booked _ (.refl noted)

/-- A launch starts that takes some time. -/
theorem timetable_start (consumer : Consumer) (launch : Launcher) (s : Stream) (b : Batch)
    {duration : Nat} (lasts : (launch s.launched s.now b).duration = some duration) :
    (start launch s b).timetable = s.timetable.start b (s.now + duration) ∧
      (s.Tidy consumer → (start launch s b).Tidy consumer) := by
  obtain ⟨plan, planned⟩ : ∃ plan, plan = launch s.launched s.now b := ⟨_, rfl⟩
  obtain ⟨began, hbegan⟩ : ∃ began : Stream, began = note { s with launched := s.launched + 1 }
    (.started b :: plan.opening.map .remarked ++ plan.attempt.toList.map .attempted) := ⟨_, rfl⟩
  have noted : began.timetable =
      { s.timetable with starts := s.timetable.starts ++ [(b, s.now)] } ∧
      (s.Tidy consumer → began.Tidy consumer) := by
    obtain ⟨starts, ends⟩ := s.history.timed_start s.now b plan.opening plan.attempt
    rw [hbegan, timetable, history_note { s with launched := s.launched + 1 }]
    exact ⟨congrArg₂ (Timetable.mk s.now · · s.dues) starts ends, id⟩
  obtain ⟨now, starts, ends, dues⟩ := Timetable.mk.inj noted.1
  have slated {t : Stream} (same : t.timetable = ⟨began.now, began.history.starts,
      began.history.ends, (b, began.now + duration) ::ₘ began.dues⟩) :
      t.timetable = s.timetable.start b (s.now + duration) := by
    rw [same, now, starts, ends, dues]
    rfl
  have started : start launch s b = takeOff began ⟨b, plan⟩ := by
    rw [hbegan, planned]
    rfl
  rw [← planned] at lasts
  rw [started]
  unfold takeOff
  simp only [lasts]
  split
  · rename_i prompt
    refine ⟨slated ?_, noted.2⟩
    rw [timetable, dues_call, prompt.1]
    rfl
  · refine ⟨slated ?_, fun tidy => ⟨?_, (noted.2 tidy).2⟩⟩
    · rw [timetable, dues_callAfter]
      rfl
    · exact (noted.2 tidy).1.insert _ (Nat.le_add_right _ _) (.inl rfl)

/-! ## Turns -/

variable {all : List Batch} {lasts : Nat → Nat} {rest : List Turn}

/-- A turn that is next, apart from the other turns. -/
theorem dues_ready {turn : Turn} (ready : s.ready = turn :: rest) :
    s.dues = ((turn.due? s.now).toList : Multiset (Batch × Nat)) +
      dues { s with ready := rest } := by
  have near : (s.ready ++ s.upcoming).filterMap (Turn.due? s.now) =
      (turn.due? s.now).toList ++ (rest ++ s.upcoming).filterMap (Turn.due? s.now) := by
    rw [ready, List.cons_append, List.filterMap_cons]
    cases turn.due? s.now <;> rfl
  rw [dues, near, ← Multiset.coe_add]
  exact Multiset.add_assoc _ _ _

/-- The turns of no launch count for nothing. -/
theorem timetable_ready {turn : Turn} (ready : s.ready = turn :: rest)
    (free : turn.flight? = none) : timetable { s with ready := rest } = s.timetable := by
  rw [timetable, timetable, dues_ready ready, Turn.due?, free]
  exact congrArg (Timetable.mk _ _ _) (Multiset.zero_add _).symm

/-- A launch starts when it has its turn. -/
theorem timed_start_turn (consumer : Consumer) {b : Batch} (ready : s.ready = .start b :: rest)
    (sound : s.roster.Sound rules all) (orderly : ¬ rules.overtakes)
    (timed : rules.launch.Lasts lasts all) (pauses : Prop) :
    ∃ due, Timetable.Move (rules.basis lasts all.length pauses) s.timetable
        (s.timetable.start b due) ∧
      (start rules.launch { s with ready := rest } b).timetable = s.timetable.start b due ∧
      (s.Tidy consumer → (start rules.launch { s with ready := rest } b).Tidy consumer) := by
  have waits : s.roster.waiting = b :: (rest ++ s.upcoming).filterMap Turn.start? := by
    simp [roster, ready, Turn.start?]
  obtain ⟨next, room, takes⟩ := sound.next_of_waiting orderly waits timed
  obtain ⟨started, tidy⟩ :=
    timetable_start consumer rules.launch { s with ready := rest } b takes
  rw [timetable_ready ready rfl] at started
  refine ⟨s.now + lasts s.history.starts.length, .start s.timetable b next fun n limited => ?_,
    started, tidy⟩
  show s.dues.card < n
  rw [card_dues]
  exact room n limited

/-- A launch ends when it has its last turn. -/
theorem timed_finish_turn (consumer : Consumer) {b : Batch} {plan : Plan}
    (ready : s.ready = .relay b plan 0 :: rest) (basis : Timetable.Basis) :
    ∃ dues, Timetable.Move basis s.timetable (s.timetable.land b dues) ∧
      (finish { s with ready := rest } b plan).timetable = s.timetable.land b dues ∧
      (s.Tidy consumer → (finish { s with ready := rest } b plan).Tidy consumer) := by
  obtain ⟨finished, tidy⟩ := timetable_finish consumer { s with ready := rest } b plan
  exact ⟨_, .land s.timetable b (dues { s with ready := rest }) (dues_ready ready), finished, tidy⟩

/-- A launch that has turns left goes on when it has its turn. -/
theorem timetable_relay_turn {b : Batch} {plan : Plan} {turns : Nat}
    (ready : s.ready = .relay b plan (turns + 1) :: rest) :
    (call { s with ready := rest } (.relay b plan turns)).timetable = s.timetable := by
  have again : (call { s with ready := rest } (.relay b plan turns)).dues = s.dues := by
    rw [dues_call, dues_ready ready]
    rfl
  rw [timetable, again]
  rfl

/-- **A turn is a chain of moves** of the timetable, and it takes no time. -/
theorem timed_of_act (stays : consumer.Stays) (detour : Bool) {turn : Turn}
    (ready : s.ready = turn :: rest) (sound : s.roster.Sound rules all)
    (orderly : ¬ rules.overtakes) (timed : rules.launch.Lasts lasts all)
    (steady : s.Steady rules) (tidy : s.Tidy consumer) (pauses : Prop) :
    Timetable.Moves (rules.basis lasts all.length pauses) s.timetable
        (act consumer rules.launch detour { s with ready := rest } turn).timetable ∧
      (act consumer rules.launch detour { s with ready := rest } turn).now = s.now ∧
      (act consumer rules.launch detour { s with ready := rest } turn).Tidy consumer := by
  have plain {t : Stream} (free : turn.flight? = none)
      (idles : Idles consumer { s with ready := rest } t) :
      Timetable.Moves (rules.basis lasts all.length pauses) s.timetable t.timetable ∧
        t.now = s.now ∧ t.Tidy consumer := by
    have still : t.timetable = s.timetable := idles.timetable.trans (timetable_ready ready free)
    exact ⟨still ▸ .refl, congrArg Timetable.now still, idles.tidy tidy⟩
  cases turn with
  | cancel => exact plain rfl (idles_cancel _)
  | handOver => exact plain rfl (idles_call _ rfl)
  | produce => exact plain rfl (idles_produce detour _)
  | abort b time => exact (steady.rest ready).1.elim
  | gathered => exact plain rfl (idles_of_rings (rings_gather _))
  | alarm => exact plain rfl (idles_call _ rfl)
  | consume => exact plain rfl (idles_consume stays _)
  | start b =>
    obtain ⟨due, move, started, tidy'⟩ := timed_start_turn consumer ready sound orderly timed pauses
    exact ⟨started ▸ .single move, congrArg Timetable.now started, tidy' tidy⟩
  | relay b plan turns =>
    cases turns with
    | zero =>
      obtain ⟨dues, move, finished, tidy'⟩ :=
        timed_finish_turn consumer ready (rules.basis lasts all.length pauses)
      exact ⟨finished ▸ .single move, congrArg Timetable.now finished, tidy' tidy⟩
    | succ turns =>
      have still := timetable_relay_turn ready
      exact ⟨still ▸ .refl, congrArg Timetable.now still, tidy⟩

/-! ## Rounds -/

/-- A new round begins, before which no launch was to end and no turn was left. -/
theorem timetable_round (rested : s.ready = []) {time : Nat} (ahead : ∀ t ∈ s.timers, time ≤ t.time)
    (called : s.upcoming = [] ∨ time = s.now) (tidy : s.Tidy consumer) :
    (s.round time).timetable = s.timetable.pass time ∧ (s.round time).Tidy consumer := by
  have split : s.timers.takeWhile (·.time ≤ time) ++ s.timers.dropWhile (·.time ≤ time) =
      s.timers := List.takeWhile_append_dropWhile
  have due : ∀ t ∈ s.timers.takeWhile (·.time ≤ time), t.time = time := fun t mem =>
    Nat.le_antisymm (by simpa using List.mem_takeWhile_imp mem)
      (ahead t (split ▸ List.mem_append_left _ mem))
  have left : ∀ t ∈ s.timers.dropWhile (·.time ≤ time), t ∈ s.timers := fun t mem =>
    split ▸ List.mem_append_right _ mem
  constructor
  · have near : s.upcoming.filterMap (Turn.due? time) =
        (s.ready ++ s.upcoming).filterMap (Turn.due? s.now) := by
      rw [rested]
      rcases called with none | rfl
      · rw [none]
        rfl
      · rfl
    have awake : ((s.timers.takeWhile (·.time ≤ time)).map TurnTimer.turn).filterMap
        (Turn.due? time) =
        (s.timers.takeWhile (·.time ≤ time)).filterMap fun t => t.turn.due? t.time := by
      rw [List.filterMap_map]
      refine List.filterMap_congr fun t mem => ?_
      rw [due t mem]
      rfl
    have far : s.timers.filterMap (fun t => t.turn.due? t.time) =
        (s.timers.takeWhile (·.time ≤ time)).filterMap (fun t => t.turn.due? t.time) ++
          (s.timers.dropWhile (·.time ≤ time)).filterMap fun t => t.turn.due? t.time := by
      rw [← List.filterMap_append, split]
    have rung : (s.round time).dues = ((s.upcoming ++ (s.timers.takeWhile (·.time ≤ time)).map
        TurnTimer.turn).filterMap (Turn.due? time) : Multiset (Batch × Nat)) +
          (s.timers.dropWhile (·.time ≤ time)).filterMap fun t => t.turn.due? t.time := by
      simp only [dues, round, List.append_nil]
    have same : (s.round time).dues = s.dues := by
      rw [rung, dues, List.filterMap_append, near, awake, far, ← Multiset.coe_add,
        ← Multiset.coe_add, Multiset.add_assoc]
    rw [timetable, same]
    rfl
  · obtain ⟨⟨sorted, -, owned⟩, prompt⟩ := tidy
    refine ⟨⟨?_, fun t mem => ahead t (left t mem), fun t mem => owned t (left t mem)⟩, prompt⟩
    exact sorted.sublist (List.dropWhile_sublist _)

/-- When nobody has a turn, the launches that are running wait for their timers. -/
theorem mem_dues_of_idle (rested : s.ready = []) (idle : s.upcoming = []) {d : Batch × Nat} :
    d ∈ s.dues ↔ ∃ t ∈ s.timers, t.turn.due? t.time = some d := by
  have far : s.dues = (s.timers.filterMap fun t => t.turn.due? t.time : List (Batch × Nat)) := by
    rw [dues, rested, idle]
    exact Multiset.zero_add _
  rw [far, Multiset.mem_coe, List.mem_filterMap]

/-- When a producer that has asked for all batches has no launch left to start, every launch has
started. -/
theorem started_of_off (steady : s.Steady rules) (sound : s.roster.Sound rules all)
    (goes : s.tally.cancelled = false) (off : s.producer.isOff = true)
    (waiting : s.roster.waiting = []) :
    s.producer.held? = none ∧ s.history.starts.length = all.length := by
  have going := steady.going
  have spent := steady.spent
  have asks : s.roster.refused = false := by
    refine eq_false_of_ne_true fun refused => ?_
    exact absurd (goes.symm.trans (sound.shut refused).2.1) Bool.false_ne_true
  have held : s.producer.held? = none ∧ s.producer.isSpent = true := by
    change s.producer.stoppedEarly = false at asks
    cases state : s.producer with
    | gathering early cut | finished early =>
      rw [state] at asks
      obtain rfl : early = false := asks
      exact ⟨rfl, rfl⟩
    | halted slot =>
      rw [state] at going
      exact absurd going.symm Bool.false_ne_true
    | _ => simp [state, ProducerState.isOff] at off
  have left : s.roster.left = [] := by
    rw [roster, spent held.2]
    rfl
  have launched := sound.launched_of_spent left held.1 waiting asks
  refine ⟨held.1, ?_⟩
  rw [← launched.length_eq, History.launched, List.length_map]
  rfl

/-- When nobody has a turn, every slot is taken or every launch has started; if a batch waits for a
slot, every slot is taken by a running launch. -/
theorem busy_of_idle (attended : s.Attended) (steady : s.Steady rules)
    (sound : s.roster.Sound rules all) (goes : s.tally.cancelled = false)
    (tidy : s.Tidy consumer) (rested : s.ready = []) (idle : s.upcoming = []) :
    (s.producer.held? = none ∧ s.history.starts.length = all.length) ∨
      ∃ n, rules.bound = some n ∧ s.dues.card = n := by
  have turns : s.turns = s.timers.map TurnTimer.turn := by
    rw [Stream.turns, rested, idle]
    rfl
  have absent {turn : Turn} (free : turn.flight? = none) (other : turn ≠ .alarm) :
      turn ∉ s.turns := by
    rw [turns]
    intro mem
    obtain ⟨t, listed, rfl⟩ := List.mem_map.mp mem
    rcases tidy.1.owned t listed with flies | ⟨-, alarm⟩
    · rw [free] at flies
      exact Bool.false_ne_true flies
    · exact other alarm
  have handsOver : Turn.handOver ∉ s.turns := absent rfl (by simp)
  have produces : Turn.produce ∉ s.turns := absent rfl (by simp)
  have waiting : s.roster.waiting = [] := by
    rw [roster, rested, idle]
    rfl
  have served := attended.producer
  unfold ServesProducer at served
  cases state : s.producer with
  | asking =>
    rw [state] at served
    contradiction
  | waiting =>
    rw [state] at served
    exact absurd served (not_or.mpr ⟨handsOver, produces⟩)
  | granted b =>
    rw [state] at served
    exact absurd served produces
  | blocked b =>
    right
    have slots := steady.slots
    rw [state] at served slots
    rw [show s.tally.free = some 0 from served] at slots
    refine ⟨_, slots.symm, ?_⟩
    rw [card_dues]
    refine sound.running_of_full slots.symm ?_ waiting
    show ((0 + s.tally.active + 0 : Nat) : Int) ≤ s.tally.active
    omega
  | halted | gathering | finished =>
    exact .inl (state ▸ started_of_off steady sound goes (by rw [state]; rfl) waiting)

/-- **Whatever comes next is a chain of moves** of the timetable. -/
theorem timed_of_next? (stays : consumer.Stays) {detour : Bool} (attended : s.Attended)
    (steady : s.Steady rules) (sound : s.roster.Sound rules all) (orderly : ¬ rules.overtakes)
    (goes : s.tally.cancelled = false) (timed : rules.launch.Lasts lasts all)
    (tidy : s.Tidy consumer) (next : next? consumer rules.launch detour s = some t) :
    Timetable.Moves (rules.basis lasts all.length (consumer.delay ≠ 0)) s.timetable t.timetable ∧
      t.Tidy consumer := by
  unfold next? at next
  split at next
  · contradiction
  · split at next
    · rename_i turn rest ready
      cases next
      obtain ⟨moves, -, tidy⟩ := timed_of_act stays detour ready sound orderly timed steady tidy
        (consumer.delay ≠ 0)
      exact ⟨moves, tidy⟩
    · contradiction
    · rename_i timer timers rested idle waiting
      cases next
      obtain ⟨sorted, ahead, owned⟩ := tidy.1
      rw [waiting] at sorted ahead owned
      obtain ⟨first, -⟩ := List.pairwise_cons.mp sorted
      have le := ahead timer List.mem_cons_self
      have early : ∀ t ∈ s.timers, timer.time ≤ t.time := by
        rw [waiting]
        exact fun t mem => (List.mem_cons.mp mem).elim (fun same => same ▸ Nat.le_refl _) (first t)
      rw [Nat.max_eq_right le]
      obtain ⟨passed, tidy'⟩ := timetable_round rested early (.inl idle) tidy
      rw [passed]
      refine ⟨.single (.pass _ _ le ?_ ?_ ?_), tidy'⟩
      · intro d mem
        obtain ⟨t, listed, owes⟩ := (mem_dues_of_idle rested idle).mp mem
        obtain ⟨f, -, rfl⟩ := Option.map_eq_some_iff.mp owes
        exact early t listed
      · exact (busy_of_idle attended steady sound goes tidy rested idle).imp And.right
          fun ⟨n, limited, full⟩ => ⟨n, limited, Nat.le_of_eq full.symm⟩
      · rcases owned timer List.mem_cons_self with flies | ⟨pauses, -⟩
        · right
          obtain ⟨f, flight⟩ := Option.isSome_iff_exists.mp flies
          refine ⟨(f.batch, timer.time), (mem_dues_of_idle rested idle).mpr ⟨timer, ?_, ?_⟩, rfl⟩
          · rw [waiting]
            exact List.mem_cons_self
          · rw [Turn.due?, flight]
            rfl
        · exact .inl pauses
    · rename_i rested _ _
      cases next
      obtain ⟨passed, tidy'⟩ := timetable_round rested tidy.1.ahead (.inr rfl) tidy
      rw [passed]
      exact ⟨.refl, tidy'⟩

/-- **When time passes while a batch waits for a slot, every slot is taken** by a running launch. -/
theorem full_of_next? (stays : consumer.Stays) {detour : Bool} (attended : s.Attended)
    (steady : s.Steady rules) (sound : s.roster.Sound rules all) (orderly : ¬ rules.overtakes)
    (goes : s.tally.cancelled = false) (timed : rules.launch.Lasts lasts all)
    (tidy : s.Tidy consumer) {b : Batch} (holds : s.producer.held? = some b)
    (next : next? consumer rules.launch detour s = some t) (later : s.now < t.now) :
    ∃ n, rules.bound = some n ∧ s.flights.card = n := by
  unfold next? at next
  split at next
  · contradiction
  · split at next
    · rename_i turn rest ready
      cases next
      obtain ⟨-, now, -⟩ := timed_of_act stays detour ready sound orderly timed steady tidy True
      exact absurd now (Nat.ne_of_gt later)
    · contradiction
    · rename_i rested idle _
      rw [← card_dues]
      refine (busy_of_idle attended steady sound goes tidy rested idle).resolve_left ?_
      exact fun ⟨nothing, _⟩ => Option.some_ne_none b (holds.symm.trans nothing)
    · cases next
      exact absurd later (Nat.lt_irrefl s.now)

/-! ## Whole runs -/

variable {feed : Feed} {cancellable detour : Bool}

/-- **In no state a slot has idled.** -/
theorem greedy_of_passes (allow : rules.Allow consumer.listener) (stays : consumer.Stays)
    (orderly : ¬ rules.overtakes) (free : rules.Unhindered lasts feed)
    (passes : Passes consumer rules.launch detour feed (initial rules.tally cancellable {}) t) :
    t.timetable.Greedy (rules.basis lasts feed.batches.length (consumer.delay ≠ 0)) ∧
      t.Tidy consumer := by
  have passed := passes
  unfold Passes at passes
  induction passes with
  | refl =>
    have pulled : Idles consumer _ _ :=
      idles_pull detour feed.items (initial rules.tally cancellable {})
    refine ⟨?_, pulled.tidy ⟨⟨.nil, ?_, ?_⟩, free.prompt⟩⟩
    · rw [pulled.timetable]
      exact Timetable.greedy_initial _
    · exact fun _ mem => absurd mem List.not_mem_nil
    · exact fun _ mem => absurd mem List.not_mem_nil
  | @tail s t before next ih =>
    obtain ⟨greedy, tidy⟩ := ih before
    have here := here_of_stays stays before
    obtain ⟨steady, sound, attended, -⟩ := present_of_here allow (.inl rfl) before here
    obtain ⟨timed, tidy⟩ :=
      timed_of_next? stays attended steady sound orderly (free.going sound) free.lasts tidy next
    exact ⟨greedy.of_moves timed, tidy⟩

end Stream

end BatchExec
