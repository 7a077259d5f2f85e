import BatchExec.Proofs.Announcement
import BatchExec.Proofs.Stream.Journal
import BatchExec.Proofs.Tally

/-!
# The events of an event-driven run

In an event-driven run the events of the results go through a queue. In every state the consumer has
taken from it all events that the history calls for, in turn, but those that it has not heard of.

* `Stream.Carries`: what comes next takes nothing back, and the history goes on fitting the books.
* `Stream.carries_finish`: the end of a launch.
* `Stream.carries_of_next?`: **whatever comes next, the events that the consumer has taken and those
  that it has not heard of are those of the results.**
* `Stream.announces_of_passes`: so it is in every state of a run.
-/

namespace BatchExec

/-- The end of a launch brings at most one result, and tells nobody of it. -/
theorem Tally.notes_finish (t : Tally) (b : Batch) (ending : Ending) :
    ((t.finish b ending).2.1.filter fun e => !e.isIdle) =
        (ending.resultFor? b).toList.map .recorded ∧
      ∀ now, History.heard ((t.finish b ending).2.1.map (⟨now, ·⟩)) = [] := by
  have released : ((t.release b.index).2.filter fun e => !e.isIdle) = [] ∧
      ∀ now, History.heard ((t.release b.index).2.map (⟨now, ·⟩)) = [] := by
    unfold release
    split <;> exact ⟨rfl, fun _ => rfl⟩
  have append (more : List Happening) (silent : ∀ now, History.heard (more.map (⟨now, ·⟩)) = [])
      (now : Nat) :
      History.heard (((t.release b.index).2 ++ more).map (⟨now, ·⟩)) = [] := by
    rw [List.map_append, History.heard_append, released.2, silent]
    rfl
  unfold finish
  dsimp only
  split
  · refine ⟨?_, append _ fun _ => rfl⟩
    rw [List.filter_append, released.1]
    rfl
  · rename_i none
    refine ⟨?_, append _ fun _ => rfl⟩
    rw [List.filter_append, released.1, none]
    rfl
  · rename_i r _ brings
    refine ⟨?_, append _ fun now => ?_⟩
    · rw [List.filter_append, released.1, brings]
      unfold record
      dsimp only
      split <;> rfl
    · unfold record
      dsimp only
      split <;> rfl

namespace Stream

variable {receiver : Listener} {s t u : Stream} {pending pending' pending'' : List Event}

/-- The books agree with the history, and all events but these have been taken from the queue. -/
def Announces (receiver : Listener) (s : Stream) (pending : List Event) : Prop :=
  s.history.Announces receiver s.tally.active s.tally.completed pending

/-- What comes next takes nothing back, and if all events but some have been taken before, all but
these have been taken after. -/
structure Carries (receiver : Listener) (s : Stream) (pending : List Event) (t : Stream)
    (pending' : List Event) : Prop where
  outlives : s.tally.Outlives t.tally
  announces : s.Announces receiver pending → t.Announces receiver pending'

theorem Carries.refl (s : Stream) (pending : List Event) : Carries receiver s pending s pending :=
  ⟨.refl s.tally, id⟩

theorem Carries.trans (first : Carries receiver s pending t pending')
    (second : Carries receiver t pending' u pending'') :
    Carries receiver s pending u pending'' :=
  ⟨first.outlives.trans second.outlives, second.announces ∘ first.announces⟩

theorem carries_note (s : Stream) {happenings : List Happening}
    (silent : ∀ e ∈ happenings, e.isIdle = true ∧ e.event? = none) (pending : List Event) :
    Carries receiver s pending (s.note happenings) pending := by
  refine ⟨.refl s.tally, fun announces => ?_⟩
  rw [Announces, history_note]
  exact announces.silent silent s.now

theorem carries_cancel (s : Stream) (pending : List Event) :
    Carries receiver s pending s.cancel pending := by
  unfold cancel
  split
  · have cancelled : Carries receiver s pending { s with tally := s.tally.cancel } pending :=
      ⟨.of_eq rfl rfl rfl, id⟩
    exact cancelled.trans (carries_note _ (by simp [Happening.isIdle, Happening.event?]) pending)
  · exact .refl s pending

/-- Whoever is called because the producer goes on to its end hears of nothing. -/
theorem carries_of_rings (rings : Rings s t) (pending : List Event) :
    Carries receiver s pending t pending := by
  refine ⟨?_, fun announces => ?_⟩
  · rw [rings.tally]
    exact .refl s.tally
  · unfold Announces history at announces ⊢
    rw [rings.past, rings.tally]
    exact announces

theorem Carries.of_rings (rings : Rings s t) : Carries receiver s s.unheard t t.unheard :=
  (unheard_of_rings rings).symm ▸ carries_of_rings rings s.unheard

theorem carries_conclude (s : Stream) :
    Carries receiver s s.unheard s.conclude s.conclude.unheard := by
  have rung : Carries receiver { s with done := s.done + 1 } s.unheard s.conclude
      s.conclude.unheard := .of_rings (rings_conclude s)
  exact ⟨rung.outlives, rung.announces⟩

/-! ## The consumer -/

variable (consumer : Consumer)

/-- The consumer hears of the next event. -/
theorem carries_hear (s : Stream) (e : Event) (pending : List Event) :
    Carries consumer.listener s (e :: pending) (hear consumer s e) pending := by
  have heard : Carries consumer.listener s (e :: pending)
      (if consumer.listener.isSome then s.note [.delivered e] else s) pending := by
    refine ⟨?_, fun announces => ?_⟩
    · split <;> exact .refl s.tally
    · have taken := announces.delivered s.now
      split
      · rename_i listens
        rw [if_pos listens] at taken
        rw [Announces, history_note]
        exact taken
      · rename_i deaf
        rwa [if_neg deaf, List.append_nil] at taken
  unfold hear
  dsimp only
  split
  · exact heard.trans (carries_cancel _ pending)
  · exact heard

/-- Who leaves takes nothing with it. -/
theorem carries_leave (s : Stream) (error : Option RunError) (pending : List Event) :
    Carries receiver s pending (s.leave error) pending ∧
      (s.leave error).consumer.event? = none ∧ (s.leave error).queue = s.queue := by
  have killed : Carries receiver s pending (s.note (s.running.map .killed)) pending :=
    carries_note s (fun event mem => by
      obtain ⟨b, -, rfl⟩ := List.mem_map.mp mem
      exact ⟨rfl, rfl⟩) pending
  have cut : Carries receiver s pending (s.cutOff error) pending :=
    ⟨killed.outlives, killed.announces⟩
  unfold leave
  dsimp only
  split
  · exact ⟨⟨cut.outlives, cut.announces⟩, rfl, rfl⟩
  · have called := spares_notify (s.cutOff error)
    refine ⟨cut.trans (carries_of_rings (rings_notify _) pending), ?_, called.queue⟩
    rw [called.consumer]
    rfl

/-- The consumer handles the next event. -/
theorem carries_handle (s : Stream) (e : Event) (pending : List Event) :
    Carries consumer.listener s (e :: pending) (handle consumer s e) pending ∧
      (handle consumer s e).consumer.event? = none ∧ (handle consumer s e).queue = s.queue := by
  have attends : Carries consumer.listener s (e :: pending) { s with consumer := .idle }
      (e :: pending) := ⟨.refl s.tally, id⟩
  have heard := attends.trans (carries_hear consumer { s with consumer := .idle } e pending)
  have spared := spares_hear consumer { s with consumer := .idle } e
  unfold handle
  dsimp only
  split
  · rename_i error _
    obtain ⟨left, none, queue⟩ :=
      carries_leave (hear consumer { s with consumer := .idle } e) error pending
    exact ⟨heard.trans left, none, queue.trans spared.queue⟩
  · refine ⟨heard, ?_, spared.queue⟩
    rw [spared.consumer]
    rfl

/-- The consumer takes what the queue holds. -/
theorem carries_deliver (items : List (Option Event)) (s : Stream) :
    Carries consumer.listener s (s.consumer.event?.toList ++ items.reduceOption)
      (deliver consumer items s) (deliver consumer items s).unheard := by
  fun_induction deliver consumer items s with
  | case1 s => exact ⟨.refl s.tally, id⟩
  | case2 rest s idle =>
    rw [idle]
    exact ⟨.refl s.tally, id⟩
  | case3 rest s e idle prompt ih =>
    obtain ⟨handled, none, -⟩ := carries_handle consumer s e rest.reduceOption
    rw [none] at ih
    rw [idle]
    exact handled.trans ih
  | case4 rest s e idle pauses =>
    rw [idle]
    exact ⟨.refl s.tally, id⟩
  | case5 item rest s busy => exact ⟨.refl s.tally, id⟩

/-- The consumer goes on. -/
theorem carries_consume (s : Stream) :
    Carries consumer.listener s s.unheard (consume consumer s) (consume consumer s).unheard := by
  unfold consume
  dsimp only
  split
  · rename_i e busy
    obtain ⟨handled, none, queue⟩ := carries_handle consumer s e s.queue.reduceOption
    have delivered := carries_deliver consumer (handle consumer s e).queue (handle consumer s e)
    rw [none, queue] at delivered
    rw [unheard, busy, queue]
    exact handled.trans delivered
  · rename_i called
    have unheard : s.unheard = s.queue.reduceOption := by
      rw [unheard, called]
      rfl
    have delivered := carries_deliver consumer s.queue { s with consumer := .idle }
    rw [unheard]
    exact ⟨delivered.outlives, delivered.announces⟩
  · rename_i error leaving
    have unheard : s.unheard = s.queue.reduceOption := by
      rw [unheard, leaving]
      rfl
    have delivered := carries_deliver consumer s.queue { s with consumer := .gone error }
    rw [unheard]
    exact ⟨delivered.outlives, delivered.announces⟩
  · exact carries_deliver consumer s.queue s

/-! ## Launches -/

/-- An event is put into the queue. -/
theorem carries_put (s : Stream) (e : Event) :
    Carries receiver s (s.unheard ++ [e]) (s.put (some e)) (s.put (some e)).unheard := by
  have queued : s.unheard ++ [e] =
      s.consumer.event?.toList ++ (s.queue ++ [some e]).reduceOption := by
    rw [List.reduceOption_append, ← List.append_assoc]
    rfl
  unfold put
  dsimp only
  rw [queued]
  split
  · rename_i idle
    rw [idle]
    exact ⟨.refl s.tally, id⟩
  · exact ⟨.refl s.tally, id⟩

theorem carries_grant (s : Stream) (pending : List Event) :
    Carries receiver s pending s.grant pending := by
  unfold grant
  split
  · rename_i b tally waits reserved
    rw [(Tally.reserve?_eq reserved).1]
    exact ⟨.of_eq rfl rfl rfl, id⟩
  · exact .refl s pending

/-- The result of a launch that has ended is recorded, and its event is pending. -/
theorem announces_result {b : Batch} (ended : s.history.landed.getLast? = some b) (ending : Ending)
    (announces : s.history.Announces receiver (s.tally.active - 1 : Nat) s.tally.completed
      s.unheard) :
    (note { s with tally := (s.tally.finish b ending).1 } (s.tally.finish b ending).2.1).Announces
      receiver (s.unheard ++ (s.tally.finish b ending).2.2.toList) := by
  obtain ⟨only, quiet⟩ := s.tally.notes_finish b ending
  obtain ⟨-, active, completed, event⟩ := s.tally.ends_finish b ending
  have own : ∀ r ∈ ending.resultFor? b, ∃ b ∈ s.history.landed.getLast?, r.index = b.index :=
    fun r brings => ⟨b, ended, Flight.index_of_result? (f := ⟨b, { ending }⟩) brings⟩
  have after := announces.notes only s.now own (quiet s.now)
  have made : (s.tally.finish b ending).2.2.toList = (ending.resultFor? b).toList.map
      (⟨·, s.tally.completed.length + 1, (s.tally.active - 1 : Nat)⟩) := by
    rw [event, completed, active]
    cases ending.resultFor? b <;> simp
  rw [made, Announces, history_note]
  show History.Announces receiver _ (s.tally.finish b ending).1.active
    (s.tally.finish b ending).1.completed _
  rw [completed, active]
  exact after

/-- A launch that has ended frees its slot, and its result is recorded. -/
theorem carries_book (s : Stream) (b : Batch) (ending : Ending)
    (ended : s.history.landed.getLast? = some b) :
    s.tally.Outlives (s.book (s.tally.finish b ending)).tally ∧
      (s.history.Announces receiver (s.tally.active - 1 : Nat) s.tally.completed s.unheard →
        (s.book (s.tally.finish b ending)).Announces receiver
          (s.book (s.tally.finish b ending)).unheard) := by
  have recorded (announces : s.history.Announces receiver (s.tally.active - 1 : Nat)
      s.tally.completed s.unheard) := announces_result ended ending announces
  obtain ⟨noted, hnoted⟩ : ∃ noted,
    noted = note { s with tally := (s.tally.finish b ending).1 } (s.tally.finish b ending).2.1 :=
      ⟨_, rfl⟩
  have outlives : s.tally.Outlives noted.tally := by
    rw [hnoted]
    exact Tally.outlives_finish s.tally b ending
  have left : noted.grant.unheard = s.unheard := by
    rw [unheard_grant, hnoted]
    rfl
  rw [← hnoted, ← left] at recorded
  have granted (pending : List Event) :
      Carries receiver noted pending noted.grant pending := carries_grant noted pending
  unfold book
  dsimp only
  rw [← hnoted]
  cases event : (s.tally.finish b ending).2.2 with
  | none =>
    rw [event, Option.toList_none, List.append_nil] at recorded
    refine ⟨outlives.trans (granted []).outlives, fun announces => ?_⟩
    exact (granted _).announces (recorded (left ▸ announces))
  | some e =>
    rw [event, Option.toList_some] at recorded
    have put : Carries receiver noted.grant _ _ _ := carries_put noted.grant e
    refine ⟨(outlives.trans (granted []).outlives).trans put.outlives, fun announces => ?_⟩
    exact put.announces ((granted _).announces (recorded (left ▸ announces)))

/-- Somebody cancels the run, be it in the middle of the end of a launch. -/
theorem announces_cancel {level : Int} (announces : s.history.Announces receiver level
    s.tally.completed s.unheard) :
    s.cancel.history.Announces receiver level s.cancel.tally.completed s.cancel.unheard := by
  unfold cancel
  split
  · rw [history_note]
    exact announces.silent (by simp [Happening.isIdle, Happening.event?]) s.now
  · exact announces

/-- **The end of a launch.** -/
theorem carries_finish (s : Stream) (held : 0 < s.tally.active) (b : Batch) (plan : Plan) :
    Carries receiver s s.unheard (s.finish b plan) (s.finish b plan).unheard := by
  obtain ⟨noted, hnoted⟩ : ∃ noted,
    noted = s.note (.ended b :: plan.closing.map .remarked) := ⟨_, rfl⟩
  have ended (announces : s.Announces receiver s.unheard) :
      noted.history.Announces receiver (noted.tally.active - 1 : Nat) noted.tally.completed
        noted.unheard := by
    have active : ((s.tally.active - 1 : Nat) : Int) = s.tally.active - 1 := by omega
    have after := History.Announces.ended announces s.now b plan.closing
    rw [← active, ← history_note, ← hnoted] at after
    have books : noted.tally = s.tally ∧ noted.unheard = s.unheard := by
      rw [hnoted]
      exact ⟨rfl, rfl⟩
    rw [books.1, books.2]
    exact after
  have last : noted.history.landed.getLast? = some b := by
    rw [hnoted, history_note]
    exact History.getLast?_landed _ _ _ _
  have outlives : s.tally.Outlives noted.tally := by
    rw [hnoted]
    exact .refl s.tally
  have concludes {t : Stream} (booked : s.tally.Outlives t.tally ∧
      (s.Announces receiver s.unheard → t.Announces receiver t.unheard)) :
      Carries receiver s s.unheard t.conclude t.conclude.unheard := by
    have closed : Carries receiver t t.unheard t.conclude t.conclude.unheard :=
      carries_conclude t
    exact ⟨booked.1.trans closed.outlives, fun announces => closed.announces (booked.2 announces)⟩
  unfold finish
  dsimp only
  rw [← hnoted]
  refine concludes ?_
  split
  · have still : noted.cancel.history.landed = noted.history.landed := by
      unfold cancel
      split
      · rw [history_note]
        exact List.filterMap_append.trans (List.append_nil _)
      · rfl
    obtain ⟨later, announces⟩ := carries_book noted.cancel b plan.ending (still ▸ last)
    have cancelled : Carries receiver noted [] noted.cancel [] := carries_cancel noted []
    refine ⟨(outlives.trans cancelled.outlives).trans later, fun before => announces ?_⟩
    rw [active_cancel]
    exact announces_cancel (ended before)
  · obtain ⟨later, announces⟩ := carries_book noted b plan.ending last
    exact ⟨outlives.trans later, announces ∘ ended⟩

/-- A launch starts, and it may end at once. -/
theorem carries_start (launch : Launcher) (s : Stream) (held : 0 < s.tally.active) (b : Batch) :
    Carries receiver s s.unheard (start launch s b) (start launch s b).unheard := by
  obtain ⟨f, hf⟩ : ∃ f : Flight, f = ⟨b, launch s.launched s.now b⟩ := ⟨_, rfl⟩
  obtain ⟨began, hbegan⟩ : ∃ began : Stream, began = note { s with launched := s.launched + 1 }
    (.started f.batch :: f.plan.opening.map .remarked ++ f.plan.attempt.toList.map .attempted) :=
    ⟨_, rfl⟩
  have started : start launch s b = takeOff began f := by
    rw [hbegan, hf]
    rfl
  have noted : Carries receiver s s.unheard began began.unheard := by
    rw [hbegan]
    have silent : ∀ e ∈ Happening.started f.batch :: f.plan.opening.map .remarked ++
        f.plan.attempt.toList.map .attempted, e.isIdle = true ∧ e.event? = none := by
      intro e mem
      simp only [List.cons_append, List.mem_cons, List.mem_append, List.mem_map] at mem
      rcases mem with rfl | ⟨remark, -, rfl⟩ | ⟨attempt, -, rfl⟩ <;> exact ⟨rfl, rfl⟩
    have counted : Carries receiver s s.unheard { s with launched := s.launched + 1 } s.unheard :=
      ⟨.refl s.tally, id⟩
    exact counted.trans (carries_note _ silent s.unheard)
  rw [started]
  refine noted.trans ?_
  unfold takeOff
  split
  · refine carries_finish began ?_ f.batch f.plan
    rw [hbegan]
    exact held
  · split <;> exact ⟨.refl began.tally, id⟩

/-! ## The producer -/

theorem carries_feed (s : Stream) (feed : List FeedItem) :
    Carries receiver s s.unheard { s with feed } (unheard { s with feed }) := ⟨.refl s.tally, id⟩

theorem carries_refuse (s : Stream) (b : Batch) :
    Carries receiver s s.unheard (s.refuse b) (s.refuse b).unheard := by
  have noted : Carries receiver s s.unheard (s.note [.refused b]) s.unheard :=
    carries_note s (by simp [Happening.isIdle, Happening.event?]) s.unheard
  exact noted.trans (.of_rings (rings_refuse s b))

theorem carries_admitBatch (s : Stream) (b : Batch) :
    Carries receiver s s.unheard (s.admitBatch b) (s.admitBatch b).unheard := by
  refine ⟨.of_eq rfl rfl rfl, fun announces => ?_⟩
  have admitted := History.Announces.admitted announces s.now b (s.tally.active + 1 : Nat)
  show History.Announces receiver (note { s with
    tally := s.tally.count, tasks := s.tasks + 1, producer := .asking }
    [.admitted b s.tally.count.active]).history _ _ s.unheard
  rw [history_note]
  exact admitted

theorem carries_receive (s : Stream) (b : Batch) :
    Carries receiver s s.unheard (s.receive b) (s.receive b).unheard := by
  have received : Carries receiver s s.unheard (s.note [.received b]) s.unheard :=
    carries_note s (by simp [Happening.isIdle, Happening.event?]) s.unheard
  simp only [receive]
  split
  · exact received.trans (carries_refuse _ b)
  · split
    · rename_i tally reserved
      refine (received.trans ?_).trans (carries_admitBatch { s.note [.received b] with tally } b)
      rw [(Tally.reserve?_eq reserved).1]
      exact ⟨.of_eq rfl rfl rfl, id⟩
    · exact received.trans ⟨.refl _, id⟩

/-- The producer asks for batches. -/
theorem carries_pull (detour : Bool) (items : List FeedItem) (s : Stream) :
    Carries receiver s s.unheard (pull detour items s) (pull detour items s).unheard := by
  have requested (s : Stream) : Carries receiver s s.unheard (s.note [.requested]) s.unheard :=
    carries_note s (by simp [Happening.isIdle, Happening.event?]) s.unheard
  fun_induction pull detour items s with
  | case1 s noted => exact (requested s).trans ⟨.refl _, id⟩
  | case2 s noted =>
    exact ((requested s).trans (carries_feed noted [])).trans (.of_rings (rings_close _ false))
  | case3 item rest s noted asked delayed => exact (requested s).trans ⟨.refl _, id⟩
  | case4 item rest s noted asked => exact (requested s).trans ⟨.refl _, id⟩
  | case5 item rest s noted prompt direct received again ih =>
    have got : Carries receiver noted noted.unheard received received.unheard :=
      (carries_feed noted rest).trans (carries_receive _ item.batch)
    exact ((requested s).trans got).trans ih
  | case6 item rest s noted prompt direct received stays =>
    have got : Carries receiver noted noted.unheard received received.unheard :=
      (carries_feed noted rest).trans (carries_receive _ item.batch)
    exact (requested s).trans got

/-- The producer takes what the source has handed over, or a slot. -/
theorem carries_take (s : Stream) : Carries receiver s s.unheard s.take s.take.unheard := by
  unfold take
  split
  · exact .of_rings (rings_close s false)
  · rename_i item rest waits next
    exact (carries_feed s rest).trans (carries_receive _ item.batch)
  · rename_i b granted
    split
    · refine Carries.trans ?_ (carries_refuse _ b)
      exact ⟨.of_eq rfl rfl rfl, id⟩
    · exact carries_admitBatch s b
  · rename_i slot _
    refine Carries.trans ?_ (.of_rings (rings_close _ false))
    cases slot <;> exact ⟨.of_eq rfl rfl rfl, id⟩
  · exact .refl s s.unheard

/-- The producer goes on. -/
theorem carries_produce (detour : Bool) (s : Stream) :
    Carries receiver s s.unheard (s.produce detour) (s.produce detour).unheard := by
  simp only [produce]
  split
  · exact (carries_take s).trans (carries_pull detour s.take.feed s.take)
  · exact carries_take s

/-! ## Turns -/

variable {rules : Rules} {consumer : Consumer} {all : List Batch}

/-- **Whatever comes next**, the events that the consumer has taken and those that it has not heard
of are those of the results. -/
theorem carries_of_next? (sound : s.roster.Sound rules all) {detour : Bool}
    (next : next? consumer rules.launch detour s = some t) :
    Carries consumer.listener s s.unheard t t.unheard := by
  unfold next? at next
  split at next
  · contradiction
  · split at next
    · rename_i turn rest ready
      cases next
      obtain ⟨q, hq⟩ : ∃ q, q = { s with ready := rest } := ⟨_, rfl⟩
      have books : q.tally = s.tally ∧ q.past = s.past ∧ q.unheard = s.unheard := by
        rw [hq]
        exact ⟨rfl, rfl, rfl⟩
      have same : Carries consumer.listener s s.unheard q q.unheard := by
        rw [hq]
        exact ⟨.refl s.tally, id⟩
      rw [← hq]
      refine same.trans ?_
      cases turn with
      | cancel =>
        show Carries _ q q.unheard q.cancel q.cancel.unheard
        rw [unheard_cancel]
        exact carries_cancel q q.unheard
      | handOver => exact ⟨.refl q.tally, id⟩
      | produce => exact carries_produce detour q
      | start b =>
        refine carries_start rules.launch q ?_ b
        rw [books.1]
        refine Int.natCast_pos.mp (sound.active_pos_of_waiting (b := b) ?_)
        simp [roster, ready, Turn.start?]
      | relay b plan turns =>
        cases turns with
        | zero =>
          refine carries_finish q ?_ b plan
          rw [books.1]
          refine Int.natCast_pos.mp (sound.active_pos_of_running (f := ⟨b, plan⟩) ?_)
          show _ ∈ s.flights
          rw [flights_ready ready]
          simp [Turn.flight?]
        | succ turns => exact ⟨.refl q.tally, id⟩
      | abort b time =>
        cases time with
        | zero => exact carries_conclude q
        | succ time => exact ⟨.refl q.tally, id⟩
      | gathered => exact .of_rings (rings_gather q)
      | alarm => exact ⟨.refl q.tally, id⟩
      | consume => exact carries_consume consumer q
    · contradiction
    · cases next
      exact ⟨.refl s.tally, id⟩
    · cases next
      exact ⟨.refl s.tally, id⟩

/-- **When the consumer has left, nothing is announced any more.** -/
theorem carries_of_winds {error : Option RunError} (winds : Winds error s t)
    {launch : Launcher} {detour : Bool} (next : next? consumer launch detour t = some u) :
    Carries receiver t t.unheard u u.unheard := by
  have later := winds.of_next? next
  have unheard : u.unheard = t.unheard := by
    rw [Stream.unheard, Stream.unheard, winds.queue_of_next? next]
    rcases winds.consumer with before | before <;> rcases later.consumer with after | after <;>
      rw [before, after] <;> rfl
  have active : u.tally.active = t.tally.active := later.active.trans winds.active.symm
  have completed : u.tally.completed = t.tally.completed :=
    later.completed.trans winds.completed.symm
  refine ⟨.of_eq (later.stopped.trans winds.stopped.symm) (later.fault.trans winds.fault.symm)
    completed, fun announces => ?_⟩
  unfold Announces history at announces ⊢
  rw [later.past, ← winds.past, active, completed, unheard]
  exact announces

/-! ## Whole runs -/

variable {feed : Feed} {interruption : Interruption} {cancellable detour : Bool}

theorem announces_initial :
    (initial rules.tally cancellable interruption).Announces receiver [] ∧
      (initial rules.tally cancellable interruption).tally.fault = none := by
  have fresh : Announces receiver { tally := rules.tally, cancellable } [] :=
    History.announces_nil receiver
  unfold initial
  dsimp only
  split
  · refine ⟨(carries_cancel _ []).announces fresh, ?_⟩
    unfold cancel
    split <;> rfl
  · exact ⟨fresh, rfl⟩

/-- What comes next in a run, also when the consumer has left. -/
theorem carries_of_passes (allow : rules.Allow consumer.listener)
    (may : interruption = {} ∨ rules.cancels)
    (passes : Passes consumer rules.launch detour feed
      (initial rules.tally cancellable interruption) s)
    (next : next? consumer rules.launch detour s = some t) :
    Carries consumer.listener s s.unheard t t.unheard := by
  obtain ⟨u, moves, -, rfl | ⟨e, error, -, winds⟩⟩ := moves_of_passes allow may passes
  · exact carries_of_next? moves.sound next
  · exact carries_of_winds winds next

/-- **In every state of a run the events that the consumer has taken and those that it has not heard
of are those of the results**, and a fault has stopped the run. -/
theorem announces_of_passes (allow : rules.Allow consumer.listener)
    (may : interruption = {} ∨ rules.cancels)
    (passes : Passes consumer rules.launch detour feed
      (initial rules.tally cancellable interruption) t) :
    t.Announces consumer.listener t.unheard ∧
      (t.tally.fault.isSome = true → t.tally.stopped = true) := by
  unfold Passes at passes
  induction passes with
  | refl =>
    obtain ⟨fresh, whole⟩ :
        (initial rules.tally cancellable interruption).Announces consumer.listener [] ∧ _ :=
      announces_initial
    obtain ⟨-, idle, empty⟩ := initial_asks rules.tally cancellable interruption
    have silent : (initial rules.tally cancellable interruption).unheard = [] := by
      rw [unheard, idle, empty]
      rfl
    have pulled : Carries consumer.listener _ _ _ _ :=
      carries_pull detour feed.items (initial rules.tally cancellable interruption)
    rw [silent] at pulled
    refine ⟨pulled.announces fresh, pulled.outlives.halts fun broken => ?_⟩
    rw [whole] at broken
    exact absurd broken Bool.false_ne_true
  | @tail s t passed next ih =>
    have carried := carries_of_passes allow may passed next
    exact ⟨carried.announces ih.1, carried.outlives.halts ih.2⟩

/-- Later states of a run take nothing back. -/
theorem outlives_of_before (allow : rules.Allow consumer.listener)
    (may : interruption = {} ∨ rules.cancels)
    (passes : Passes consumer rules.launch detour feed
      (initial rules.tally cancellable interruption) s)
    (later : Before consumer rules.launch detour s t) : s.tally.Outlives t.tally := by
  induction later with
  | refl => exact .refl s.tally
  | @tail t u before next ih =>
    exact ih.trans (carries_of_passes allow may (passes.trans before) next).outlives

end Stream

end BatchExec
