import BatchExec.Proofs.Demand
import BatchExec.Proofs.Stream.Parting

/-!
# Event-driven runs that are called off

In an event-driven run the consumer hears of a result in a turn of its own, after the slot of the
launch has come back. If its receiver of events cancels the run in that turn, nothing is admitted
any more; but what has been admitted before still starts.

* `Stream.Defers`: what others do leaves to the consumer what it has to do.
* `Stream.Hears`: what the consumer does in its turn.
* `Stream.cancellable_of_passes`: who can cancel a run can do so in every state of it.
* `Stream.Hearing`, `Stream.exists_hearing`: **the turn in which the consumer hears of an event.**
* `Stream.Hearing.cancelled`: **if its receiver cancels the run at the event, the run is cancelled
  after that turn.**
-/

namespace BatchExec.Stream

variable {consumer : Consumer} {s t u : Stream}

/-! ## What others do -/

/-- The turns that come before any timer is looked at. -/
def near (s : Stream) : List Turn := s.ready ++ s.upcoming

/-- What others do leaves to the consumer what it has to do: its turn comes when it would have come,
unless it is called because there are no more events, and no launch is on its way that was not
before. -/
structure Defers (s t : Stream) : Prop where
  consumer : t.consumer = s.consumer ∨
    s.consumer = .idle ∧ t.consumer = .called ∧ .consume ∈ t.near
  events : t.queue.reduceOption = s.queue.reduceOption
  cancellable : t.cancellable = s.cancellable
  flights : t.flights = s.flights
  near : s.near <+: t.near

theorem Defers.refl (s : Stream) : Defers s s := ⟨.inl rfl, rfl, rfl, rfl, List.prefix_rfl⟩

theorem Defers.trans (first : Defers s t) (second : Defers t u) : Defers s u where
  consumer := by
    rcases second.consumer with stays | ⟨idle, called, mem⟩
    · rw [stays]
      exact first.consumer.imp_right fun ⟨idle, called, mem⟩ =>
        ⟨idle, called, second.near.subset mem⟩
    · rcases first.consumer with stays | ⟨-, busy, -⟩
      · exact .inr ⟨stays ▸ idle, called, mem⟩
      · exact absurd (busy.symm.trans idle) (by simp)
  events := second.events.trans first.events
  cancellable := second.cancellable.trans first.cancellable
  flights := second.flights.trans first.flights
  near := first.near.trans second.near

/-- Books, the feed and the producer do not concern the consumer. -/
theorem defers_books (s : Stream) (tally : Tally) (feed : List FeedItem) (producer : ProducerState)
    (tasks : Nat) (past : List Entry) : Defers s { s with tally, feed, producer, tasks, past } :=
  ⟨.inl rfl, rfl, rfl, rfl, List.prefix_rfl⟩

/-- Whoever is called because the producer goes on to its end comes later. -/
theorem defers_of_rings (rings : Rings s t) : Defers s t := by
  obtain ⟨calls, upcoming, rung⟩ := rings.calls
  have near : t.near = s.near ++ calls := by
    rw [near, near, rings.ready, upcoming, List.append_assoc]
  refine ⟨?_, rings.events, ?_, ?_, near ▸ List.prefix_append _ _⟩
  · exact rings.consumer.imp_right fun ⟨idle, called, mem⟩ =>
      ⟨idle, called, List.mem_append_right _ mem⟩
  · obtain ⟨_, _, _, _, rfl⟩ := rings.same
    rfl
  · exact flights_of_rings rings

theorem defers_cancel (s : Stream) : Defers s s.cancel := by
  unfold cancel
  split
  · exact defers_books s s.tally.cancel s.feed s.producer s.tasks _
  · exact .refl s

theorem near_call (s : Stream) (turn : Turn) : (s.call turn).near = s.near ++ [turn] :=
  (List.append_assoc _ _ _).symm

theorem defers_call (s : Stream) {turn : Turn} (free : turn.flight? = none) :
    Defers s (s.call turn) where
  consumer := .inl rfl
  events := rfl
  cancellable := rfl
  flights := by
    rw [flights_call, free]
    exact Multiset.zero_add _
  near := near_call s turn ▸ List.prefix_append _ _

theorem defers_callAfter (s : Stream) (time : Nat) {turn : Turn} (free : turn.flight? = none) :
    Defers s (s.callAfter time turn) where
  consumer := .inl rfl
  events := rfl
  cancellable := rfl
  flights := by
    rw [flights_callAfter, free]
    exact Multiset.zero_add _
  near := List.prefix_rfl

theorem defers_grant (s : Stream) : Defers s s.grant := by
  unfold grant
  split
  · rename_i b tally waits reserved
    exact (defers_books s tally s.feed (.granted b) s.tasks s.past).trans (defers_call _ rfl)
  · exact .refl s

theorem defers_refuse (s : Stream) (b : Batch) : Defers s (s.refuse b) := by
  have noted : Defers s (s.note [.refused b]) :=
    defers_books s s.tally s.feed s.producer s.tasks _
  exact noted.trans (defers_of_rings (rings_refuse s b))

theorem defers_admitBatch (s : Stream) (b : Batch) : Defers s (s.admitBatch b) := by
  have admitted : Defers s (note { s with
      tally := s.tally.count, tasks := s.tasks + 1, producer := .asking }
      [.admitted b s.tally.count.active]) :=
    defers_books s s.tally.count s.feed .asking (s.tasks + 1) _
  exact admitted.trans (defers_call _ rfl)

theorem defers_receive (s : Stream) (b : Batch) : Defers s (s.receive b) := by
  have received : Defers s (s.note [.received b]) :=
    defers_books s s.tally s.feed s.producer s.tasks _
  simp only [receive]
  split
  · exact received.trans (defers_refuse _ b)
  · split
    · rename_i tally reserved
      have kept : Defers s { s.note [.received b] with tally } :=
        defers_books s tally s.feed s.producer s.tasks _
      exact kept.trans (defers_admitBatch _ b)
    · exact defers_books s s.tally s.feed (.blocked b) s.tasks _

/-- The producer asks for batches. -/
theorem defers_pull (detour : Bool) (items : List FeedItem) (s : Stream) :
    Defers s (pull detour items s) := by
  have waits (s : Stream) (feed : List FeedItem) :
      Defers s { s.note [.requested] with feed, producer := .waiting } :=
    defers_books s s.tally feed .waiting s.tasks _
  fun_induction pull detour items s with
  | case1 s noted => exact (waits s []).trans (defers_call _ rfl)
  | case2 s noted =>
    have asked : Defers s { noted with feed := [] } :=
      defers_books s s.tally [] s.producer s.tasks _
    exact asked.trans (defers_of_rings (rings_close _ false))
  | case3 item rest s noted asked delayed =>
    exact (waits s (item :: rest)).trans (defers_callAfter _ _ rfl)
  | case4 item rest s noted asked => exact (waits s (item :: rest)).trans (defers_call _ rfl)
  | case5 item rest s noted prompt direct received again ih =>
    have got : Defers s { noted with feed := rest } :=
      defers_books s s.tally rest s.producer s.tasks _
    exact (got.trans (defers_receive _ item.batch)).trans ih
  | case6 item rest s noted prompt direct received stays =>
    have got : Defers s { noted with feed := rest } :=
      defers_books s s.tally rest s.producer s.tasks _
    exact got.trans (defers_receive _ item.batch)

/-- The producer takes what the source has handed over, or a slot. -/
theorem defers_take (s : Stream) : Defers s s.take := by
  unfold take
  split
  · exact defers_of_rings (rings_close s false)
  · rename_i item rest waits next
    have handed : Defers s { s with feed := rest } :=
      defers_books s s.tally rest s.producer s.tasks s.past
    exact handed.trans (defers_receive _ item.batch)
  · rename_i b granted
    split
    · exact (defers_books s s.tally.giveBack s.feed s.producer s.tasks s.past).trans
        (defers_refuse _ b)
    · exact defers_admitBatch s b
  · rename_i slot _
    have back : Defers s { s with tally := if slot then s.tally.giveBack else s.tally } :=
      defers_books s _ s.feed s.producer s.tasks s.past
    exact back.trans (defers_of_rings (rings_close _ false))
  · exact .refl s

/-- The producer goes on. -/
theorem defers_produce (detour : Bool) (s : Stream) : Defers s (s.produce detour) := by
  simp only [produce]
  split
  · exact (defers_take s).trans (defers_pull detour _ _)
  · exact defers_take s

/-! ## What the consumer does -/

/-- What the consumer does brings no result and nothing that its receiver does not ask for: nobody
is admitted and no launch starts, and the run is cancelled if the receiver cancels it at an event.
-/
structure Hears (consumer : Consumer) (s t : Stream) : Prop where
  cancellable : t.cancellable = s.cancellable
  completed : t.tally.completed = s.tally.completed
  stays : s.tally.cancelled = true → t.tally.cancelled = true
  grows : ∃ more : History, t.history = s.history ++ more ∧
    (∀ x ∈ more, x.what.isAftermath = true) ∧
    (s.cancellable = true → ∀ time e, ⟨time, .delivered e⟩ ∈ more →
      (consumer.reaction e).cancels = true → t.tally.cancelled = true)

/-- What the consumer is doing and what it has still to look at does not show. -/
theorem hears_attend (s : Stream) (queue : List (Option Event)) (state : ConsumerState) :
    Hears consumer s { s with queue, consumer := state } :=
  ⟨rfl, rfl, id, [], (List.append_nil _).symm, fun _ mem => absurd mem List.not_mem_nil,
    fun _ _ _ mem => absurd mem List.not_mem_nil⟩

theorem Hears.trans (first : Hears consumer s t) (second : Hears consumer t u) :
    Hears consumer s u := by
  obtain ⟨can, completed, stays, more, grown, aftermath, heeds⟩ := first
  obtain ⟨can', completed', stays', more', grown', aftermath', heeds'⟩ := second
  refine ⟨can'.trans can, completed'.trans completed, stays' ∘ stays, more ++ more', ?_, ?_, ?_⟩
  · rw [grown', grown, List.append_assoc]
  · exact fun x mem => (List.mem_append.mp mem).elim (aftermath x) (aftermath' x)
  · intro can'' time e mem cancels
    rcases List.mem_append.mp mem with early | late
    · exact stays' (heeds can'' time e early cancels)
    · exact heeds' (can.trans can'') time e late cancels

/-- Nobody hears of what is noted. -/
theorem hears_note (s : Stream) {happenings : List Happening}
    (aftermath : ∀ e ∈ happenings, e.isAftermath = true)
    (silent : ∀ e, .delivered e ∉ happenings) : Hears consumer s (s.note happenings) := by
  refine ⟨rfl, rfl, id, _, history_note s happenings, ?_, ?_⟩
  · intro x mem
    obtain ⟨e, listed, rfl⟩ := List.mem_map.mp mem
    exact aftermath e listed
  · intro _ time e mem
    obtain ⟨what, listed, same⟩ := List.mem_map.mp mem
    cases same
    exact absurd listed (silent e)

theorem hears_cancel (s : Stream) : Hears consumer s s.cancel := by
  unfold cancel
  split
  · have stopped : Hears consumer s { s with tally := s.tally.cancel } :=
      ⟨rfl, rfl, fun _ => Bool.or_true _, [], (List.append_nil _).symm,
        fun _ mem => absurd mem List.not_mem_nil, fun _ _ _ mem => absurd mem List.not_mem_nil⟩
    exact stopped.trans (hears_note _ (by simp [Happening.isAftermath]) (by simp))
  · exact hears_attend s s.queue s.consumer

/-- Who can cancel the run cancels it. -/
theorem cancelled_cancel (can : s.cancellable = true) : s.cancel.tally.cancelled = true := by
  rw [cancel, if_pos can]
  exact Bool.or_true _

/-- The consumer hears of an event. -/
theorem hears_hear (s : Stream) (e : Event) : Hears consumer s (hear consumer s e) := by
  obtain ⟨told, htold⟩ : ∃ told, told = if consumer.listener.isSome then s.note [.delivered e]
    else s := ⟨_, rfl⟩
  have books : told.tally = s.tally ∧ told.cancellable = s.cancellable := by
    rw [htold]
    split <;> exact ⟨rfl, rfl⟩
  obtain ⟨more, grown, only⟩ : ∃ more : History, told.history = s.history ++ more ∧
      ∀ x ∈ more, x.what = .delivered e := by
    rw [htold]
    split
    · exact ⟨_, history_note s _, by simp⟩
    · exact ⟨[], (List.append_nil _).symm, by simp⟩
  have aftermath : ∀ x ∈ more, x.what.isAftermath = true := fun x mem => by
    rw [only x mem]
    rfl
  unfold hear
  dsimp only
  rw [← htold]
  split
  · have stopped : Hears consumer told told.cancel := hears_cancel told
    obtain ⟨can, completed, stays, more', grown', aftermath', -⟩ := stopped
    refine ⟨can.trans books.2, completed.trans (congrArg _ books.1), ?_, more ++ more', ?_, ?_, ?_⟩
    · exact fun stopped => stays (books.1 ▸ stopped)
    · rw [grown', grown, List.append_assoc]
    · exact fun x mem => (List.mem_append.mp mem).elim (aftermath x) (aftermath' x)
    · exact fun can' _ _ _ _ => cancelled_cancel (books.2.trans can')
  · rename_i keeps
    refine ⟨books.2, congrArg _ books.1, fun stopped => books.1 ▸ stopped, more, grown, aftermath,
      fun _ time e' mem cancels => ?_⟩
    obtain rfl : e' = e := Happening.delivered.inj (only _ mem)
    exact absurd cancels keeps

/-- Nobody hears of anything because the producer goes on to its end. -/
theorem hears_of_rings (rings : Rings s t) : Hears consumer s t := by
  refine ⟨(defers_of_rings rings).cancellable, congrArg Tally.completed rings.tally,
    fun stopped => rings.tally ▸ stopped, [], ?_, fun _ mem => absurd mem List.not_mem_nil,
    fun _ _ _ mem => absurd mem List.not_mem_nil⟩
  rw [history, rings.past, List.append_nil]
  rfl

theorem hears_leave (s : Stream) (error : Option RunError) : Hears consumer s (s.leave error) := by
  have killed : Hears consumer s (s.note (s.running.map .killed)) := by
    refine hears_note s (fun e mem => ?_) (by simp)
    obtain ⟨b, -, rfl⟩ := List.mem_map.mp mem
    rfl
  have cut : Hears consumer s (s.cutOff error) :=
    ⟨killed.cancellable, killed.completed, killed.stays, killed.grows⟩
  unfold leave
  dsimp only
  split
  · exact ⟨cut.cancellable, cut.completed, cut.stays, cut.grows⟩
  · exact cut.trans (hears_of_rings (rings_notify _))

theorem hears_handle (s : Stream) (e : Event) : Hears consumer s (handle consumer s e) := by
  have heard : Hears consumer s (hear consumer { s with consumer := .idle } e) :=
    (hears_attend s s.queue .idle).trans (hears_hear _ e)
  unfold handle
  dsimp only
  split
  · exact heard.trans (hears_leave _ _)
  · exact heard

theorem hears_deliver (items : List (Option Event)) (s : Stream) :
    Hears consumer s (deliver consumer items s) := by
  fun_induction deliver consumer items s with
  | case1 s => exact hears_attend s [] s.consumer
  | case2 rest s idle => exact hears_attend s rest .joining
  | case3 rest s e idle prompt ih => exact (hears_handle s e).trans ih
  | case4 rest s e idle pauses =>
    have busy : Hears consumer s { s with queue := rest, consumer := .busy e } :=
      hears_attend s rest (.busy e)
    exact ⟨busy.cancellable, busy.completed, busy.stays, busy.grows⟩
  | case5 item rest s busy => exact hears_attend s (item :: rest) s.consumer

/-- The consumer goes on. -/
theorem hears_consume (s : Stream) : Hears consumer s (consume consumer s) := by
  unfold consume
  dsimp only
  split
  · exact (hears_handle s _).trans (hears_deliver _ _)
  · exact (hears_attend s s.queue .idle).trans (hears_deliver _ _)
  · exact (hears_attend s s.queue (.gone _)).trans (hears_deliver _ _)
  · exact hears_deliver _ _

/-! ## Who can cancel the run -/

variable {launch : Launcher} {detour : Bool}

theorem cancellable_finish (s : Stream) (b : Batch) (plan : Plan) :
    (s.finish b plan).cancellable = s.cancellable := by
  have booked (t : Stream) (outcome : Tally × List Happening × Option Event) :
      (t.book outcome).cancellable = t.cancellable := by
    have granted := (defers_grant (note { t with tally := outcome.1 } outcome.2.1)).cancellable
    unfold book
    dsimp only
    split
    · unfold put
      dsimp only
      split <;> exact granted
    · exact granted
  unfold finish
  dsimp only
  rw [(defers_of_rings (rings_conclude _)).cancellable, booked]
  split
  · exact (defers_cancel _).cancellable
  · rfl

theorem cancellable_start (launch : Launcher) (s : Stream) (b : Batch) :
    (start launch s b).cancellable = s.cancellable := by
  unfold start
  dsimp only
  split
  · exact cancellable_finish _ _ _
  · split <;> rfl

/-- Nobody ever forbids or allows to cancel the run. -/
theorem cancellable_of_next? (next : next? consumer launch detour s = some t) :
    t.cancellable = s.cancellable := by
  unfold next? at next
  split at next
  · contradiction
  · split at next
    · rename_i turn rest ready
      cases next
      cases turn with
      | cancel => exact (defers_cancel { s with ready := rest }).cancellable
      | produce => exact (defers_produce detour { s with ready := rest }).cancellable
      | start b => exact cancellable_start launch { s with ready := rest } b
      | relay b plan turns =>
        cases turns with
        | zero => exact cancellable_finish { s with ready := rest } b plan
        | succ turns => rfl
      | abort b time =>
        cases time with
        | zero => exact (defers_of_rings (rings_conclude { s with ready := rest })).cancellable
        | succ time => rfl
      | gathered => exact (defers_of_rings (rings_gather { s with ready := rest })).cancellable
      | consume => exact (hears_consume { s with ready := rest }).cancellable
      | handOver => rfl
      | alarm => rfl
    · contradiction
    · cases next
      rfl
    · cases next
      rfl

variable {feed : Feed} {interruption : Interruption} {cancellable : Bool}

theorem cancellable_of_passes {tally : Tally}
    (passes : Passes consumer launch detour feed (initial tally cancellable interruption) t) :
    t.cancellable = cancellable := by
  unfold Passes at passes
  induction passes with
  | refl =>
    rw [(defers_pull detour feed.items _).cancellable]
    unfold initial
    dsimp only
    split
    · exact (defers_cancel { tally, cancellable }).cancellable
    · rfl
  | tail _ next ih => exact (cancellable_of_next? next).trans ih

/-! ## The turn in which the consumer hears of an event -/

/-- In its turn the consumer goes from one state to another and hears of an event, up to which this
happens. -/
structure Hearing (consumer : Consumer) (before : History) (x : Entry) (s t : Stream) : Prop where
  turn : ∃ rest, s.ready = .consume :: rest ∧ t = consume consumer { s with ready := rest }
  told : ∃ first last : History, before = s.history ++ first ∧ t.history = before ++ x :: last

/-- Nobody is admitted in that turn, and no launch starts. -/
theorem Hearing.quiet {before : History} {x : Entry} (hearing : Hearing consumer before x s t) :
    s.history.admitted = t.history.admitted ∧ before.admitted = t.history.admitted ∧
      s.history.launched = before.launched := by
  obtain ⟨⟨rest, -, rfl⟩, first, last, rfl, told⟩ := hearing
  have heard : Hears consumer { s with ready := rest } _ := hears_consume { s with ready := rest }
  obtain ⟨more, grown, aftermath, -⟩ := heard.grows
  have same : more = first ++ x :: last := by
    refine List.append_cancel_left (grown.symm.trans (told.trans ?_))
    exact List.append_assoc _ _ _
  have none (h : History) (within : h ⊆ more) : h.admitted = [] ∧ h.launched = [] := by
    have still : h.starts = [] := List.filterMap_eq_nil_iff.mpr fun y mem => by
      have after := aftermath y (within mem)
      obtain ⟨time, what⟩ := y
      cases what <;> first | rfl | exact absurd after Bool.false_ne_true
    refine ⟨List.filterMap_eq_nil_iff.mpr fun y mem => ?_, by rw [History.launched, still]; rfl⟩
    have after := aftermath y (within mem)
    obtain ⟨time, what⟩ := y
    cases what <;> first | rfl | exact absurd after Bool.false_ne_true
  have early := none first (same ▸ List.subset_append_left _ _)
  have late := none (x :: last) (same ▸ List.subset_append_right _ _)
  rw [told, History.admitted_append, History.admitted_append, History.launched_append, early.1,
    early.2, late.1, List.append_nil, List.append_nil, List.append_nil]
  exact ⟨rfl, rfl, rfl⟩

/-- **If the receiver cancels the run at the event, the run is cancelled after that turn.** -/
theorem Hearing.cancelled {before : History} {time : Nat} {e : Event}
    (hearing : Hearing consumer before ⟨time, .delivered e⟩ s t) (can : s.cancellable = true)
    (cancels : (consumer.reaction e).cancels = true) : t.tally.cancelled = true := by
  obtain ⟨⟨rest, -, rfl⟩, first, last, rfl, told⟩ := hearing
  have heard : Hears consumer { s with ready := rest } _ := hears_consume { s with ready := rest }
  obtain ⟨more, grown, -, heeds⟩ := heard.grows
  have same : more = first ++ ⟨time, .delivered e⟩ :: last := by
    refine List.append_cancel_left (grown.symm.trans (told.trans ?_))
    exact List.append_assoc _ _ _
  exact heeds can time e (same ▸ List.mem_append_right first List.mem_cons_self) cancels

variable {rules : Rules}

/-- Nobody else hears of events. -/
theorem turn_of_hears {all : List Batch} (attended : s.Attended) (sound : s.roster.Sound rules all)
    (calm : s.tally.cancelled = false → s.history.faults = [])
    (next : next? consumer rules.launch detour s = some t)
    (hears : t.history.heard ≠ s.history.heard) :
    ∃ rest, s.ready = .consume :: rest ∧ t = consume consumer { s with ready := rest } := by
  by_cases turn : ∃ rest, s.ready = .consume :: rest
  · obtain ⟨rest, ready⟩ := turn
    rw [next?_of_consume ready] at next
    split at next
    · contradiction
    · exact ⟨rest, ready, (Option.some.inj next).symm⟩
  · exact absurd (heard_of_other attended sound calm (fun rest ready => turn ⟨rest, ready⟩) next)
      hears

/-- **The consumer hears of an event in one of its turns.** -/
theorem exists_hearing (allow : rules.Allow consumer.listener)
    (may : interruption = {} ∨ rules.cancels)
    (passes : Passes consumer rules.launch detour feed
      (initial rules.tally cancellable interruption) t) (here : t.Here)
    {before after : History} {time : Nat} {e : Event}
    (split : t.history = before ++ ⟨time, .delivered e⟩ :: after) :
    ∃ s u, Passes consumer rules.launch detour feed
        (initial rules.tally cancellable interruption) s ∧
      next? consumer rules.launch detour s = some u ∧
      Before consumer rules.launch detour u t ∧
      Hearing consumer before ⟨time, .delivered e⟩ s u := by
  have early : ¬ before ++ [⟨time, .delivered e⟩] <+: (pull detour feed.items
      (initial rules.tally cancellable interruption)).history := by
    rintro ⟨more, grown⟩
    have none : (pull detour feed.items
      (initial rules.tally cancellable interruption)).history.heard = [] := heard_initial
    have one : History.heard [⟨time, .delivered e⟩] = [e] := rfl
    rw [← grown, History.heard_append, History.heard_append, one] at none
    simp at none
  have grows {s u : Stream} (reached : Passes consumer rules.launch detour feed
      (initial rules.tally cancellable interruption) s)
      (next : next? consumer rules.launch detour s = some u)
      (later : Before consumer rules.launch detour u t) : s.history <+: u.history := by
    have there : u.Here := here.of_before (reached.tail next) later
    obtain ⟨steady, sound, -, -⟩ :=
      present_of_here allow may reached (there.of_before reached (.single next))
    exact (Roster.Follows.of_moves (moves_later allow steady sound (.single next) there)).history
  obtain ⟨s, u, first, last, reached, next, later, rfl, told⟩ :=
    Chain.exists_entry history grows passes split early
  have there : s.Here := (here.of_before (reached.tail next) later).of_before reached (.single next)
  obtain ⟨-, sound, attended, -⟩ := present_of_here allow may reached there
  have calm := faults_of_going allow may reached there
  refine ⟨s, u, reached, next, later, turn_of_hears attended sound calm next ?_, first, last, rfl,
    told.trans (List.append_assoc _ _ _).symm⟩
  have one : History.heard (⟨time, .delivered e⟩ :: last) = e :: History.heard last := rfl
  rw [told, History.heard_append, History.heard_append, one]
  intro same
  simp at same

end BatchExec.Stream
