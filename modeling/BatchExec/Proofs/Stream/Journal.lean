import BatchExec.Proofs.Journal
import BatchExec.Proofs.Stream.Run

/-!
# The journal of an event-driven run

A launch that ends lands, as in a blocking run, but the receiver of events is told later: until it
takes it from the queue, the event is still to be told. An error of the receiver breaks nothing; the
receiver leaves, and the launches that are running are cut off.

* `Stream.journal`: what has come of the launches.
* `Stream.journal_finish`: the end of a launch is a landing.
* `Stream.Forsakes`: the consumer leaves because of the event that it has just heard of.
* `Stream.journal_of_next?`: **whatever comes next is a chain of moves of the journal, up to the
  state in which the consumer leaves, if it does.**
-/

namespace BatchExec

/-- The event that the consumer is about to handle. -/
def ConsumerState.event? : ConsumerState → Option Event
  | .busy e => some e
  | _ => none

/-- What is noted of a launch that has ended, and the event that tells of its result. -/
theorem Tally.finish_told (t : Tally) (held : 0 < t.active) (f : Flight) :
    (∃ notes, (∀ e ∈ notes, e.isMute = true) ∧
      (t.finish f.batch f.plan.ending).2.1 = notes ++ f.flaw?.toList.map .faulted) ∧
    (t.finish f.batch f.plan.ending).2.2 =
      f.result?.map (⟨·, (t.completed ++ f.result?.toList).length, (t.active - 1 : Nat)⟩) := by
  have busy : t.active ≠ 0 := by omega
  cases f.ends with
  | raised failure ending none flaw =>
    refine ⟨⟨[], by simp, ?_⟩, ?_⟩ <;> simp [finish, release, busy, ending, fail, none, flaw]
  | invalid fine none flaw =>
    have unreported : f.plan.ending.resultFor? f.batch = Option.none := none
    unfold finish
    dsimp only
    split
    · rename_i raised
      exact absurd raised (fine _)
    · refine ⟨⟨[], by simp, ?_⟩, ?_⟩ <;> simp [release, busy, fail, none, flaw]
    · rename_i reported _
      exact absurd (unreported.symm.trans reported) (Option.some_ne_none _).symm
  | delivered r ending own brings flaw =>
    have reported : (Ending.returned r).resultFor? f.batch = some r := ending ▸ brings
    rw [ending]
    simp only [finish, release, if_neg busy, reported, brings, flaw]
    exact ⟨⟨_, Journal.mute_recorded r _, (List.append_nil _).symm⟩, rfl⟩

namespace Stream

variable (launch : Launcher) (receiver : Listener)

/-- What a receiver of events, if there is one, is told. -/
def toldOf (events : List Event) : List Event := if receiver.isSome then events else []

theorem toldOf_concat (events : List Event) (e : Event) :
    toldOf receiver (events ++ [e]) =
      toldOf receiver events ++ (if receiver.isSome then some e else none).toList := by
  unfold toldOf
  split <;> simp

/-- The events that the consumer has not heard of. -/
def unheard (s : Stream) : List Event := s.consumer.event?.toList ++ s.queue.reduceOption

/-- The launches that are running. -/
def flights (s : Stream) : Multiset Flight := (s.turns.filterMap Turn.flight? : List Flight)

/-- What has come of the launches if these events are still to be told. -/
def journalWith (s : Stream) (pending : List Event) : Journal :=
  .ofHistory launch s.history s.flights s.tally.completed s.tally.fault pending

/-- What has come of the launches of an event-driven run. -/
def journal (s : Stream) : Journal := s.journalWith launch (toldOf receiver s.unheard)

/-- What the journal of an event-driven run goes by: no error of the receiver of events breaks the
run. -/
def terms (rules : Rules) (receiver : Listener) : Terms := ⟨rules.bound, receiver, none⟩

theorem history_note (s : Stream) (happenings : List Happening) :
    (s.note happenings).history = s.history ++ happenings.map (⟨s.now, ·⟩) := by
  simp [history, note]

/-! ## What does not show -/

theorem journalWith_note (s : Stream) {happenings : List Happening}
    (mute : ∀ e ∈ happenings, e.isMute = true) (pending : List Event) :
    (s.note happenings).journalWith launch pending = s.journalWith launch pending := by
  rw [journalWith, history_note]
  exact Journal.ofHistory_mute mute s.now

theorem journalWith_cancel (s : Stream) (pending : List Event) :
    s.cancel.journalWith launch pending = s.journalWith launch pending := by
  unfold cancel
  split
  · exact journalWith_note launch { s with tally := s.tally.cancel } (by simp [Happening.isMute]) _
  · rfl

theorem unheard_cancel (s : Stream) : s.cancel.unheard = s.unheard := by
  unfold cancel
  split <;> rfl

theorem journal_note (s : Stream) {happenings : List Happening}
    (mute : ∀ e ∈ happenings, e.isMute = true) :
    (s.note happenings).journal launch receiver = s.journal launch receiver :=
  journalWith_note launch s mute _

theorem journal_cancel (s : Stream) :
    s.cancel.journal launch receiver = s.journal launch receiver := by
  rw [journal, unheard_cancel, journalWith_cancel]
  rfl

theorem flights_call (s : Stream) (turn : Turn) :
    (s.call turn).flights = (turn.flight?.toList : Multiset Flight) + s.flights := by
  have perm : (s.call turn).turns.Perm (turn :: s.turns) := by
    simp only [Stream.turns, call, ← List.append_assoc]
    exact List.perm_append_comm.append_right _
  rw [flights, Multiset.coe_eq_coe.mpr (perm.filterMap Turn.flight?)]
  cases flight : turn.flight? <;> simp [flight, flights]

theorem flights_callAfter (s : Stream) (time : Nat) (turn : Turn) :
    (s.callAfter time turn).flights = (turn.flight?.toList : Multiset Flight) + s.flights := by
  rw [flights, Multiset.coe_eq_coe.mpr ((turns_callAfter s time turn).filterMap Turn.flight?)]
  cases flight : turn.flight? <;> simp [flight, flights]

/-- Somebody who does not end a launch gets a turn. -/
theorem journal_call (s : Stream) {turn : Turn} (free : turn.flight? = none) :
    (s.call turn).journal launch receiver = s.journal launch receiver := by
  rw [journal, journalWith, flights_call, free]
  simp only [Option.toList_none, Multiset.coe_nil, Multiset.zero_add]
  rfl

theorem journal_callAfter (s : Stream) (time : Nat) {turn : Turn} (free : turn.flight? = none) :
    (s.callAfter time turn).journal launch receiver = s.journal launch receiver := by
  rw [journal, journalWith, flights_callAfter, free]
  simp only [Option.toList_none, Multiset.coe_nil, Multiset.zero_add]
  rfl

theorem journalWith_grant (s : Stream) (pending : List Event) :
    s.grant.journalWith launch pending = s.journalWith launch pending := by
  unfold grant
  split
  · rename_i b tally waits reserved
    rw [journalWith, flights_call, (Tally.reserve?_eq reserved).1]
    simp only [Turn.flight?, Option.toList_none, Multiset.coe_nil, Multiset.zero_add]
    rfl
  · rfl

theorem unheard_grant (s : Stream) : s.grant.unheard = s.unheard := by
  unfold grant
  split <;> rfl

theorem journal_round {s : Stream} (now : Nat) (rested : s.ready = []) :
    (s.round now).journal launch receiver = s.journal launch receiver := by
  rw [journal, journalWith, flights, turns_round now rested]
  rfl

theorem unheard_of_rings {s t : Stream} (rings : Rings s t) : t.unheard = s.unheard := by
  rw [unheard, unheard, rings.events]
  rcases rings.consumer with stays | ⟨idle, called, -⟩
  · rw [stays]
  · rw [idle, called]
    rfl

theorem flights_of_rings {s t : Stream} (rings : Rings s t) : t.flights = s.flights := by
  obtain ⟨calls, upcoming, rung⟩ := rings.calls
  have idle : calls.filterMap Turn.flight? = [] := by
    rw [List.filterMap_eq_nil_iff]
    intro turn mem
    rcases rung turn mem with rfl | rfl <;> rfl
  simp only [flights, turns, rings.ready, upcoming, rings.timers, List.filterMap_append, idle,
    List.append_nil]

/-- Whoever is called because the producer goes on to its end is told of nothing. -/
theorem journal_of_rings {s t : Stream} (rings : Rings s t) :
    t.journal launch receiver = s.journal launch receiver := by
  rw [journal, journal, journalWith, journalWith, unheard_of_rings rings, flights_of_rings rings,
    history, rings.past, rings.tally]
  rfl

/-- Nobody is told that a task is over. -/
theorem journal_conclude (s : Stream) :
    s.conclude.journal launch receiver = s.journal launch receiver :=
  (journal_of_rings launch receiver (rings_conclude s)).trans rfl

/-! ## The producer -/

/-- The journal stays as it is, and so does what has stopped the run, provided that a run that goes
on has no fault. -/
def Keeps (s t : Stream) : Prop :=
  (s.tally.cancelled = false → s.history.faults = []) →
    t.journal launch receiver = s.journal launch receiver ∧ t.tally.cancelled = s.tally.cancelled

variable {launch receiver} {s t u : Stream}

theorem Keeps.of_eq (same : t.journal launch receiver = s.journal launch receiver)
    (stopped : t.tally.cancelled = s.tally.cancelled) : Keeps launch receiver s t :=
  fun _ => ⟨same, stopped⟩

theorem Keeps.trans (first : Keeps launch receiver s t) (second : Keeps launch receiver t u) :
    Keeps launch receiver s u := by
  intro calm
  obtain ⟨same, stopped⟩ := first calm
  have faults : t.history.faults = s.history.faults := congrArg Journal.faults same
  obtain ⟨same', stopped'⟩ := second (by rwa [stopped, faults])
  exact ⟨same'.trans same, stopped'.trans stopped⟩

theorem Keeps.of_rings (rings : Rings s t) : Keeps launch receiver s t :=
  .of_eq (journal_of_rings launch receiver rings) (congrArg Tally.cancelled rings.tally)

theorem keeps_refuse (s : Stream) (b : Batch) : Keeps launch receiver s (s.refuse b) := by
  have noted : Keeps launch receiver s (s.note [.refused b]) :=
    .of_eq (journal_note launch receiver s (by simp [Happening.isMute])) rfl
  exact noted.trans (.of_rings (rings_refuse s b))

theorem keeps_admitBatch (b : Batch) (goes : s.tally.cancelled = false) :
    Keeps launch receiver s (s.admitBatch b) := by
  refine fun calm => ⟨?_, rfl⟩
  rw [admitBatch, journal_call launch receiver _ rfl, journal, journalWith, history_note]
  exact Journal.ofHistory_admitted (calm goes) s.now b _

theorem keeps_receive (s : Stream) (b : Batch) : Keeps launch receiver s (s.receive b) := by
  have received : Keeps launch receiver s (s.note [.received b]) :=
    .of_eq (journal_note launch receiver s (by simp [Happening.isMute])) rfl
  simp only [receive]
  split
  · exact received.trans (keeps_refuse _ b)
  · rename_i goes
    split
    · rename_i tally reserved
      have kept : Keeps launch receiver (s.note [.received b])
          { s.note [.received b] with tally } := by
        rw [(Tally.reserve?_eq reserved).1]
        exact .of_eq rfl rfl
      have stays : tally.cancelled = false := by
        rw [Tally.cancelled_of_reserve? reserved]
        exact eq_false_of_ne_true goes
      exact (received.trans kept).trans (keeps_admitBatch b stays)
    · exact received.trans (.of_eq rfl rfl)

/-- The producer asks for batches. -/
theorem keeps_pull (detour : Bool) (items : List FeedItem) (s : Stream) :
    Keeps launch receiver s (pull detour items s) := by
  have requested (s : Stream) : Keeps launch receiver s (s.note [.requested]) :=
    .of_eq (journal_note launch receiver s (by simp [Happening.isMute])) rfl
  fun_induction pull detour items s with
  | case1 s noted => exact (requested s).trans (.of_eq (journal_call launch receiver _ rfl) rfl)
  | case2 s noted =>
    have asked : Keeps launch receiver noted { noted with feed := [] } := .of_eq rfl rfl
    exact ((requested s).trans asked).trans (.of_rings (rings_close _ false))
  | case3 item rest s noted asked delayed =>
    exact (requested s).trans (.of_eq (journal_callAfter launch receiver _ _ rfl) rfl)
  | case4 item rest s noted asked =>
    exact (requested s).trans (.of_eq (journal_call launch receiver _ rfl) rfl)
  | case5 item rest s noted prompt direct received again ih =>
    have got : Keeps launch receiver noted received :=
      Keeps.trans (.of_eq rfl rfl) (keeps_receive { noted with feed := rest } item.batch)
    exact ((requested s).trans got).trans ih
  | case6 item rest s noted prompt direct received stays =>
    have got : Keeps launch receiver noted received :=
      Keeps.trans (.of_eq rfl rfl) (keeps_receive { noted with feed := rest } item.batch)
    exact (requested s).trans got

/-- The producer takes what the source has handed over, or a slot. -/
theorem keeps_take (s : Stream) : Keeps launch receiver s s.take := by
  unfold take
  split
  · exact .of_rings (rings_close s false)
  · rename_i item rest waits next
    exact Keeps.trans (.of_eq rfl rfl) (keeps_receive { s with feed := rest } item.batch)
  · rename_i b granted
    split
    · exact Keeps.trans (.of_eq rfl rfl) (keeps_refuse { s with tally := s.tally.giveBack } b)
    · rename_i goes
      exact keeps_admitBatch b (eq_false_of_ne_true goes)
  · rename_i slot _
    have back : Keeps launch receiver s
        { s with tally := if slot then s.tally.giveBack else s.tally } := by
      cases slot <;> exact .of_eq rfl rfl
    exact back.trans (.of_rings (rings_close _ false))
  · exact .of_eq rfl rfl

/-- The producer goes on. -/
theorem keeps_produce (detour : Bool) (s : Stream) :
    Keeps launch receiver s (s.produce detour) := by
  simp only [produce]
  split
  · exact (keeps_take s).trans (keeps_pull detour s.take.feed s.take)
  · exact keeps_take s

/-! ## Launches -/

/-- An event is put into the queue: it is still to be told. -/
theorem journal_put (s : Stream) (e : Event) :
    (s.put (some e)).journal launch receiver =
      s.journalWith launch (toldOf receiver (s.unheard ++ [e])) := by
  have queued : s.consumer.event?.toList ++ (s.queue ++ [some e]).reduceOption =
      s.unheard ++ [e] := by
    rw [List.reduceOption_append, ← List.append_assoc]
    rfl
  unfold put
  dsimp only
  split
  · rename_i idle
    rw [journal_call launch receiver _ rfl, ← queued, idle]
    rfl
  · rw [← queued]
    rfl

variable (rules : Rules)

/-- A launch that has ended frees its slot, and what it came to is to be told. -/
theorem journal_book (s : Stream) (f : Flight) (held : 0 < s.tally.active) :
    (s.book (s.tally.finish f.batch f.plan.ending)).journal launch receiver =
      { (s.journal launch receiver).land (terms rules receiver)
          ((s.journal launch receiver).landing f (s.tally.active - 1)) s.flights with
        landed := (s.journal launch receiver).landed } := by
  obtain ⟨settled, -⟩ := s.tally.finish_eq held f
  obtain ⟨⟨notes, mute, happened⟩, tells⟩ := s.tally.finish_told held f
  obtain ⟨noted, hnoted⟩ : ∃ noted, noted = note { s with tally := s.tally.settle f }
    (notes ++ f.flaw?.toList.map .faulted) := ⟨_, rfl⟩
  have books (pending : List Event) : noted.journalWith launch pending =
      { s.journalWith launch pending with
        faults := s.history.faults ++ f.flaw?.toList
        completed := s.tally.completed ++ f.result?.toList
        fault := s.tally.fault.or f.flaw? } := by
    rw [hnoted, journalWith, history_note, List.map_append, ← List.append_assoc]
    cases flaw : f.flaw? with
    | none =>
      rw [Option.toList_none, List.map_nil, List.map_nil, List.append_nil, List.append_nil,
        Journal.ofHistory_mute mute]
      simp only [Tally.settle, flaw, List.append_nil]
      rfl
    | some fault =>
      rw [Option.toList_some, List.map_singleton, List.map_singleton, Journal.ofHistory_faulted,
        Journal.ofHistory_mute mute]
      simp only [Tally.settle, flaw]
      rfl
  have left : noted.grant.unheard = s.unheard := by
    rw [unheard_grant, hnoted]
    rfl
  unfold book
  dsimp only
  rw [settled, happened, tells, ← hnoted]
  cases result : f.result? with
  | none =>
    rw [Option.map_none]
    show noted.grant.journal launch receiver = _
    rw [journal, left, journalWith_grant, books]
    simp [Journal.land, Journal.landing, Landing.told?, Landing.event?, Landing.fault?,
      Landing.protest?, terms, result, journal, journalWith, Journal.ofHistory]
  | some r =>
    rw [Option.map_some]
    show (noted.grant.put _).journal launch receiver = _
    rw [journal_put, left, journalWith_grant, books]
    have active : ((s.tally.active - 1 : Nat) : Int) = s.tally.active - 1 := by omega
    rw [toldOf_concat]
    simp [Journal.land, Journal.landing, Landing.told?, Landing.event?, Landing.fault?,
      Landing.protest?, terms, result, journal, journalWith, Journal.ofHistory, active]

/-- **The end of a launch is a landing.** -/
theorem journal_finish (s : Stream) (f : Flight) (held : 0 < s.tally.active) :
    (s.finish f.batch f.plan).journal launch receiver =
      (s.journal launch receiver).land (terms rules receiver)
        ((s.journal launch receiver).landing f (s.tally.active - 1)) s.flights := by
  obtain ⟨noted, hnoted⟩ : ∃ noted,
    noted = s.note (.ended f.batch :: f.plan.closing.map .remarked) := ⟨_, rfl⟩
  have ended : noted.journal launch receiver = { s.journal launch receiver with
      landed := (s.journal launch receiver).landed ++ [f.batch] } := by
    rw [hnoted, journal, journalWith, history_note]
    exact Journal.ofHistory_ended s.now f.batch f.plan.closing
  have active : noted.tally.active = s.tally.active := by rw [hnoted]; rfl
  have flights : noted.flights = s.flights := by rw [hnoted]; rfl
  have booked (t : Stream) (same : t.journal launch receiver = noted.journal launch receiver)
      (busy : t.tally.active = noted.tally.active) (fly : t.flights = noted.flights) :
      (t.book (t.tally.finish f.batch f.plan.ending)).journal launch receiver =
        (s.journal launch receiver).land (terms rules receiver)
          ((s.journal launch receiver).landing f (s.tally.active - 1)) s.flights := by
    rw [journal_book rules t f (by rw [busy, active]; exact held), same, busy, fly,
      ended, active, flights]
    rfl
  unfold finish
  dsimp only
  rw [← hnoted]
  split
  · rw [journal_conclude]
    exact booked noted.cancel (journal_cancel launch receiver noted) (active_cancel noted)
      (by unfold cancel; split <;> rfl)
  · rw [journal_conclude]
    exact booked noted rfl rfl rfl

variable {rules} {all : List Batch}

/-- A launch that is active lands. -/
theorem moves_land (sound : s.roster.Sound rules all) {j : Journal} {f : Flight}
    {rest : Multiset Flight} (aloft : j.running = f ::ₘ rest) (held : 0 < s.tally.active) :
    Journal.Moves (terms rules receiver) j
      (j.land (terms rules receiver) (j.landing f (s.tally.active - 1)) rest) := by
  have busy : 0 < s.roster.active := Int.natCast_pos.mpr held
  obtain ⟨natural, room⟩ := sound.room busy
  exact .single (.land j f _ rest aloft natural room)

/-- The turns but one. -/
theorem flights_ready {turn : Turn} {rest : List Turn} (ready : s.ready = turn :: rest) :
    s.flights = (turn.flight?.toList : Multiset Flight) + flights { s with ready := rest } := by
  rw [flights, Stream.turns, ready, List.cons_append, List.cons_append, List.filterMap_cons]
  cases turn.flight? <;> rfl

theorem journal_ready {turn : Turn} {rest : List Turn} (ready : s.ready = turn :: rest) :
    s.journal launch receiver = { journal launch receiver { s with ready := rest } with
      running := (turn.flight?.toList : Multiset Flight) + flights { s with ready := rest } } := by
  rw [journal, journalWith, flights_ready ready]
  rfl

/-- The turn of a launch that ends. -/
theorem journal_finish_turn {b : Batch} {plan : Plan} {rest : List Turn}
    (ready : s.ready = .relay b plan 0 :: rest) (sound : s.roster.Sound rules all) :
    Journal.Moves (terms rules receiver) (s.journal launch receiver)
      ((finish { s with ready := rest } b plan).journal launch receiver) := by
  have same : s.journal launch receiver = _ := journal_ready ready
  have aloft : (s.journal launch receiver).running =
      (⟨b, plan⟩ : Flight) ::ₘ flights { s with ready := rest } := by
    rw [same]
    rfl
  have held : 0 < s.tally.active := by
    refine Int.natCast_pos.mp (sound.active_pos_of_running (f := ⟨b, plan⟩) ?_)
    show _ ∈ (s.journal launch receiver).running
    rw [aloft]
    exact Multiset.mem_cons_self _ _
  rw [journal_finish rules { s with ready := rest } ⟨b, plan⟩ held]
  convert moves_land (f := ⟨b, plan⟩) sound aloft held using 1
  rw [same]
  rfl

/-- A launch starts. -/
theorem journal_began (receiver : Listener) (f : Flight)
    (planned : f.plan = launch s.launched s.now f.batch)
    (ordinal : s.launched = s.history.starts.length) :
    (note { s with launched := s.launched + 1 } (.started f.batch :: f.plan.opening.map .remarked ++
        f.plan.attempt.toList.map .attempted)).journal launch receiver =
      { (s.journal launch receiver).start f with running := s.flights } := by
  rw [journal, journalWith, history_note]
  rw [ordinal] at planned
  exact Journal.ofHistory_started s.now f planned

/-- A launch that has started ends at once, or it gets a turn for its end. -/
def takeOff (s : Stream) (f : Flight) : Stream :=
  match f.plan.duration with
  | none => s.finish f.batch f.plan
  | some duration =>
    if duration = 0 ∧ f.plan.waitsFor = .sleep then s.call (.relay f.batch f.plan 0)
    else s.callAfter duration (.relay f.batch f.plan f.plan.waitsFor.turns)

theorem start_eq (launch : Launcher) (s : Stream) (f : Flight)
    (planned : f.plan = launch s.launched s.now f.batch) :
    start launch s f.batch = takeOff (note { s with launched := s.launched + 1 }
      (.started f.batch :: f.plan.opening.map .remarked ++
        f.plan.attempt.toList.map .attempted)) f := by
  rw [takeOff, planned]
  rfl

/-- A launch that counts as running takes off. -/
theorem journal_takeOff (sound : s.roster.Sound rules all) (held : 0 < s.tally.active)
    (books : t.tally = s.tally) (f : Flight) :
    Journal.Moves (terms rules receiver)
      { t.journal launch receiver with running := f ::ₘ t.flights }
      ((t.takeOff f).journal launch receiver) := by
  have aloft (u : Stream) (fly : u.flights = f ::ₘ t.flights)
      (still : u.journal launch receiver =
        { t.journal launch receiver with running := u.flights }) :
      Journal.Moves (terms rules receiver)
        { t.journal launch receiver with running := f ::ₘ t.flights }
        (u.journal launch receiver) := by
    rw [still, fly]
  unfold takeOff
  split
  · rw [journal_finish rules t f (by rw [books]; exact held), books]
    exact moves_land sound rfl held
  · split
    · exact aloft _ (flights_call _ _) rfl
    · exact aloft _ (flights_callAfter _ _ _) rfl

/-- The turn in which a launch starts; it may land at once. -/
theorem journal_start_turn {b : Batch} {rest : List Turn} (ready : s.ready = .start b :: rest)
    (sound : s.roster.Sound rules all) :
    Journal.Moves (terms rules receiver) (s.journal rules.launch receiver)
      ((start rules.launch { s with ready := rest } b).journal rules.launch receiver) := by
  obtain ⟨q, hq⟩ : ∃ q, q = { s with ready := rest } := ⟨_, rfl⟩
  obtain ⟨f, hf⟩ : ∃ f : Flight, f = ⟨b, rules.launch q.launched q.now b⟩ := ⟨_, rfl⟩
  have own : f.batch = b := by rw [hf]
  have planned : f.plan = rules.launch q.launched q.now f.batch := by rw [hf]
  have same : s.journal rules.launch receiver = q.journal rules.launch receiver := by
    rw [journal_ready ready, ← hq]
    simp only [Turn.flight?, Option.toList_none, Multiset.coe_nil, Multiset.zero_add]
    rfl
  have started : Journal.Moves (terms rules receiver) (s.journal rules.launch receiver)
      ((q.journal rules.launch receiver).start f) := by
    rw [same]
    exact .single (.start _ f)
  have held : 0 < s.tally.active := by
    refine Int.natCast_pos.mp (sound.active_pos_of_waiting (b := b) ?_)
    simp [roster, ready, Turn.start?]
  rw [← hq, ← own, start_eq rules.launch q f planned]
  refine started.trans ?_
  have began := journal_began receiver f planned (by rw [hq]; exact sound.started)
  convert journal_takeOff sound held ?_ f using 1
  · rw [began]
    rfl
  · rw [hq]
    rfl

/-! ## The consumer -/

variable (launch) (consumer : Consumer)

/-- The consumer hears of the event that was to be told next. -/
theorem journalWith_hear (s : Stream) (e : Event) (rest : List Event) :
    (hear consumer s e).journalWith launch (toldOf consumer.listener rest) =
      s.journalWith launch (toldOf consumer.listener (e :: rest)) := by
  have heard : (if consumer.listener.isSome then s.note [.delivered e] else s).journalWith launch
      (toldOf consumer.listener rest) =
        s.journalWith launch (toldOf consumer.listener (e :: rest)) := by
    unfold toldOf
    split
    · rw [journalWith, history_note]
      exact Journal.ofHistory_delivered s.now e
    · rfl
  unfold hear
  dsimp only
  split
  · rw [journalWith_cancel, heard]
  · exact heard

/-- One state is what becomes of another one when the consumer leaves because of an event, the last
one that it has heard of. -/
def Forsakes (consumer : Consumer) (e : Event) (s t : Stream) : Prop :=
  (∃ error, consumer.departure? e = some error ∧ Winds error (s.cutOff error) t) ∧
    (consumer.listener.isSome → s.history.heard.getLast? = some e)

/-- A consumer that has left takes nothing from the queue. -/
theorem deliver_of_forsakes {e : Event} (forsakes : Forsakes consumer e s t)
    (items : List (Option Event)) : Forsakes consumer e s (deliver consumer items t) := by
  obtain ⟨⟨error, departs, winds⟩, last⟩ := forsakes
  exact ⟨⟨error, departs, winds.deliver consumer items⟩, last⟩

theorem Forsakes.deserts {e : Event} (forsakes : Forsakes consumer e s t) :
    Deserts consumer s t := by
  obtain ⟨⟨error, departs, winds⟩, -⟩ := forsakes
  exact ⟨e, error, departs, winds⟩

/-- A consumer that has left does not come back. -/
theorem Forsakes.of_next? {e : Event} (forsakes : Forsakes consumer e s t) {detour : Bool}
    (next : next? consumer launch detour t = some u) : Forsakes consumer e s u := by
  obtain ⟨⟨error, departs, winds⟩, last⟩ := forsakes
  exact ⟨⟨error, departs, winds.of_next? next⟩, last⟩

theorem journalWith_handle (s : Stream) (e : Event) (rest : List Event) :
    ∃ u, u.journalWith launch (toldOf consumer.listener rest) =
        s.journalWith launch (toldOf consumer.listener (e :: rest)) ∧ u.consumer = .idle ∧
      u.queue = s.queue ∧
      (handle consumer s e = u ∨ Forsakes consumer e u (handle consumer s e)) := by
  obtain ⟨u, hu⟩ : ∃ u, u = hear consumer { s with consumer := .idle } e := ⟨_, rfl⟩
  have spared := spares_hear consumer { s with consumer := .idle } e
  have heard (listens : consumer.listener.isSome = true) : u.history.heard.getLast? = some e := by
    have told := congrArg Journal.told
      (journalWith_hear launch consumer { s with consumer := .idle } e [])
    simp only [journalWith, Journal.ofHistory, toldOf, listens, if_true, List.append_nil] at told
    rw [hu, told]
    exact List.getLast?_concat
  refine ⟨u, ?_, by rw [hu]; exact spared.consumer, by rw [hu]; exact spared.queue, ?_⟩
  · rw [hu]
    exact journalWith_hear launch consumer _ e rest
  · unfold handle
    dsimp only
    rw [← hu]
    split
    · rename_i error departs
      exact .inr ⟨⟨error, departs, winds_leave u error⟩, heard⟩
    · exact .inl rfl

/-- The consumer is there and the run has this journal, or the consumer has left a state with this
journal. -/
def Bears (j : Journal) (t : Stream) : Prop :=
  t.Here ∧ t.journal launch consumer.listener = j ∨
    ∃ e u pending, u.journalWith launch pending = j ∧ Forsakes consumer e u t

/-- The consumer takes what the queue holds. -/
theorem bears_deliver (items : List (Option Event)) (s : Stream) (here : s.Here) :
    Bears launch consumer (s.journalWith launch
        (toldOf consumer.listener (s.consumer.event?.toList ++ items.reduceOption)))
      (deliver consumer items s) := by
  fun_induction deliver consumer items s with
  | case1 s => exact .inl ⟨here, rfl⟩
  | case2 rest s idle =>
    rw [idle]
    exact .inl ⟨here_of_state rfl fun _ => ⟨by rintro ⟨⟩, by rintro ⟨⟩⟩, rfl⟩
  | case3 rest s e idle prompt ih =>
    obtain ⟨u, same, waits, -, stays | forsakes⟩ :=
      journalWith_handle launch consumer s e rest.reduceOption
    · rw [stays] at ih ⊢
      have delivered := ih (here_of_idle waits)
      rw [waits] at delivered
      rw [idle]
      exact same ▸ delivered
    · rw [idle]
      exact .inr ⟨e, u, _, same, deliver_of_forsakes consumer forsakes rest⟩
  | case4 rest s e idle pauses =>
    refine .inl ⟨here_of_state rfl fun _ => ⟨by rintro ⟨⟩, by rintro ⟨⟩⟩, ?_⟩
    rw [journal_callAfter _ _ _ _ rfl, idle]
    rfl
  | case5 item rest s busy => exact .inl ⟨here, rfl⟩

/-- The consumer goes on. -/
theorem bears_consume (s : Stream) (here : s.Here) :
    Bears launch consumer (s.journal launch consumer.listener) (consume consumer s) := by
  unfold consume
  split
  · rename_i e busy
    have unheard : s.unheard = e :: s.queue.reduceOption := by
      rw [unheard, busy]
      rfl
    obtain ⟨u, same, waits, left, stays | forsakes⟩ :=
      journalWith_handle launch consumer s e s.queue.reduceOption
    · have delivered := bears_deliver launch consumer u.queue u (here_of_idle waits)
      rw [waits, left] at delivered
      simp only [stays, left, journal, unheard]
      exact same ▸ delivered
    · rw [journal, unheard]
      exact .inr ⟨e, u, _, same, deliver_of_forsakes consumer forsakes _⟩
  · rename_i called
    have unheard : s.unheard = s.queue.reduceOption := by
      rw [unheard, called]
      rfl
    rw [journal, unheard]
    exact bears_deliver launch consumer s.queue { s with consumer := .idle } (here_of_idle rfl)
  · rename_i error leaving
    exact absurd leaving (here error).1
  · exact bears_deliver launch consumer s.queue s here

/-! ## Turns -/

variable {launch consumer}

/-- The journal has moved on from a state, and the consumer is there, or it has left. -/
def MovesOn (rules : Rules) (consumer : Consumer) (s t : Stream) : Prop :=
  ∃ j, Journal.Moves (terms rules consumer.listener) (s.journal rules.launch consumer.listener) j ∧
    Bears rules.launch consumer j t

theorem MovesOn.of_same (here : t.Here) (same : t.journal rules.launch consumer.listener =
    s.journal rules.launch consumer.listener) : MovesOn rules consumer s t :=
  ⟨_, .refl, .inl ⟨here, same⟩⟩

/-- Whatever a turn brings is a chain of moves of the journal. -/
theorem journal_of_act (attended : s.Attended) (sound : s.roster.Sound rules all)
    (calm : s.tally.cancelled = false → s.history.faults = []) {turn : Turn} {rest : List Turn}
    (ready : s.ready = turn :: rest) (detour : Bool) :
    MovesOn rules consumer s (act consumer rules.launch detour { s with ready := rest } turn) := by
  obtain ⟨q, hq⟩ : ∃ q, q = { s with ready := rest } := ⟨_, rfl⟩
  have there : q.Here := by
    rw [hq]
    exact attended.here
  have stays (other : turn ≠ .consume) : (act consumer rules.launch detour q turn).Here := by
    rw [hq]
    exact (attended.act_of_ne detour ready other).here
  have free (none : turn.flight? = .none) : q.journal rules.launch consumer.listener =
      s.journal rules.launch consumer.listener := by
    rw [journal_ready ready, ← hq, none]
    simp only [Option.toList_none, Multiset.coe_nil, Multiset.zero_add]
    rfl
  rw [← hq]
  cases turn with
  | cancel => exact .of_same (stays nofun) ((journal_cancel _ _ q).trans (free rfl))
  | handOver => exact .of_same (stays nofun) ((journal_call _ _ q rfl).trans (free rfl))
  | produce =>
    have kept : Keeps rules.launch consumer.listener q (q.produce detour) :=
      keeps_produce detour q
    exact .of_same (stays nofun) ((kept (by rw [hq]; exact calm)).1.trans (free rfl))
  | start b =>
    have started : Journal.Moves (terms rules consumer.listener) _ _ :=
      journal_start_turn ready sound
    rw [← hq] at started
    exact ⟨_, started, .inl ⟨stays nofun, rfl⟩⟩
  | relay b plan turns =>
    cases turns with
    | zero =>
      have finished : Journal.Moves (terms rules consumer.listener)
        (s.journal rules.launch consumer.listener) _ := journal_finish_turn ready sound
      rw [← hq] at finished
      exact ⟨_, finished, .inl ⟨stays nofun, rfl⟩⟩
    | succ turns =>
      refine .of_same (stays nofun) ?_
      show (q.call (.relay b plan turns)).journal _ _ = _
      rw [journal_ready ready, ← hq, journal, journalWith, flights_call]
      rfl
  | abort b time =>
    refine .of_same (stays nofun) (Eq.trans ?_ (free rfl))
    cases time with
    | zero => exact journal_conclude _ _ q
    | succ time => exact journal_callAfter _ _ q _ rfl
  | gathered =>
    exact .of_same (stays nofun) ((journal_of_rings _ _ (rings_gather q)).trans (free rfl))
  | alarm => exact .of_same (stays nofun) ((journal_call _ _ q rfl).trans (free rfl))
  | consume =>
    have consumed := bears_consume rules.launch consumer q there
    rw [free rfl] at consumed
    exact ⟨_, .refl, consumed⟩

/-- **Whatever comes next is a chain of moves of the journal**, up to the state in which the
consumer leaves, if it does. -/
theorem journal_of_next? (attended : s.Attended) (sound : s.roster.Sound rules all)
    (calm : s.tally.cancelled = false → s.history.faults = []) {detour : Bool}
    (next : next? consumer rules.launch detour s = some t) :
    MovesOn rules consumer s t := by
  unfold next? at next
  split at next
  · contradiction
  · split at next
    · rename_i turn rest ready
      cases next
      exact journal_of_act attended sound calm ready detour
    · contradiction
    · rename_i timer timers ready _ _
      cases next
      exact .of_same attended.here (journal_round _ _ _ ready)
    · rename_i ready _ _
      cases next
      exact .of_same attended.here (journal_round _ _ _ ready)

/-! ## Whole runs -/

variable {feed : Feed} {interruption : Interruption} {cancellable detour : Bool}

theorem tells_initial (receiver : Listener) :
    ((pull detour feed.items (initial rules.tally cancellable interruption)).journal launch
      receiver).Tells (terms rules receiver) [] := by
  obtain ⟨-, idle, empty⟩ := initial_asks rules.tally cancellable interruption
  have silent : toldOf receiver (initial rules.tally cancellable interruption).unheard = [] := by
    rw [unheard, idle, empty]
    exact ite_self _
  have blank : (initial rules.tally cancellable interruption).journal launch receiver =
      .ofHistory launch [] 0 [] none [] := by
    rw [journal, silent]
    cases cancellable <;> cases early : interruption.beforehand <;>
      cases timed : interruption.time <;>
        simp only [journalWith, initial, cancel, early, timed] <;> rfl
  have asked : Keeps launch receiver (initial rules.tally cancellable interruption)
      (pull detour feed.items (initial rules.tally cancellable interruption)) := keeps_pull _ _ _
  rw [(asked fun _ => congrArg Journal.faults blank).1, blank]
  exact ⟨rfl, rfl, rfl, rfl, rfl, rfl, rfl, rfl, rfl, fun l mem => absurd mem List.not_mem_nil⟩

/-- **In every state of a run the journal tells of the launches that have landed**, or it does in
the state in which the consumer leaves. -/
theorem tells_of_passes (allow : rules.Allow consumer.listener)
    (may : interruption = {} ∨ rules.cancels)
    (passes : Passes consumer rules.launch detour feed
      (initial rules.tally cancellable interruption) t) :
    ∃ j landings, j.Tells (terms rules consumer.listener) landings ∧
      Bears rules.launch consumer j t := by
  unfold Passes at passes
  induction passes with
  | refl => exact ⟨_, [], tells_initial consumer.listener, .inl ⟨attended_initial.here, rfl⟩⟩
  | @tail s t passed next ih =>
    obtain ⟨j, landings, tells, ⟨here, rfl⟩ | ⟨e, u, pending, same, forsakes⟩⟩ := ih
    · obtain ⟨moves, -⟩ := moves_of_here allow may passed here
      obtain ⟨-, sound, attended, -⟩ := present_of_here allow may passed here
      have calm (goes : s.tally.cancelled = false) : s.history.faults = [] :=
        tells.faults_eq_nil (Roster.whole_of_going moves goes)
      obtain ⟨j, moves', bears⟩ := journal_of_next? attended sound calm next
      obtain ⟨more, tells'⟩ := tells.of_moves moves'
      exact ⟨j, _, tells', bears⟩
    · exact ⟨j, landings, tells, .inr ⟨e, u, pending, same, forsakes.of_next? _ _ next⟩⟩

/-- **When a run is over and the consumer is there, the journal tells of the launches that have
landed**, and nothing is left to be told. -/
theorem tells_of_over (allow : rules.Allow consumer.listener)
    (may : interruption = {} ∨ rules.cancels)
    (passes : Passes consumer rules.launch detour feed
      (initial rules.tally cancellable interruption) t)
    (halted : next? consumer rules.launch detour t = none) (here : t.Here) :
    ∃ landings, (t.journalWith rules.launch []).Tells (terms rules consumer.listener) landings := by
  obtain ⟨j, landings, tells, ⟨-, rfl⟩ | ⟨e, u, pending, -, forsakes⟩⟩ :=
    tells_of_passes allow may passes
  · obtain ⟨joining, empty, -, -⟩ := ended_of_over allow may passes halted here
    have silent : toldOf consumer.listener t.unheard = [] := by
      rw [unheard, joining, empty]
      exact ite_self _
    rw [journal, silent] at tells
    exact ⟨landings, tells⟩
  · exact absurd here forsakes.deserts.not_here

end Stream

end BatchExec
