import BatchExec.Proofs.Stream.Announcement

/-!
# Consumers that leave early

A consumer that handles each event at once and leaves at the event with some number is compared with
one that does the same up to that event and stays. Their runs pass through the same states until the
event is told; then one of them is cut off and the other goes on.

* `Consumer.LeavesAt`: a consumer does as another one does, but leaves at the event with a number.
* `Stream.consume_eq`: a consumer that does not wait takes all events that it has not heard of.
* `Stream.heard_of_other`: only the consumer hears of events.
* `Stream.Parting`: what becomes of a state in which the event has just been told.
* `Stream.parting_of_next?`: **a step leads both runs to the same state, or one of them to its
  end.**
* `Stream.parting_of_passes`: **one run is a beginning of the other.**
-/

namespace BatchExec

/-- A consumer does at once what another one does, which stays, but leaves at the event with some
number. -/
structure Consumer.LeavesAt (leaver stayer : Consumer) (last : Nat) : Prop where
  stays : stayer.Stays
  listens : stayer.listener.isSome = true ∧ leaver.listener.isSome = true
  prompt : stayer.delay = 0 ∧ leaver.delay = 0
  follows : ∀ e, e.completed < last → leaver.departure? e = none ∧
    (leaver.reaction e).cancels = (stayer.reaction e).cancels
  leaves : ∀ e, e.completed = last → (leaver.departure? e).isSome = true

/-- Nothing is told to a receiver of events that is not there. -/
theorem Journal.told_of_moves {terms : Terms} {j j' : Journal} (deaf : terms.receiver = none)
    (moves : Journal.Moves terms j j') : j'.told = j.told := by
  induction moves with
  | refl => rfl
  | tail _ move ih =>
    cases move with
    | start f => exact ih
    | land f active rest aloft natural room =>
      rw [← ih, Journal.land, Landing.told?, deaf]
      exact List.append_nil _

namespace History

variable {receiver : Listener} {h : History} {level : Int} {results : List Result}
  {pending : List Event}

/-- The events that are pending bear the next numbers. -/
theorem Announces.completed_getElem? (announces : h.Announces receiver level results pending)
    (listens : receiver.isSome = true) {n : Nat} {e : Event} (nth : pending[n]? = some e) :
    e.completed = h.heard.length + n + 1 := by
  obtain ⟨-, -, -, taken, all, told⟩ := announces
  rw [told listens] at all
  have numbers := h.map_completed_announcements
  have listed : (h.announcements.map Event.completed)[h.heard.length + n]? = some e.completed := by
    rw [← all, List.getElem?_map, List.getElem?_append_right (Nat.le_add_right _ _),
      Nat.add_sub_cancel_left, nth]
    rfl
  rw [numbers] at listed
  obtain ⟨bound, counted⟩ := List.getElem?_eq_some_iff.mp listed
  rw [List.getElem_range'] at counted
  omega

end History

namespace Stream

variable {consumer consumer' : Consumer} {launch : Launcher} {detour : Bool} {s t : Stream}

/-! ## What a consumer hears -/

/-- Hearing of an event may cancel the run, and does nothing else. -/
theorem history_hear (listens : consumer.listener.isSome = true) (s : Stream) (e : Event) :
    ∃ more : History, (hear consumer s e).history = s.history ++ ⟨s.now, .delivered e⟩ :: more ∧
      ∀ x ∈ more, x.what = .cancelled := by
  have heard : (s.note [.delivered e]).history = s.history ++ [⟨s.now, .delivered e⟩] :=
    history_note s _
  unfold hear
  dsimp only
  rw [if_pos listens]
  split
  · unfold cancel
    split
    · refine ⟨[⟨s.now, .cancelled⟩], ?_, fun x mem => List.mem_singleton.mp mem ▸ rfl⟩
      rw [history_note]
      show (s.note [.delivered e]).history ++ _ = _
      rw [heard, List.append_assoc]
      rfl
    · exact ⟨[], heard, fun x mem => absurd mem List.not_mem_nil⟩
  · exact ⟨[], heard, fun x mem => absurd mem List.not_mem_nil⟩

theorem now_hear (consumer : Consumer) (s : Stream) (e : Event) :
    (hear consumer s e).now = s.now := by
  have cancelled (s : Stream) : s.cancel.now = s.now := by
    unfold cancel
    split <;> rfl
  unfold hear
  dsimp only
  split
  · rw [cancelled]
    split <;> rfl
  · split <;> rfl

theorem heard_of_cancelled {more : History} (cancels : ∀ x ∈ more, x.what = .cancelled) :
    more.heard = [] := by
  refine List.filterMap_eq_nil_iff.mpr fun x mem => ?_
  rw [Entry.delivery?, cancels x mem]

/-- Consumers that react alike make the same of an event. -/
theorem hear_congr (listens : consumer.listener.isSome = true)
    (listens' : consumer'.listener.isSome = true) (s : Stream) {e : Event}
    (alike : (consumer.reaction e).cancels = (consumer'.reaction e).cancels) :
    hear consumer s e = hear consumer' s e := by
  unfold hear
  rw [if_pos listens, if_pos listens', alike]

theorem foldl_hear_congr (listens : consumer.listener.isSome = true)
    (listens' : consumer'.listener.isSome = true) {events : List Event}
    (alike : ∀ e ∈ events, (consumer.reaction e).cancels = (consumer'.reaction e).cancels)
    (s : Stream) : events.foldl (hear consumer) s = events.foldl (hear consumer') s := by
  induction events generalizing s with
  | nil => rfl
  | cons e events ih =>
    rw [List.foldl_cons, List.foldl_cons,
      hear_congr listens listens' s (alike e List.mem_cons_self)]
    exact ih (fun e' mem => alike e' (List.mem_cons_of_mem e mem)) _

theorem consumer_foldl_hear (consumer : Consumer) (events : List Event) (s : Stream) :
    (events.foldl (hear consumer) s).consumer = s.consumer := by
  induction events generalizing s with
  | nil => rfl
  | cons e events ih => exact (ih _).trans (spares_hear consumer s e).consumer

/-- A consumer that hears of some events takes nothing back, and these are what it has heard of. -/
theorem history_foldl_hear (listens : consumer.listener.isSome = true) (events : List Event)
    (s : Stream) : s.history <+: (events.foldl (hear consumer) s).history ∧
      (events.foldl (hear consumer) s).history.heard = s.history.heard ++ events := by
  induction events generalizing s with
  | nil => exact ⟨List.prefix_rfl, (List.append_nil _).symm⟩
  | cons e events ih =>
    obtain ⟨more, history, cancels⟩ := history_hear listens s e
    obtain ⟨longer, heard⟩ := ih (hear consumer s e)
    refine ⟨List.IsPrefix.trans ⟨_, history.symm⟩ longer, heard.trans ?_⟩
    have silent : History.heard (⟨s.now, .delivered e⟩ :: more) = e :: History.heard more :=
      List.filterMap_cons_some rfl
    rw [history, History.heard_append, silent, heard_of_cancelled cancels, List.append_assoc]
    rfl

/-! ## What a consumer takes -/

theorem attend_of_idle (idle : s.consumer = .idle) : { s with consumer := .idle } = s := by
  rw [← idle]

/-- A consumer that waits for an event, and does not wait before it handles one, handles the next.
-/
theorem deliver_cons (prompt : consumer.delay = 0) (idle : s.consumer = .idle) (e : Event)
    (rest : List (Option Event)) :
    deliver consumer (some e :: rest) s = deliver consumer rest (handle consumer s e) := by
  simp only [deliver, idle, if_pos prompt]

/-- A consumer hears of all events at which it does not leave. -/
theorem deliver_append (prompt : consumer.delay = 0) (idle : s.consumer = .idle)
    {events : List Event} (stays : ∀ e ∈ events, consumer.departure? e = none)
    (rest : List (Option Event)) :
    deliver consumer (events.map some ++ rest) s =
      deliver consumer rest (events.foldl (hear consumer) s) := by
  induction events generalizing s with
  | nil => rfl
  | cons e events ih =>
    have handled : handle consumer s e = hear consumer s e := by
      rw [handle, stays e List.mem_cons_self, attend_of_idle idle]
    have waits : (hear consumer s e).consumer = .idle :=
      (spares_hear consumer s e).consumer.trans idle
    rw [List.map_cons, List.cons_append, deliver_cons prompt idle, handled, List.foldl_cons]
    exact ih waits fun e' mem => stays e' (List.mem_cons_of_mem e mem)

/-- Whatever consumer it is, it hears nothing more at the end of the events. -/
theorem deliver_end (idle : s.consumer = .idle) (closed : Bool) :
    ∃ state, ∀ consumer, deliver consumer (if closed then [none] else []) s =
      { s with queue := [], consumer := state } := by
  cases closed with
  | true =>
    refine ⟨.joining, fun consumer => ?_⟩
    simp only [if_true, deliver, idle]
  | false => exact ⟨.idle, fun consumer => by rw [← idle]; rfl⟩

/-- A consumer that leaves at an event takes nothing after it. -/
theorem winds_of_departure? (prompt : consumer.delay = 0) (idle : s.consumer = .idle) {e : Event}
    {error : Option RunError} (departs : consumer.departure? e = some error)
    (rest : List (Option Event)) :
    Winds error ((hear consumer s e).cutOff error) (deliver consumer (some e :: rest) s) := by
  rw [deliver_cons prompt idle, handle, departs, attend_of_idle idle]
  exact (winds_leave _ error).deliver consumer rest

/-- A consumer that does not wait takes all that it has not looked at. -/
theorem consume_eq (prompt : consumer.delay = 0) (here : s.Here) (waits : s.consumer ≠ .joining) :
    consume consumer s = deliver consumer (s.consumer.event?.toList.map some ++ s.queue)
      { s with consumer := .idle } := by
  unfold consume
  cases state : s.consumer with
  | idle =>
    rw [attend_of_idle state]
    rfl
  | called => rfl
  | busy e =>
    have queue := (carries_handle consumer s e []).2.2
    show deliver consumer (handle consumer s e).queue (handle consumer s e) = _
    rw [queue]
    exact (deliver_cons prompt (s := { s with consumer := .idle }) rfl e s.queue).symm
  | joining => exact absurd state waits
  | leaving error => exact absurd state (here error).1
  | gone error => exact absurd state (here error).2

/-! ## Turns of others -/

theorem act_of_other (consumer consumer' : Consumer) (launch : Launcher) (detour : Bool)
    (s : Stream) {turn : Turn} (other : turn ≠ .consume) :
    act consumer launch detour s turn = act consumer' launch detour s turn := by
  cases turn with
  | consume => exact absurd rfl other
  | relay b plan turns => cases turns <;> rfl
  | abort b time => cases time <;> rfl
  | _ => rfl

/-- What comes next does not depend on the consumer unless it has its turn. -/
theorem next?_of_other (consumer consumer' : Consumer)
    (other : ∀ rest, s.ready ≠ .consume :: rest) :
    next? consumer launch detour s = next? consumer' launch detour s := by
  unfold next?
  cases ready : s.ready with
  | nil => cases s.upcoming <;> cases s.timers <;> rfl
  | cons turn rest =>
    have others : turn ≠ .consume := fun same => other rest (same ▸ ready)
    dsimp only
    rw [act_of_other consumer consumer' launch detour _ others]

theorem next?_of_consume {rest : List Turn} (ready : s.ready = .consume :: rest)
    (consumer : Consumer) : next? consumer launch detour s =
      if s.isOver then none else some (consume consumer { s with ready := rest }) := by
  unfold next?
  rw [ready]
  rfl

variable {rules : Rules} {all : List Batch}

/-- Only the consumer hears of events. -/
theorem heard_of_other (attended : s.Attended) (sound : s.roster.Sound rules all)
    (calm : s.tally.cancelled = false → s.history.faults = [])
    (other : ∀ rest, s.ready ≠ .consume :: rest)
    (next : next? consumer rules.launch detour s = some t) : t.history.heard = s.history.heard := by
  -- a consumer that is deaf would make the same step, and nothing is told to it
  have deaf : next? {} rules.launch detour s = some t :=
    (next?_of_other {} consumer other).trans next
  obtain ⟨j, moves, ⟨-, rfl⟩ | ⟨e, u, pending, -, ⟨⟨error, departs, -⟩, -⟩⟩⟩ :=
    journal_of_next? attended sound calm deaf
  · have told := Journal.told_of_moves rfl moves
    simpa [journal, journalWith, Journal.ofHistory, toldOf] using told
  · simp [Consumer.departure?, Consumer.reaction] at departs

/-! ## Partings -/

/-- One state is what becomes of another one when the consumer leaves at the event with some number,
the last one that it has heard of; this is the history up to that event. -/
structure Parting (consumer : Consumer) (last : Nat) (upto : History) (e : Event)
    (s t : Stream) : Prop where
  left : ∃ error, consumer.departure? e = some error ∧ Winds error (s.cutOff error) t
  told : ∃ more, s.history = upto ++ ⟨s.now, .delivered e⟩ :: more ∧
    ∀ x ∈ more, x.what = .cancelled
  number : e.completed = last
  heard : upto.heard.length + 1 = last

variable {leaver stayer : Consumer} {last : Nat}

theorem Parting.of_next? {upto : History} {e : Event} (parting : Parting consumer last upto e s t)
    {u : Stream} (next : next? consumer launch detour t = some u) :
    Parting consumer last upto e s u := by
  obtain ⟨error, departs, winds⟩ := parting.left
  exact { parting with left := ⟨error, departs, winds.of_next? next⟩ }

/-- A consumer that has left does not come back. -/
theorem Parting.of_before {upto : History} {e : Event} (parting : Parting consumer last upto e s t)
    {u : Stream} (before : Before consumer launch detour t u) :
    Parting consumer last upto e s u := by
  induction before with
  | refl => exact parting
  | tail _ next ih => exact ih.of_next? next

/-- Up to the event at which it leaves, one consumer hears what the other does. -/
theorem deliver_of_early (leaves : leaver.LeavesAt stayer last) (idle : s.consumer = .idle)
    {events : List Event} (early : ∀ e ∈ events, e.completed < last)
    (rest : List (Option Event)) :
    deliver leaver (events.map some ++ rest) s =
      deliver leaver rest (events.foldl (hear stayer) s) := by
  rw [deliver_append leaves.prompt.2 idle fun e mem => (leaves.follows e (early e mem)).1,
    foldl_hear_congr leaves.listens.2 leaves.listens.1 fun e mem =>
      (leaves.follows e (early e mem)).2]

/-- Of the next events all come before the one at which the consumer leaves, or it is among them. -/
theorem early_or_split {events : List Event} {heard : Nat}
    (numbered : ∀ n e, events[n]? = some e → e.completed = heard + n + 1) (few : heard < last) :
    (heard + events.length < last ∧ ∀ e ∈ events, e.completed < last) ∨
      ∃ first e rest, events = first ++ e :: rest ∧ heard + first.length + 1 = last ∧
        (∀ x ∈ first, x.completed < last) ∧ e.completed = last := by
  by_cases short : heard + events.length < last
  · refine .inl ⟨short, fun e mem => ?_⟩
    obtain ⟨n, bound, rfl⟩ := List.mem_iff_getElem.mp mem
    have := numbered n _ (List.getElem?_eq_getElem bound)
    omega
  · obtain ⟨n, hn⟩ : ∃ n, heard + n + 1 = last := ⟨last - heard - 1, by omega⟩
    have bound : n < events.length := by omega
    have length : (events.take n).length = n := List.length_take_of_le (Nat.le_of_lt bound)
    refine .inr ⟨events.take n, events[n], events.drop (n + 1), by simp, by omega, ?_, ?_⟩
    · intro x mem
      obtain ⟨m, small, rfl⟩ := List.mem_iff_getElem.mp mem
      rw [length] at small
      have nth : events[m]? = some (events.take n)[m] := by
        rw [List.getElem_take, List.getElem?_eq_getElem]
      have := numbered m _ nth
      omega
    · have := numbered n _ (List.getElem?_eq_getElem bound)
      omega

/-- A consumer that waits for `gather` does nothing in a turn. -/
theorem consume_of_joining (joins : s.consumer = .joining) : consume consumer s = s := by
  have busy : s.consumer ≠ .idle := by rw [joins]; rintro ⟨⟩
  unfold consume
  rw [joins]
  exact deliver_of_busy busy s.queue

/-- What the consumer has not heard of is what it has read and the events in the queue. -/
theorem unheard_of_holds {events : List Event} (holds : s.queue = events.map some ++
    if s.producer.isFinished then [none] else []) :
    s.unheard = s.consumer.event?.toList ++ events := by
  have ends : (if s.producer.isFinished then [none] else [] : List (Option Event)).reduceOption =
      [] := by
    split <;> rfl
  rw [unheard, holds, List.reduceOption_append, ends, List.append_nil, List.reduceOption,
    List.filterMap_map, Function.id_comp, List.filterMap_some]

/-- **In its turn one consumer hears of the same events as the other, or it leaves.** -/
theorem parting_of_consume (leaves : leaver.LeavesAt stayer last) (here : s.Here)
    (hears : s.consumer.Hears s.producer.isFinished s.queue)
    (numbered : ∀ n e, s.unheard[n]? = some e → e.completed = s.history.heard.length + n + 1)
    (few : s.history.heard.length < last) :
    (consume stayer s).history.heard.length < last ∧ consume leaver s = consume stayer s ∨
      ∃ upto e u, Parting leaver last upto e u (consume leaver s) ∧
        upto ++ [⟨u.now, .delivered e⟩] <+: (consume stayer s).history := by
  by_cases joins : s.consumer = .joining
  · rw [consume_of_joining joins, consume_of_joining joins]
    exact .inl ⟨few, rfl⟩
  obtain ⟨events, holds⟩ := hears.of_ne joins
  obtain ⟨q, hq⟩ : ∃ q : Stream, q = { s with consumer := .idle } := ⟨_, rfl⟩
  have idle : q.consumer = .idle := by rw [hq]
  have before : q.history = s.history := by rw [hq]; rfl
  rw [consume_eq leaves.prompt.1 here joins, consume_eq leaves.prompt.2 here joins, ← hq, holds,
    ← List.append_assoc, ← List.map_append, ← unheard_of_holds holds]
  have all := history_foldl_hear leaves.listens.1
  rw [deliver_append leaves.prompt.1 idle fun e _ => leaves.stays e]
  obtain ⟨state, ended⟩ := deliver_end (s := s.unheard.foldl (hear stayer) q)
    ((consumer_foldl_hear stayer s.unheard q).trans idle) s.producer.isFinished
  rcases early_or_split numbered few with ⟨short, early⟩ |
    ⟨first, e, rest, split, length, early, own⟩
  · rw [deliver_of_early leaves idle early, ended, ended]
    refine .inl ⟨?_, rfl⟩
    show (s.unheard.foldl (hear stayer) q).history.heard.length < last
    rw [(all s.unheard q).2, before, List.length_append]
    exact short
  · obtain ⟨v, hv⟩ : ∃ v, v = first.foldl (hear stayer) q := ⟨_, rfl⟩
    have waits : v.consumer = .idle := by rw [hv, consumer_foldl_hear, idle]
    obtain ⟨error, departs⟩ := Option.isSome_iff_exists.mp (leaves.leaves e own)
    obtain ⟨more, history, cancels⟩ := history_hear leaves.listens.2 v e
    rw [ended]
    refine .inr ⟨v.history, e, hear leaver v e, ⟨⟨error, departs, ?_⟩, ⟨more, ?_, cancels⟩,
      own, ?_⟩, ?_⟩
    · rw [split, List.map_append, List.append_assoc, deliver_of_early leaves idle early, ← hv]
      exact winds_of_departure? leaves.prompt.2 waits departs _
    · rw [now_hear]
      exact history
    · rw [hv, (all first q).2, before, List.length_append]
      exact length
    · obtain ⟨more', history', -⟩ := history_hear leaves.listens.1 v e
      show _ <+: (s.unheard.foldl (hear stayer) q).history
      rw [split, List.foldl_append, ← hv, now_hear]
      refine List.IsPrefix.trans ⟨more', ?_⟩ (all rest (hear stayer v e)).1
      rw [history', List.append_assoc]
      rfl

/-- **A step leads both runs to the same state, or one of them to its end.** -/
theorem parting_of_next? (leaves : leaver.LeavesAt stayer last) (attended : s.Attended)
    (closes : s.Sealed) (sound : s.roster.Sound rules all)
    (calm : s.tally.cancelled = false → s.history.faults = [])
    (numbered : ∀ n e, s.unheard[n]? = some e → e.completed = s.history.heard.length + n + 1)
    (few : s.history.heard.length < last) (next : next? stayer rules.launch detour s = some t) :
    t.history.heard.length < last ∧ next? leaver rules.launch detour s = some t ∨
      ∃ upto e u v, next? leaver rules.launch detour s = some v ∧
        Parting leaver last upto e u v ∧ upto ++ [⟨u.now, .delivered e⟩] <+: t.history := by
  by_cases turn : ∃ rest, s.ready = .consume :: rest
  · obtain ⟨rest, ready⟩ := turn
    rw [next?_of_consume ready] at next ⊢
    split at next
    · contradiction
    · rename_i goes
      cases next
      rw [if_neg goes]
      obtain ⟨less, same⟩ | ⟨upto, e, u, parting, before⟩ := parting_of_consume
        (s := { s with ready := rest }) leaves attended.here closes.queue numbered few
      · exact .inl ⟨less, congrArg some same⟩
      · exact .inr ⟨upto, e, u, _, rfl, parting, before⟩
  · have other : ∀ rest, s.ready ≠ .consume :: rest := fun rest ready => turn ⟨rest, ready⟩
    refine .inl ⟨?_, (next?_of_other leaver stayer other).trans next⟩
    rwa [heard_of_other attended sound calm other next]

/-! ## Whole runs -/

variable {feed : Feed} {interruption : Interruption} {cancellable : Bool}

/-- At first the consumer has heard of nothing. -/
theorem heard_initial : (pull detour feed.items
    (initial rules.tally cancellable interruption)).history.heard = [] := by
  have tells : ((pull detour feed.items (initial rules.tally cancellable interruption)).journal
      rules.launch none).Tells (terms rules none) [] := tells_initial none
  simpa [journal, journalWith, Journal.ofHistory, toldOf] using tells.told

/-- As long as a run goes on, nothing has broken it. -/
theorem faults_of_going (allow : rules.Allow consumer.listener)
    (may : interruption = {} ∨ rules.cancels)
    (passes : Passes consumer rules.launch detour feed
      (initial rules.tally cancellable interruption) s) (here : s.Here)
    (goes : s.tally.cancelled = false) : s.history.faults = [] := by
  obtain ⟨j, landings, tells, ⟨-, rfl⟩ | ⟨e, u, pending, -, forsakes⟩⟩ :=
    tells_of_passes allow may passes
  · exact tells.faults_eq_nil (Roster.whole_of_going (moves_of_here allow may passes here).1 goes)
  · exact absurd here forsakes.deserts.not_here

/-- **One run is a beginning of the other**: as long as the consumer that stays has heard of fewer
events, the one that leaves passes through the same states; later it has left. -/
theorem parting_of_passes (allow : rules.Allow stayer.listener)
    (may : interruption = {} ∨ rules.cancels) (leaves : leaver.LeavesAt stayer last)
    (positive : 0 < last)
    (passes : Passes stayer rules.launch detour feed
      (initial rules.tally cancellable interruption) t) :
    t.history.heard.length < last ∧ Passes leaver rules.launch detour feed
        (initial rules.tally cancellable interruption) t ∨
      ∃ upto e u v, Passes leaver rules.launch detour feed
          (initial rules.tally cancellable interruption) v ∧
        Parting leaver last upto e u v ∧ upto ++ [⟨u.now, .delivered e⟩] <+: t.history := by
  unfold Passes at passes
  induction passes with
  | refl =>
    refine .inl ⟨?_, .refl⟩
    rw [heard_initial]
    exact positive
  | @tail s t passed next ih =>
    have here := here_of_stays leaves.stays passed
    obtain ⟨steady, sound, attended, closes⟩ := present_of_here allow may passed here
    obtain ⟨few, passed'⟩ | ⟨upto, e, u, v, passed', parting, before⟩ := ih
    · have calm := faults_of_going allow may passed here
      have announces := (announces_of_passes allow may passed).1
      obtain ⟨less, next'⟩ | ⟨upto, e, u, v, next', parting, before⟩ :=
        parting_of_next? leaves attended closes sound calm
          (fun n e => announces.completed_getElem? leaves.listens.1) few next
      · exact .inl ⟨less, passed'.tail next'⟩
      · exact .inr ⟨upto, e, u, v, passed'.tail next', parting, before⟩
    -- the consumer has left one run, and the other goes on
    · have later := moves_later allow steady sound (.single next)
        (here_of_stays leaves.stays (passed.tail next))
      exact .inr ⟨upto, e, u, v, passed', parting,
        before.trans (Roster.Follows.of_moves later).history⟩

end Stream

end BatchExec
