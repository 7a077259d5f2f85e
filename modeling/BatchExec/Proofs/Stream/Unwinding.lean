import BatchExec.Proofs.Stream.Run

/-!
# The end of a run that its consumer leaves

A consumer that leaves waits for the producer and for the launches, which have been cut off. Each
launch that has been cut off has a turn until it has wound up, and besides there is exactly the turn
that the producer or the consumer waits for.

* `Stream.Unwinds`: what is left to do once the consumer has left.
* `Stream.unwinds_consume`: the consumer leaves in its turn,
* `Stream.Unwinds.of_next?`: and from then on nothing else is left to do,
* `Stream.Unwinds.ends`: **until every launch has wound up and the producer is over.**
-/

namespace BatchExec

/-- Whether a turn is one of a launch that has been cut off. -/
def Turn.isAbort : Turn → Bool
  | .abort _ _ => true
  | _ => false

namespace Stream

variable {consumer : Consumer} {launch : Launcher} {detour : Bool} {s t : Stream}
  {error : Option RunError}

/-- The turns that are not those of a launch that has been cut off. -/
def calls (s : Stream) : List Turn := s.turns.filter fun turn => !turn.isAbort

/-- How far the producer and the consumer, which leaves, have come: nobody has a turn but the one of
them that is next. -/
inductive Stage (s : Stream) : Prop where
  /-- The producer is to give back its slot. -/
  | halted (slot : Bool) (error : Option RunError) (producer : s.producer = .halted slot)
      (consumer : s.consumer = .leaving error) (calls : s.calls = [.produce])
  /-- The producer waits for the launches, -/
  | gathering (early cut : Bool) (error : Option RunError)
      (producer : s.producer = .gathering early cut) (consumer : s.consumer = .leaving error)
      (going : ¬ s.Over) (calls : s.calls = [])
  /-- and is to be over. -/
  | gathered (early cut : Bool) (error : Option RunError)
      (producer : s.producer = .gathering early cut) (consumer : s.consumer = .leaving error)
      (closed : s.Over) (calls : s.calls = [.gathered])
  /-- The consumer is to go. -/
  | finished (early : Bool) (error : Option RunError) (producer : s.producer = .finished early)
      (consumer : s.consumer = .leaving error) (closed : s.Over) (calls : s.calls = [.consume])
  /-- It is gone. -/
  | gone (early : Bool) (error : Option RunError) (producer : s.producer = .finished early)
      (consumer : s.consumer = .gone error) (closed : s.Over) (calls : s.calls = [])

/-- The consumer has left: every task that is not over has been cut off and has a turn, and besides
there is the turn that somebody waits for. -/
structure Unwinds (s : Stream) : Prop where
  tasks : s.turns.countP Turn.isAbort + s.done = s.tasks
  stage : s.Stage

/-- A run that its consumer has left has ended: nobody has a turn, every task is over, the producer
is over, and the consumer is gone. -/
structure Unwound (s : Stream) : Prop where
  idle : s.turns = []
  closed : s.Over
  finished : s.producer.isFinished = true
  gone : ∃ error, s.consumer = .gone error

theorem Unwinds.not_here (unwinds : s.Unwinds) : ¬ s.Here := by
  intro here
  cases unwinds.stage with
  | halted slot error producer consumer calls => exact (here error).1 consumer
  | gathering early cut error producer consumer => exact (here error).1 consumer
  | gathered early cut error producer consumer => exact (here error).1 consumer
  | finished early error producer consumer => exact (here error).1 consumer
  | gone early error producer consumer => exact (here error).2 consumer

/-- It does not matter in what order the turns come, and when. -/
theorem Unwinds.of_same (unwinds : s.Unwinds)
    (aborts : t.turns.countP Turn.isAbort = s.turns.countP Turn.isAbort)
    (calls : t.calls.Perm s.calls) (tasks : t.done = s.done ∧ t.tasks = s.tasks)
    (producer : t.producer = s.producer) (consumer : t.consumer = s.consumer) : t.Unwinds := by
  have closed : t.Over ↔ s.Over := by simp only [Over, tasks]
  refine ⟨by rw [aborts, tasks.1, tasks.2, unwinds.tasks], ?_⟩
  cases unwinds.stage with
  | halted slot error halted leaving called =>
    exact .halted slot error (producer.trans halted) (consumer.trans leaving)
      (List.perm_singleton.mp (called ▸ calls))
  | gathering early cut error gathers leaving going none =>
    exact .gathering early cut error (producer.trans gathers) (consumer.trans leaving)
      (mt closed.mp going) (List.perm_nil.mp (none ▸ calls))
  | gathered early cut error gathers leaving done called =>
    exact .gathered early cut error (producer.trans gathers) (consumer.trans leaving)
      (closed.mpr done) (List.perm_singleton.mp (called ▸ calls))
  | finished early error finished leaving done called =>
    exact .finished early error (producer.trans finished) (consumer.trans leaving)
      (closed.mpr done) (List.perm_singleton.mp (called ▸ calls))
  | gone early error finished left done none =>
    exact .gone early error (producer.trans finished) (consumer.trans left) (closed.mpr done)
      (List.perm_nil.mp (none ▸ calls))

/-! ## Turns -/

theorem perm_turns_call (s : Stream) (turn : Turn) :
    (s.call turn).turns.Perm (turn :: s.turns) := by
  simp only [turns, call, ← List.append_assoc]
  exact List.perm_append_comm.append_right _

theorem calls_call (s : Stream) {turn : Turn} (other : turn.isAbort = false)
    (none : s.calls = []) : (s.call turn).calls = [turn] := by
  have perm := (perm_turns_call s turn).filter fun turn => !turn.isAbort
  rw [List.filter_cons_of_pos (by rw [other]; rfl)] at perm
  exact List.perm_singleton.mp (perm.trans (.of_eq (congrArg (turn :: ·) none)))

theorem countP_call (s : Stream) {turn : Turn} (other : turn.isAbort = false) :
    (s.call turn).turns.countP Turn.isAbort = s.turns.countP Turn.isAbort := by
  rw [(perm_turns_call s turn).countP_eq, List.countP_cons_of_neg (by rw [other]; nofun)]

/-- When nobody has been called, whoever waits for the tasks is called if they are over. -/
theorem unwinds_notify (tasks : s.turns.countP Turn.isAbort + s.done = s.tasks)
    (none : s.calls = []) (leaving : s.consumer = .leaving error)
    (waits : (∃ early cut, s.producer = .gathering early cut) ∨
      (∃ early, s.producer = .finished early) ∧ s.Over) : s.notify.Unwinds := by
  have called {turn : Turn} (other : turn.isAbort = false) :
      (s.call turn).turns.countP Turn.isAbort + s.done = s.tasks :=
    (congrArg (· + s.done) (countP_call s other)).trans tasks
  unfold notify
  obtain ⟨early, cut, gathers⟩ | ⟨⟨early, finished⟩, closed⟩ := waits
  · simp only [gathers]
    split
    · rename_i closed
      exact ⟨called rfl, .gathered early cut error gathers leaving closed (calls_call s rfl none)⟩
    · rename_i going
      exact ⟨tasks, .gathering early cut error gathers leaving going none⟩
  · rw [if_pos (show s.done = s.tasks from closed)]
    simp only [finished, leaving]
    exact ⟨called rfl, .finished early error finished leaving closed (calls_call s rfl none)⟩

/-! ## The consumer leaves -/

/-- Every task that is not over is one of a launch that can be cut off, and the producer is over
only when all tasks are. -/
structure Ripe (s : Stream) : Prop where
  tasks : (s.turns.filterMap (Turn.abort? s.now)).length + s.done = s.tasks
  closed : s.producer.isFinished = true → s.Over

theorem Ripe.of_books (ripe : s.Ripe) (tally : Tally) (past : List Entry) (state : ConsumerState)
    (queue : List (Option Event)) : Ripe { s with tally, past, consumer := state, queue } :=
  ⟨ripe.tasks, ripe.closed⟩

theorem unwinds_leave (ripe : s.Ripe) (error : Option RunError) : (s.leave error).Unwinds := by
  have turns : (s.cutOff error).turns = s.turns.filterMap (Turn.abort? s.now) := by
    show [] ++ s.turns.filterMap (Turn.abort? s.now) ++ [] = _
    rw [List.nil_append, List.append_nil]
  have aborts : ∀ turn ∈ s.turns.filterMap (Turn.abort? s.now), turn.isAbort = true := by
    intro turn mem
    obtain ⟨before, -, cut⟩ := List.mem_filterMap.mp mem
    cases before with
    | start | relay => cases cut; rfl
    | _ => exact nomatch cut
  have none : (s.cutOff error).calls = [] := by
    rw [calls, turns, List.filter_eq_nil_iff]
    intro turn mem
    rw [aborts turn mem]
    nofun
  have tasks : (s.cutOff error).turns.countP Turn.isAbort + s.done = s.tasks := by
    rw [turns, List.countP_eq_length.mpr aborts]
    exact ripe.tasks
  have halts (slot : Bool) (cut : s.producer.cut = .halted slot) :
      ((s.cutOff error).call .produce).Unwinds := by
    refine ⟨(congrArg (· + s.done) (countP_call _ rfl)).trans tasks, ?_⟩
    exact .halted slot error cut rfl (calls_call _ rfl none)
  have producer : (s.cutOff error).producer = s.producer.cut := rfl
  unfold leave
  dsimp only
  rw [producer]
  cases state : s.producer with
  | gathering early cut =>
    refine unwinds_notify tasks none rfl (.inl ⟨early, true, ?_⟩)
    rw [producer, state]
    rfl
  | finished early =>
    refine unwinds_notify tasks none rfl (.inr ⟨⟨early, ?_⟩, ripe.closed (by rw [state]; rfl)⟩)
    rw [producer, state]
    rfl
  | granted b => exact halts true (by rw [state]; rfl)
  | _ => exact halts false (by rw [state]; rfl)

theorem here_or_unwinds_handle (consumer : Consumer) (ripe : s.Ripe) (e : Event) :
    (∃ tally past, handle consumer s e = { s with tally, past, consumer := .idle }) ∨
      (handle consumer s e).Unwinds ∧ (handle consumer s e).consumer ≠ .idle := by
  obtain ⟨tally, past, heard⟩ := hear_same consumer { s with consumer := .idle } e
  unfold handle
  dsimp only
  rw [heard]
  split
  · rename_i error _
    have unwinds := unwinds_leave (ripe.of_books tally past .idle s.queue) error
    refine .inr ⟨unwinds, fun idle => unwinds.not_here ?_⟩
    exact here_of_state idle fun _ => ⟨nofun, nofun⟩
  · exact .inl ⟨tally, past, rfl⟩

theorem here_or_unwinds_deliver (items : List (Option Event)) (s : Stream) (here : s.Here)
    (ripe : s.Ripe) :
    (deliver consumer items s).Here ∨ (deliver consumer items s).Unwinds := by
  fun_induction deliver consumer items s with
  | case1 s => exact .inl here
  | case2 rest s idle => exact .inl fun _ => ⟨by rintro ⟨⟩, by rintro ⟨⟩⟩
  | case3 rest s e idle prompt ih =>
    obtain ⟨tally, past, handled⟩ | ⟨unwinds, busy⟩ :=
      here_or_unwinds_handle consumer ripe e
    · rw [handled] at ih ⊢
      exact ih (fun _ => ⟨by rintro ⟨⟩, by rintro ⟨⟩⟩) (ripe.of_books tally past .idle s.queue)
    · rw [deliver_of_busy busy]
      exact .inr (unwinds.of_same rfl (.refl _) ⟨rfl, rfl⟩ rfl rfl)
  | case4 rest s e idle pauses => exact .inl fun _ => ⟨by rintro ⟨⟩, by rintro ⟨⟩⟩
  | case5 item rest s busy => exact .inl here

/-- **In its turn the consumer goes on or leaves.** -/
theorem here_or_unwinds_consume (here : s.Here) (ripe : s.Ripe) :
    (consume consumer s).Here ∨ (consume consumer s).Unwinds := by
  unfold consume
  split
  · rename_i e _
    obtain ⟨tally, past, handled⟩ | ⟨unwinds, busy⟩ :=
      here_or_unwinds_handle consumer ripe e
    · rw [handled]
      exact here_or_unwinds_deliver _ _ (fun _ => ⟨nofun, nofun⟩)
        (ripe.of_books tally past .idle s.queue)
    · simp only [deliver_of_busy busy]
      exact .inr unwinds
  · exact here_or_unwinds_deliver _ _ (fun _ => ⟨nofun, nofun⟩)
      (ripe.of_books s.tally s.past .idle s.queue)
  · rename_i error leaving
    exact absurd leaving (here error).1
  · exact here_or_unwinds_deliver _ _ here ripe

/-! ## What comes next -/

namespace Unwinds

/-- When it is the turn of a launch that has been cut off, its task is not over. -/
theorem abort {b : Batch} {time : Nat} {rest : List Turn} (unwinds : s.Unwinds)
    (ready : s.ready = .abort b time :: rest) :
    (turns { s with ready := rest }).countP Turn.isAbort + (s.done + 1) = s.tasks ∧
      calls { s with ready := rest } = s.calls ∧ ¬ s.Over := by
  have split : s.turns = .abort b time :: turns { s with ready := rest } := by
    simp only [turns, ready, List.cons_append]
  have tasks := unwinds.tasks
  rw [split, List.countP_cons_of_pos rfl] at tasks
  refine ⟨by omega, ?_, fun closed => ?_⟩
  · rw [calls, calls, split, List.filter_cons_of_neg (by simp [Turn.isAbort])]
  · unfold Over at closed
    omega

/-- Whose turn it is otherwise has been called, and nobody else has. -/
theorem call {turn : Turn} {rest : List Turn} (unwinds : s.Unwinds) (ready : s.ready = turn :: rest)
    (other : turn.isAbort = false) :
    (turns { s with ready := rest }).countP Turn.isAbort + s.done = s.tasks ∧
      s.calls = turn :: calls { s with ready := rest } := by
  have split : s.turns = turn :: turns { s with ready := rest } := by
    simp only [turns, ready, List.cons_append]
  have tasks := unwinds.tasks
  rw [split, List.countP_cons_of_neg (by simp [other])] at tasks
  refine ⟨tasks, ?_⟩
  rw [calls, calls, split, List.filter_cons_of_pos (by rw [other]; rfl)]

/-- A launch that has been cut off has wound up. -/
theorem conclude {b : Batch} {rest : List Turn} (unwinds : s.Unwinds)
    (ready : s.ready = .abort b 0 :: rest) :
    (Stream.conclude { s with ready := rest }).Unwinds := by
  obtain ⟨tasks, same, going⟩ := unwinds.abort ready
  have tasks : (turns { s with ready := rest, done := s.done + 1 }).countP Turn.isAbort +
      (s.done + 1) = s.tasks := tasks
  have same : calls { s with ready := rest, done := s.done + 1 } = s.calls := same
  cases unwinds.stage with
  | halted slot error producer consumer called =>
    have still : Stream.conclude { s with ready := rest } =
        { s with ready := rest, done := s.done + 1 } := by
      unfold Stream.conclude notify
      simp only [producer, ite_self]
    rw [still]
    exact ⟨tasks, .halted slot error producer consumer (same.trans called)⟩
  | gathering early cut error producer consumer _ none =>
    exact unwinds_notify tasks (same.trans none) consumer (.inl ⟨early, cut, producer⟩)
  | gathered early cut error producer consumer closed => exact absurd closed going
  | finished early error producer consumer closed => exact absurd closed going
  | gone early error producer consumer closed => exact absurd closed going

/-- The producer, which knows that all tasks are over, is over. -/
theorem signOff (tasks : s.turns.countP Turn.isAbort + s.done = s.tasks) (none : s.calls = [])
    (leaving : s.consumer = .leaving error) (closed : s.Over) (early cut : Bool) :
    (s.signOff early cut).Unwinds := by
  have put : s.put Option.none = { s with queue := s.queue ++ [Option.none] } := by
    unfold Stream.put
    simp only [leaving]
  unfold Stream.signOff
  rw [put]
  split <;> exact unwinds_notify tasks none leaving (.inr ⟨⟨early, rfl⟩, closed⟩)

/-- The producer goes on: it gives back its slot and waits for the launches. -/
theorem produce {rest : List Turn} (unwinds : s.Unwinds) (ready : s.ready = .produce :: rest) :
    (Stream.produce detour { s with ready := rest }).Unwinds := by
  obtain ⟨tasks, called⟩ := unwinds.call ready rfl
  cases unwinds.stage with
  | halted slot error producer consumer calls =>
    have none : Stream.calls { s with ready := rest } = [] :=
      (List.cons.inj (called.symm.trans calls)).2
    obtain ⟨q, hq⟩ : ∃ q : Stream, q = { s with
      ready := rest, tally := if slot then s.tally.giveBack else s.tally
      producer := .gathering false false } := ⟨_, rfl⟩
    have tasks : q.turns.countP Turn.isAbort + q.done = q.tasks := by
      rw [hq]
      exact tasks
    have none : q.calls = [] := by
      rw [hq]
      exact none
    have leaving : q.consumer = .leaving error := by
      rw [hq]
      exact consumer
    have taken : Stream.produce detour { s with ready := rest } =
        if q.tasks = 0 then q.signOff false false else q.notify := by
      rw [produce_of_halted (s := { s with ready := rest }) producer, hq]
      rfl
    rw [taken]
    split
    · rename_i idle
      exact signOff tasks none leaving (by unfold Over; omega) false false
    · exact unwinds_notify tasks none leaving (.inl ⟨false, false, by rw [hq]⟩)
  | gathering early cut error producer consumer going calls =>
    exact nomatch calls.symm.trans called
  | gathered early cut error producer consumer closed calls =>
    exact nomatch calls.symm.trans called
  | finished early error producer consumer closed calls => exact nomatch calls.symm.trans called
  | gone early error producer consumer closed calls => exact nomatch calls.symm.trans called

/-- The producer goes on when all tasks are over. -/
theorem gather {rest : List Turn} (unwinds : s.Unwinds) (ready : s.ready = .gathered :: rest) :
    (Stream.gather { s with ready := rest }).Unwinds := by
  obtain ⟨tasks, called⟩ := unwinds.call ready rfl
  cases unwinds.stage with
  | gathered early cut error producer consumer closed calls =>
    unfold Stream.gather
    split
    · exact signOff tasks (List.cons.inj (called.symm.trans calls)).2 consumer closed _ _
    · rename_i other
      exact absurd producer (other early cut)
  | halted slot error producer consumer calls => exact nomatch calls.symm.trans called
  | gathering early cut error producer consumer going calls =>
    exact nomatch calls.symm.trans called
  | finished early error producer consumer closed calls => exact nomatch calls.symm.trans called
  | gone early error producer consumer closed calls => exact nomatch calls.symm.trans called

/-- The consumer goes when the producer is over. -/
theorem consume {rest : List Turn} (unwinds : s.Unwinds) (ready : s.ready = .consume :: rest) :
    (Stream.consume consumer { s with ready := rest }).Unwinds := by
  obtain ⟨tasks, called⟩ := unwinds.call ready rfl
  cases unwinds.stage with
  | finished early error producer left closed calls =>
    unfold Stream.consume
    simp only [left]
    rw [deliver_of_busy (s := { s with ready := rest, consumer := .gone error }) nofun]
    exact ⟨tasks, .gone early error producer rfl closed (List.cons.inj (called.symm.trans calls)).2⟩
  | halted slot error producer consumer calls => exact nomatch calls.symm.trans called
  | gathering early cut error producer consumer going calls =>
    exact nomatch calls.symm.trans called
  | gathered early cut error producer consumer closed calls =>
    exact nomatch calls.symm.trans called
  | gone early error producer consumer closed calls => exact nomatch calls.symm.trans called

theorem round (unwinds : s.Unwinds) (ready : s.ready = []) (now : Nat) : (s.round now).Unwinds := by
  have turns := turns_round now ready
  exact unwinds.of_same (congrArg (List.countP _) turns) (.of_eq (congrArg (List.filter _) turns))
    ⟨rfl, rfl⟩ rfl rfl

/-- Nobody else has been called. -/
theorem isWinding {turn : Turn} {rest : List Turn} (unwinds : s.Unwinds)
    (ready : s.ready = turn :: rest) : turn.isWinding = true := by
  cases abort : turn.isAbort with
  | true =>
    cases turn with
    | abort b time => rfl
    | _ => exact nomatch abort
  | false =>
    obtain ⟨-, called⟩ := unwinds.call ready abort
    cases unwinds.stage with
    | halted slot error producer consumer calls =>
      rw [← (List.cons.inj (calls.symm.trans called)).1]
      rfl
    | gathering early cut error producer consumer going calls =>
      exact nomatch calls.symm.trans called
    | gathered early cut error producer consumer closed calls =>
      rw [← (List.cons.inj (calls.symm.trans called)).1]
      rfl
    | finished early error producer consumer closed calls =>
      rw [← (List.cons.inj (calls.symm.trans called)).1]
      rfl
    | gone early error producer consumer closed calls => exact nomatch calls.symm.trans called

/-- **From the moment in which the consumer leaves, nothing else is left to do.** -/
theorem of_next? (unwinds : s.Unwinds) (next : next? consumer launch detour s = some t) :
    t.Unwinds := by
  unfold next? at next
  split at next
  · contradiction
  · split at next
    · rename_i turn rest ready
      cases next
      have winding := unwinds.isWinding ready
      cases turn with
      | abort b time =>
        cases time with
        | zero => exact unwinds.conclude ready
        | succ time =>
          obtain ⟨tasks, same, -⟩ := unwinds.abort ready
          have perm := turns_callAfter { s with ready := rest } (time + 1) (.abort b 0)
          refine unwinds.of_same ?_ ?_ ⟨rfl, rfl⟩ rfl rfl
          · have before := unwinds.tasks
            show (callAfter { s with ready := rest } (time + 1) (.abort b 0)).turns.countP _ = _
            rw [perm.countP_eq, List.countP_cons_of_pos rfl]
            omega
          · rw [← same]
            exact (perm.filter _).trans (.of_eq (List.filter_cons_of_neg (by simp [Turn.isAbort])))
      | produce => exact unwinds.produce ready
      | gathered => exact unwinds.gather ready
      | consume => exact unwinds.consume ready
      | _ => exact absurd winding Bool.false_ne_true
    · contradiction
    all_goals
      rename_i ready _ _
      cases next
      exact unwinds.round ready _

/-- **When nothing is left to do, the run has ended.** -/
theorem ends (unwinds : s.Unwinds) (halted : next? consumer launch detour s = none) :
    s.Unwound := by
  have tasks := unwinds.tasks
  have rest (idle : s.turns = []) : s.Over ∧ s.calls = [] := by
    rw [calls, idle]
    rw [idle, List.countP_nil, Nat.zero_add] at tasks
    exact ⟨tasks, rfl⟩
  unfold next? at halted
  split at halted
  · rename_i ended
    cases unwinds.stage with
    | gone early error producer left closed none =>
      refine ⟨List.eq_nil_iff_forall_not_mem.mpr fun turn mem => ?_, closed, by rw [producer]; rfl,
        ⟨error, left⟩⟩
      have idle : s.turns.countP Turn.isAbort = 0 := by
        unfold Over at closed
        omega
      have other := List.countP_eq_zero.mp idle turn mem
      have calm := List.filter_eq_nil_iff.mp none turn mem
      exact calm (by rw [Bool.not_eq_true] at other; rw [other]; rfl)
    | halted slot error producer leaving => simp [isOver, leaving] at ended
    | gathering early cut error producer leaving => simp [isOver, leaving] at ended
    | gathered early cut error producer leaving => simp [isOver, leaving] at ended
    | finished early error producer leaving => simp [isOver, leaving] at ended
  · split at halted
    · contradiction
    · rename_i going _ _ _ ready upcoming timers
      have idle : s.turns = [] := by simp [Stream.turns, ready, upcoming, timers]
      obtain ⟨closed, calls⟩ := rest idle
      cases unwinds.stage with
      | gone early error producer left => simp [isOver, left] at going
      | gathering early cut error producer leaving busy => exact absurd closed busy
      | halted slot error producer leaving called => cases calls.symm.trans called
      | gathered early cut error producer leaving _ called => cases calls.symm.trans called
      | finished early error producer leaving _ called => cases calls.symm.trans called
    · contradiction
    · contradiction

end Unwinds

/-- **Whatever comes next, the consumer is there or it has left.** -/
theorem here_or_unwinds_of_next? (attended : s.Attended) (ripe : s.Ripe)
    (next : next? consumer launch detour s = some t) : t.Here ∨ t.Unwinds := by
  unfold next? at next
  split at next
  · contradiction
  · split at next
    · rename_i turn rest ready
      cases next
      by_cases own : turn = .consume
      · have later : Ripe { s with ready := rest } := by
          refine ⟨Eq.trans ?_ ripe.tasks, ripe.closed⟩
          have split : s.turns = turn :: turns { s with ready := rest } := by
            simp only [turns, ready, List.cons_append]
          rw [split, own]
          rfl
        rw [own]
        exact here_or_unwinds_consume attended.here later
      · exact .inl (attended.act_of_ne detour ready own).here
    · contradiction
    · cases next
      exact .inl attended.here
    · cases next
      exact .inl attended.here

/-! ## Whole runs -/

variable {rules : Rules} {all : List Batch}

/-- In a steady state each task that is not over is one of a launch that can be cut off. -/
theorem ripe_of_steady (steady : s.Steady rules) (sound : s.roster.Sound rules all)
    (closes : s.Sealed) : s.Ripe := by
  refine ⟨?_, closes.closed⟩
  have split (turns : List Turn) : (turns.filterMap (Turn.abort? s.now)).length =
      (turns.filterMap Turn.start?).length + (turns.filterMap Turn.flight?).length := by
    induction turns with
    | nil => rfl
    | cons turn turns ih =>
      cases turn <;>
        simp only [List.filterMap_cons, Turn.abort?, Turn.start?, Turn.flight?, List.length_cons,
          ih] <;> omega
  have timers : (s.timers.map TurnTimer.turn).filterMap Turn.start? = [] := by
    rw [List.filterMap_map]
    exact List.filterMap_eq_nil_iff.mpr steady.late
  have waiting : s.turns.filterMap Turn.start? = s.roster.waiting := by
    rw [turns, List.filterMap_append, timers, List.append_nil]
    rfl
  have running : (s.turns.filterMap Turn.flight?).length = s.roster.running.card := rfl
  have active := sound.active
  change (s.tally.active : Int) = _ at active
  have tasks := steady.tasks
  rw [split, waiting, running]
  omega

/-- A consumer that is not there has left, and nothing but that is left to do. -/
theorem here_or_unwinds_of_passes {feed : Feed} {interruption : Interruption} {cancellable : Bool}
    (allow : rules.Allow consumer.listener) (may : interruption = {} ∨ rules.cancels)
    (passes : Passes consumer rules.launch detour feed
      (initial rules.tally cancellable interruption) t) : t.Here ∨ t.Unwinds := by
  unfold Passes at passes
  induction passes with
  | refl => exact .inl attended_initial.here
  | @tail s t passed next ih =>
    rcases ih with here | unwinds
    · obtain ⟨steady, sound, attended, closes⟩ := present_of_here allow may passed here
      exact here_or_unwinds_of_next? attended (ripe_of_steady steady sound closes) next
    · exact .inr (unwinds.of_next? next)

/-- **When a run is over and the consumer is not there, all others have ended as well.** -/
theorem unwound_of_over {feed : Feed} {interruption : Interruption} {cancellable : Bool}
    (allow : rules.Allow consumer.listener) (may : interruption = {} ∨ rules.cancels)
    (passes : Passes consumer rules.launch detour feed
      (initial rules.tally cancellable interruption) t)
    (halted : next? consumer rules.launch detour t = none) (away : ¬ t.Here) : t.Unwound :=
  ((here_or_unwinds_of_passes allow may passes).resolve_left away).ends halted

end Stream

end BatchExec
