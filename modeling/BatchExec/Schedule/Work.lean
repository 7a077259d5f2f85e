import BatchExec.Schedule.Stream

/-!
# Event-driven runs end

Every turn leaves less work than there was, so a run that goes on for as many steps as it has work
is over.

* `Stream.work_lt_of_next?`: every step lessens the work.
* `Stream.next?_settle`: after as many steps as there is work no step is left.
-/

namespace BatchExec.Stream

/-! ## Calls -/

theorem workOf_append (more : Nat) (xs ys : List Turn) :
    workOf more (xs ++ ys) = workOf more xs + workOf more ys := by
  induction xs with
  | nil => simp [workOf]
  | cons x xs ih => simp [workOf, ih]; omega

theorem workOf_insert (t : TurnTimer) (timers : List TurnTimer) :
    workOf 1 ((TurnTimer.insert t timers).map TurnTimer.turn) =
      t.turn.work + 1 + workOf 1 (timers.map TurnTimer.turn) := by
  induction timers with
  | nil => simp [TurnTimer.insert, workOf]
  | cons next rest ih =>
    rw [TurnTimer.insert]
    split
    · simp only [List.map_cons, workOf, ih]; omega
    · simp [workOf]

theorem workOf_one (turns : List Turn) : workOf 1 turns = workOf 0 turns + turns.length := by
  induction turns with
  | nil => rfl
  | cons turn turns ih => simp [workOf, ih]; omega

@[simp] theorem work_note (s : Stream) (happenings : List Happening) :
    (s.note happenings).work = s.work := rfl

@[simp] theorem work_call (s : Stream) (turn : Turn) :
    (s.call turn).work = s.work + turn.work + 1 := by
  simp only [call, work, workOf_append, workOf]; omega

@[simp] theorem work_callAfter (s : Stream) (time : Nat) (turn : Turn) :
    (s.callAfter time turn).work = s.work + turn.work + 1 := by
  simp only [callAfter, work, workOf_insert]; omega

@[simp] theorem work_cancel (s : Stream) : s.cancel.work = s.work := by
  unfold cancel; split <;> rfl

@[simp] theorem queue_note (s : Stream) (happenings : List Happening) :
    (s.note happenings).queue = s.queue := rfl

@[simp] theorem queue_cancel (s : Stream) : s.cancel.queue = s.queue := by
  unfold cancel; split <;> rfl

/-- Whoever waits for the last task is called at most once. -/
theorem work_notify_le (s : Stream) : s.notify.work ≤ s.work + 10 := by
  unfold notify
  split
  · split
    · simp only [work_call, Turn.work]; omega
    · simp only [work_call, Turn.work]; omega
    · omega
  · omega

/-! ## The consumer -/

/-- A launch that is cut off has less left to do than before. -/
theorem work_abort?_le {now : Nat} {turn turn' : Turn} (cut : turn.abort? now = some turn') :
    turn'.work + 1 ≤ turn.work := by
  have aborts (b : Batch) (time : Nat) : (Turn.abort b time).work ≤ 13 := by
    cases time <;> simp [Turn.work]
  cases turn with
  | start b =>
    cases cut
    have := aborts b 0
    simp only [Turn.work] at this ⊢; omega
  | relay b plan turns =>
    cases cut
    have := aborts b (plan.unwinds now)
    simp only [Turn.work] at this ⊢; omega
  | _ => exact nomatch cut

theorem workOf_abort?_le (now : Nat) (turns : List Turn) :
    workOf 1 (turns.filterMap (Turn.abort? now)) ≤ workOf 0 turns := by
  induction turns with
  | nil => simp [workOf]
  | cons turn turns ih =>
    cases cut : turn.abort? now with
    | none =>
      simp only [List.filterMap_cons, cut, workOf]; omega
    | some turn' =>
      have := work_abort?_le cut
      simp only [List.filterMap_cons, cut, workOf]; omega

theorem work_turns_le (s : Stream) :
    workOf 0 s.turns + 4 * s.queue.length + 42 * s.feed.length + s.producer.work +
      s.consumer.work ≤ s.work := by
  have upcoming := workOf_one s.upcoming
  have timers := workOf_one (s.timers.map TurnTimer.turn)
  simp only [turns, workOf_append, work]; omega

theorem work_cut_le (p : ProducerState) : p.cut.work ≤ p.work := by
  cases p <;> simp [ProducerState.cut, ProducerState.work]

theorem work_cutOff_le (s : Stream) (error : Option RunError) (here : s.consumer.work = 16) :
    (s.cutOff error).work + 16 ≤ s.work := by
  have before := work_turns_le s
  have cut := workOf_abort?_le s.now s.turns
  have idle := work_cut_le s.producer
  have same : (s.cutOff error).work = workOf 1 (s.turns.filterMap (Turn.abort? s.now)) +
      4 * s.queue.length + 42 * s.feed.length + s.producer.cut.work := by
    simp [cutOff, work, note, workOf, turns, ConsumerState.work]
  omega

/-- A consumer that is there leaves behind no more work than there was. -/
theorem work_leave_le (s : Stream) (error : Option RunError) (here : s.consumer.work = 16) :
    (s.leave error).work ≤ s.work := by
  have cut := work_cutOff_le s error here
  unfold leave
  dsimp only
  split
  · simp only [work_call, Turn.work]; omega
  · have := work_notify_le (s.cutOff error)
    omega

@[simp] theorem work_hear (consumer : Consumer) (s : Stream) (e : Event) :
    (hear consumer s e).work = s.work := by
  unfold hear; split <;> split <;> simp

@[simp] theorem queue_hear (consumer : Consumer) (s : Stream) (e : Event) :
    (hear consumer s e).queue = s.queue := by
  unfold hear; split <;> split <;> simp

theorem consumer_cancel (s : Stream) : s.cancel.consumer = s.consumer := by
  unfold cancel; split <;> rfl

@[simp] theorem consumer_hear (consumer : Consumer) (s : Stream) (e : Event) :
    (hear consumer s e).consumer = s.consumer := by
  unfold hear; split <;> split <;> simp [consumer_cancel, note]

@[simp] theorem queue_notify (s : Stream) : s.notify.queue = s.queue := by
  unfold notify
  split
  · split <;> rfl
  · rfl

@[simp] theorem queue_leave (s : Stream) (error : Option RunError) :
    (s.leave error).queue = s.queue := by
  unfold leave
  dsimp only
  split
  · rfl
  · rw [queue_notify]; rfl

theorem work_handle_le (consumer : Consumer) (s : Stream) (e : Event)
    (here : s.consumer.work = 16) : (handle consumer s e).work ≤ s.work := by
  have heard : (hear consumer { s with consumer := .idle } e).work = s.work := by
    rw [work_hear, work, work, here]
    rfl
  unfold handle
  split
  · exact heard ▸ work_leave_le _ _ (by rw [consumer_hear]; rfl)
  · exact Nat.le_of_eq heard

theorem queue_handle (consumer : Consumer) (s : Stream) (e : Event) :
    (handle consumer s e).queue = s.queue := by
  unfold handle
  split
  · rw [queue_leave, queue_hear]
  · rw [queue_hear]

theorem work_queue (s : Stream) (items : List (Option Event)) :
    { s with queue := items }.work + 4 * s.queue.length = s.work + 4 * items.length := by
  simp only [work]; omega

theorem work_deliver_le (consumer : Consumer) (items : List (Option Event)) (s : Stream) :
    (deliver consumer items s).work ≤ { s with queue := items }.work := by
  fun_induction deliver consumer items s with
  | case1 s => exact Nat.le_refl _
  | case2 rest s idle =>
    simp only [work, idle, ConsumerState.work, List.length_cons]; omega
  | case3 rest s e idle pause ih =>
    have handled := work_handle_le consumer s e (by rw [idle]; rfl)
    have before := work_queue s (some e :: rest)
    have after := work_queue (handle consumer s e) rest
    rw [queue_handle] at after
    simp only [List.length_cons] at before
    omega
  | case4 rest s e idle pause =>
    rw [work_callAfter]
    simp only [work, idle, Turn.work, ConsumerState.work, List.length_cons]; omega
  | case5 item rest s busy => exact Nat.le_refl _

theorem work_consume_le (consumer : Consumer) (s : Stream) :
    (consume consumer s).work ≤ s.work := by
  unfold consume
  split
  · rename_i e busy
    exact Nat.le_trans (work_deliver_le ..) (work_handle_le _ _ _ (by rw [busy]; rfl))
  · rename_i called
    refine Nat.le_trans (work_deliver_le ..) ?_
    simp only [work, called, ConsumerState.work]; omega
  · rename_i error leaving
    refine Nat.le_trans (work_deliver_le ..) ?_
    simp only [work, leaving, ConsumerState.work]; omega
  · exact work_deliver_le ..

theorem work_put_le (s : Stream) (item : Option Event) : (s.put item).work ≤ s.work + 6 := by
  unfold put
  split
  · rename_i idle
    simp only [work_call]
    simp only [work, idle, Turn.work, ConsumerState.work, List.length_append,
      List.length_singleton]; omega
  · simp only [work, List.length_append, List.length_singleton]; omega

/-! ## Launches -/

theorem work_grant_le (s : Stream) : s.grant.work ≤ s.work + 2 := by
  unfold grant
  split
  · rename_i b tally waits free
    rw [work_call]
    simp only [work, Turn.work, ProducerState.work, waits]; omega
  · omega

theorem work_book_le (s : Stream) (outcome : Tally × List Happening × Option Event) :
    (s.book outcome).work ≤ s.work + 8 := by
  have granted := work_grant_le (note { s with tally := outcome.1 } outcome.2.1)
  have same : (note { s with tally := outcome.1 } outcome.2.1).work = s.work := rfl
  simp only [book]
  split
  · rename_i e _
    have := work_put_le (note { s with tally := outcome.1 } outcome.2.1).grant (some e)
    omega
  · omega

theorem work_conclude_le (s : Stream) : s.conclude.work ≤ s.work + 10 :=
  work_notify_le { s with done := s.done + 1 }

theorem work_finish_le (s : Stream) (b : Batch) (plan : Plan) :
    (s.finish b plan).work ≤ s.work + 18 := by
  unfold finish
  refine Nat.le_trans (work_conclude_le _) ?_
  refine Nat.le_trans (Nat.add_le_add_right (work_book_le _ _) 10) ?_
  split <;> simp

theorem work_start_le (launch : Launcher) (s : Stream) (b : Batch) :
    (start launch s b).work ≤ s.work + 26 := by
  simp only [start]
  split
  · refine Nat.le_trans (work_finish_le _ _ _) ?_
    simp only [work_note]; simp only [work]; omega
  · split
    · simp only [work_call, work_note, Turn.work]; simp only [work]; omega
    · rename_i duration _ _
      simp only [work_callAfter, work_note, Turn.work]
      have turns (w : WaitKind) : w.turns ≤ 3 := by cases w <;> decide
      have := turns (launch s.launched s.now b).waitsFor
      simp only [work]; omega

/-! ## The producer -/

theorem work_retire_le (s : Stream) (early : Bool) :
    (s.retire early).work + s.producer.work ≤ s.work + 2 := by
  simp only [retire, notify]
  split
  · split
    · contradiction
    · simp only [work_call, Turn.work]
      simp only [work, ProducerState.work]; omega
    · simp only [work, ProducerState.work]; omega
  · simp only [work, ProducerState.work]; omega

theorem producer_put (s : Stream) (item : Option Event) : (s.put item).producer = s.producer := by
  unfold put
  split <;> rfl

theorem work_signOff_le (s : Stream) (early cut : Bool) :
    (s.signOff early cut).work + s.producer.work ≤ s.work + 8 := by
  unfold signOff
  split
  · have := work_retire_le s early
    omega
  · have := work_retire_le (s.put none) early
    have := work_put_le s none
    rw [producer_put] at *
    omega

theorem work_close_le (s : Stream) (early : Bool) :
    (s.close early).work + s.producer.work ≤ s.work + 10 := by
  have gathering :
      { s with producer := .gathering early false }.work + s.producer.work = s.work := by
    simp only [work, ProducerState.work]; omega
  unfold close
  dsimp only
  split
  · have := work_signOff_le { s with producer := .gathering early false } early false
    omega
  · have := work_notify_le { s with producer := .gathering early false }
    omega

theorem work_refuse_le (s : Stream) (b : Batch) :
    (s.refuse b).work + s.producer.work ≤ s.work + 10 := work_close_le (s.note [.refused b]) true

theorem work_admitBatch (s : Stream) (b : Batch) :
    (s.admitBatch b).work + s.producer.work = s.work + 42 := by
  simp only [admitBatch, work_call, work_note]
  simp only [work, Turn.work, ProducerState.work]; omega

theorem work_receive_le (s : Stream) (b : Batch) :
    (s.receive b).work + s.producer.work ≤ s.work + 42 := by
  simp only [receive]
  split
  · have := work_refuse_le (s.note [.received b]) b
    simp only [work, note] at this ⊢
    omega
  · split
    · rename_i tally _
      have := work_admitBatch { s.note [.received b] with tally } b
      simp only [work, note] at this ⊢
      omega
    · simp only [work, note, ProducerState.work]; omega

theorem feed_notify (s : Stream) : s.notify.feed = s.feed := by
  unfold notify
  split
  · split <;> rfl
  · rfl

theorem feed_close (s : Stream) (early : Bool) : (s.close early).feed = s.feed := by
  have put (s : Stream) : (s.put none).feed = s.feed := by
    unfold Stream.put
    split <;> rfl
  unfold close
  dsimp only
  split
  · simp only [signOff, retire, feed_notify, put, if_false, Bool.false_eq_true]
  · exact feed_notify _

theorem feed_receive (s : Stream) (b : Batch) : (s.receive b).feed = s.feed := by
  simp only [receive]
  split
  · exact feed_close _ _
  · split <;> rfl

theorem work_pull_le (detour : Bool) (items : List FeedItem) (s : Stream) :
    (pull detour items s).work + s.producer.work + 42 * s.feed.length ≤
      s.work + 14 + 42 * items.length := by
  fun_induction pull detour items s with
  | case1 s noted =>
    simp only [work_call]
    simp only [work, noted, note, Turn.work, ProducerState.work, List.length_nil]; omega
  | case2 s noted =>
    have closed := work_close_le { noted with feed := [] } false
    simp only [work, noted, note, List.length_nil] at closed ⊢; omega
  | case3 s item rest noted asked delayed =>
    simp only [work_callAfter]
    simp only [asked, work, noted, note, Turn.work, ProducerState.work, List.length_cons]; omega
  | case4 s item rest noted asked =>
    simp only [work_call]
    simp only [asked, work, noted, note, Turn.work, ProducerState.work, List.length_cons]; omega
  | case5 item rest s noted prompt direct received again ih =>
    have got := work_receive_le { noted with feed := rest } item.batch
    have left : received.feed = rest := feed_receive _ _
    rw [left, again] at ih
    simp only [received, work, noted, note, ProducerState.work, List.length_cons] at got ih ⊢
    omega
  | case6 item rest s noted prompt direct received stays =>
    have got := work_receive_le { noted with feed := rest } item.batch
    simp only [received, work, noted, note, ProducerState.work, List.length_cons] at got ⊢
    omega

theorem work_take_le (s : Stream) : s.take.work ≤ s.work := by
  unfold take
  split
  · rename_i waits _
    have closed := work_close_le s false
    simp only [waits, ProducerState.work] at closed
    omega
  · rename_i item rest waits left
    have got := work_receive_le { s with feed := rest } item.batch
    simp only [work, waits, left, ProducerState.work, List.length_cons] at got ⊢
    omega
  · rename_i b waits
    split
    · have turned := work_refuse_le { s with tally := s.tally.giveBack } b
      simp only [work, waits, ProducerState.work] at turned ⊢
      omega
    · have got := work_admitBatch s b
      rw [waits] at got
      simp only [ProducerState.work] at got
      omega
  · rename_i slot halted
    have closed := work_close_le
      { s with tally := if slot then s.tally.giveBack else s.tally } false
    simp only [work, halted, ProducerState.work] at closed ⊢
    omega
  · exact Nat.le_refl _

theorem work_produce_le (detour : Bool) (s : Stream) : (s.produce detour).work ≤ s.work := by
  have taken := work_take_le s
  simp only [produce]
  split
  · rename_i again
    have pulled := work_pull_le detour s.take.feed s.take
    rw [again] at pulled
    simp only [ProducerState.work] at pulled
    omega
  · exact taken

theorem work_gather_le (s : Stream) : s.gather.work ≤ s.work + 8 := by
  unfold gather
  split
  · rename_i early cut _
    have := work_signOff_le s early cut
    omega
  · omega

/-! ## Turns -/

theorem work_act_lt (consumer : Consumer) (launch : Launcher) (detour : Bool) (s : Stream)
    (turn : Turn) : (act consumer launch detour s turn).work < s.work + turn.work := by
  fun_cases act consumer launch detour s turn with
  | case1 => simp [Turn.work]
  | case2 => simp [Turn.work]
  | case3 => have := work_produce_le detour s; simp only [Turn.work]; omega
  | case4 b => have := work_start_le launch s b; simp only [Turn.work]; omega
  | case5 b plan => have := work_finish_le s b plan; simp only [Turn.work]; omega
  | case6 b plan turns => simp only [work_call, Turn.work]; omega
  | case7 b => have := work_conclude_le s; simp only [Turn.work]; omega
  | case8 b time => simp only [work_callAfter, Turn.work]; omega
  | case9 => have := work_gather_le s; simp only [Turn.work]; omega
  | case10 => simp [Turn.work]
  | case11 => have := work_consume_le consumer s; simp only [Turn.work]; omega

theorem work_round (s : Stream) (now : Nat) (rested : s.ready = []) :
    (s.round now).work + s.upcoming.length + (s.timers.takeWhile (·.time ≤ now)).length =
      s.work := by
  have due : s.timers.map TurnTimer.turn = (s.timers.takeWhile (·.time ≤ now)).map TurnTimer.turn ++
      (s.timers.dropWhile (·.time ≤ now)).map TurnTimer.turn := by
    rw [← List.map_append, List.takeWhile_append_dropWhile]
  simp only [round, work, rested, due, workOf_append, workOf_one, workOf, List.length_map,
    List.length_nil]
  omega

/-- **Every step lessens the work.** -/
theorem work_lt_of_next? {consumer : Consumer} {launch : Launcher} {detour : Bool} {s t : Stream}
    (step : next? consumer launch detour s = some t) : t.work < s.work := by
  unfold next? at step
  split at step
  · contradiction
  · split at step
    · rename_i turn rest ready
      cases step
      have acted := work_act_lt consumer launch detour { s with ready := rest } turn
      simp only [work, ready, workOf] at acted ⊢
      omega
    · contradiction
    · rename_i timer timers ready _ waiting
      cases step
      have made := work_round s (max s.now timer.time) ready
      have due : timer.time ≤ max s.now timer.time := Nat.le_max_right _ _
      simp only [waiting, List.takeWhile_cons, decide_eq_true due, ↓reduceIte,
        List.length_cons] at made
      omega
    · rename_i ready idle late
      cases step
      have made := work_round s s.now ready
      cases upcoming : s.upcoming with
      | nil =>
        cases waiting : s.timers with
        | nil => exact (idle upcoming waiting).elim
        | cons timer timers => exact (late _ _ upcoming waiting).elim
      | cons turn turns =>
        rw [upcoming, List.length_cons] at made
        omega

/-! ## Runs -/

theorem settle_of_none {consumer : Consumer} {launch : Launcher} {detour : Bool} {s : Stream}
    (steps : Nat) (ended : next? consumer launch detour s = none) :
    settle consumer launch detour steps s = s := by
  cases steps <;> simp [settle, ended]

/-- **A run that goes on for as many steps as it has work is over.** -/
theorem next?_settle (consumer : Consumer) (launch : Launcher) (detour : Bool) (steps : Nat)
    (s : Stream) (enough : s.work ≤ steps) :
    next? consumer launch detour (settle consumer launch detour steps s) = none := by
  induction steps generalizing s with
  | zero =>
    cases step : next? consumer launch detour s with
    | none => exact step
    | some t => have := work_lt_of_next? step; omega
  | succ steps ih =>
    cases step : next? consumer launch detour s with
    | none => rw [settle_of_none _ step, step]
    | some t =>
      have less := work_lt_of_next? step
      simp only [settle, step]
      exact ih t (by omega)

end BatchExec.Stream
