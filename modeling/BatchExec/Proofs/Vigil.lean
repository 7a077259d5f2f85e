import BatchExec.Proofs.Outcome
import BatchExec.Proofs.Rounding
import BatchExec.Single

/-!
# Waiting for a child

A caller that goes on is told when the time limit passes and when it is cancelled, and some time
after the end of its child it notices this end. If it stops waiting, it tells the child to die and
waits for the end once more. A second call to stop breaks this off.

* `Vigil.respond`: what a caller does when it is told something.
* `Vigil.sound_watch`: **in whatever order a caller is told what**, it tells its child to die once
  at most, never after the end of the child, and has finished only when the end is noticed.
* `Vigil.course?_watch`, `Vigil.watch_interrupt_of_some`: **these are the courses of children.**
* `Single.cancelled_reaps`: **a command line that is cancelled leaves no child behind**, unless the
  limit has passed before.
-/

namespace BatchExec

/-- What a caller that waits for its child is told. -/
inductive Alarm where
  /-- It is cancelled. -/
  | cancelled
  /-- The limit has passed. -/
  | overrun
  deriving DecidableEq, Repr

/-- Why a caller stops waiting. -/
inductive Cause where
  | limit
  | cancellation
  deriving DecidableEq, Repr

/-- Where a caller is. -/
inductive Phase where
  /-- It waits for the end of its child. -/
  | waiting
  /-- It has stopped for some cause, and waits for the end of its child once more. -/
  | stopping (cause : Cause)
  /-- It finished at some time because the end of its child was noticed. It may have stopped before
  for some cause. -/
  | finished (cause : Option Cause) (time : Nat)
  /-- It had stopped for some cause, and was cancelled at some time before the end of its child was
  noticed. -/
  | brokenOff (cause : Cause) (time : Nat)
  deriving DecidableEq, Repr

/-- A caller and its child. -/
structure Vigil where
  phase : Phase
  /-- When the child was told to die. -/
  kills : List Nat
  /-- When the child ends, as things stand. -/
  ended : Nat
  /-- When this end can be noticed. -/
  noticed : Nat
  /-- When the end of the child was noticed. -/
  reaped : Option Nat
  deriving DecidableEq, Repr

namespace Vigil

/-! ## What a caller does -/

/-- The child of the caller has just started. -/
def start (c : Behaviour) : Vigil := ⟨.waiting, [], c.lifetime, c.lifetime + c.reapDelay, none⟩

/-- The end of the child is noticed, if the caller waits for it. -/
def notice (v : Vigil) : Vigil :=
  match v.phase with
  | .waiting => { v with phase := .finished none v.noticed, reaped := some v.noticed }
  | .stopping cause =>
    { v with phase := .finished (some cause) v.noticed, reaped := some v.noticed }
  | .finished _ _ | .brokenOff _ _ => v

/-- The caller stops waiting and tells the child to die, unless it has ended. -/
def stop (c : Behaviour) (v : Vigil) (cause : Cause) (time : Nat) : Vigil :=
  let stopped := { v with phase := .stopping cause }
  if v.ended ≤ time then stopped
  else
    let told := { stopped with kills := v.kills ++ [time] }
    if c.immortal then told else { told with ended := time, noticed := time + c.killDelay }

/-- What the caller has noticed before some time. -/
def upTo (v : Vigil) (time : Nat) : Vigil := if v.noticed < time then v.notice else v

/-- What a caller does when it is told something at some time. -/
def respond (c : Behaviour) (v : Vigil) (alarm : Nat × Alarm) : Vigil :=
  let v := v.upTo alarm.1
  match v.phase, alarm.2 with
  | .waiting, .overrun => v.stop c .limit alarm.1
  | .waiting, .cancelled => v.stop c .cancellation alarm.1
  | .stopping cause, .cancelled => { v with phase := .brokenOff cause alarm.1 }
  | _, _ => v

/-- What becomes of a caller that is told one thing after the other. -/
def watch (c : Behaviour) (alarms : List (Nat × Alarm)) : Vigil :=
  (alarms.foldl (respond c) (start c)).notice

/-! ## Whatever a caller is told -/

/-- What holds of a caller and its child at any time. -/
structure Sound (c : Behaviour) (v : Vigil) : Prop where
  waiting : v.phase = .waiting → v.kills = [] ∧ v.ended = c.lifetime
  /-- The child is told to die once at most. -/
  once : v.kills.length ≤ 1
  /-- It is not told to die when it has ended. -/
  early : ∀ time ∈ v.kills, time < c.lifetime
  /-- Its end cannot be noticed before. -/
  later : v.ended ≤ v.noticed
  /-- The caller has finished only when the end of the child is noticed. -/
  finished : ∀ cause time, v.phase = .finished cause time → v.reaped = some time ∧ v.ended ≤ time
  /-- Until the caller has finished, and if it is broken off, nothing is noticed. -/
  unfinished : (∀ cause time, v.phase ≠ .finished cause time) → v.reaped = none

variable {c : Behaviour} {v : Vigil}

theorem sound_start (c : Behaviour) : (start c).Sound c where
  waiting _ := ⟨rfl, rfl⟩
  once := Nat.zero_le 1
  early _ mem := absurd mem List.not_mem_nil
  later := Nat.le_add_right c.lifetime c.reapDelay
  finished _ _ finished := nomatch finished
  unfinished _ := rfl

theorem Sound.notice (sound : v.Sound c) : v.notice.Sound c := by
  unfold Vigil.notice
  cases v.phase with
  | waiting | stopping cause =>
    refine ⟨(nomatch ·), sound.once, sound.early, sound.later, ?_, fun unfinished => ?_⟩
    · rintro _ _ ⟨⟩
      exact ⟨rfl, sound.later⟩
    · exact absurd rfl (unfinished _ _)
  | finished cause closing | brokenOff cause closing => exact sound

theorem Sound.upTo (sound : v.Sound c) (time : Nat) : (v.upTo time).Sound c := by
  unfold Vigil.upTo
  split
  · exact sound.notice
  · exact sound

/-- A caller that stops waiting tells its child to die unless it has ended. -/
theorem Sound.stop (sound : v.Sound c) (waits : v.phase = .waiting) (cause : Cause) (time : Nat) :
    (v.stop c cause time).Sound c := by
  obtain ⟨none, itself⟩ := sound.waiting waits
  have unnoticed : v.reaped = Option.none := sound.unfinished (by simp [waits])
  unfold Vigil.stop
  dsimp only
  by_cases gone : v.ended ≤ time
  · rw [if_pos gone]
    exact ⟨(nomatch ·), sound.once, sound.early, sound.later, fun _ _ => (nomatch ·),
      fun _ => unnoticed⟩
  · rw [if_neg gone, none, List.nil_append]
    have early : ∀ t ∈ [time], t < c.lifetime := by
      intro t mem
      rw [List.mem_singleton.mp mem]
      omega
    by_cases immortal : c.immortal = true
    · rw [if_pos immortal]
      exact ⟨(nomatch ·), le_refl 1, early, sound.later, fun _ _ => (nomatch ·),
        fun _ => unnoticed⟩
    · rw [if_neg immortal]
      exact ⟨(nomatch ·), le_refl 1, early, Nat.le_add_right time c.killDelay,
        fun _ _ => (nomatch ·), fun _ => unnoticed⟩

/-- What a caller does keeps what holds of it. -/
theorem Sound.respond (sound : v.Sound c) (alarm : Nat × Alarm) : (v.respond c alarm).Sound c := by
  have sound := sound.upTo alarm.1
  unfold Vigil.respond
  dsimp only
  split
  · rename_i waits _
    exact sound.stop waits .limit alarm.1
  · rename_i waits _
    exact sound.stop waits .cancellation alarm.1
  · rename_i cause stops _
    exact ⟨(nomatch ·), sound.once, sound.early, sound.later, fun _ _ => (nomatch ·),
      fun _ => sound.unfinished (by simp [stops])⟩
  · exact sound

/-- **In whatever order a caller is told what**, it tells its child to die once at most and never
after the end of the child, and it has finished only when the end is noticed. -/
theorem sound_watch (c : Behaviour) (alarms : List (Nat × Alarm)) : (watch c alarms).Sound c := by
  -- the caller may have been told something before
  suffices ∀ v : Vigil, v.Sound c → (alarms.foldl (respond c) v).Sound c from
    (this _ (sound_start c)).notice
  induction alarms with
  | nil => exact fun v sound => sound
  | cons alarm alarms ih => exact fun v sound => ih _ (sound.respond alarm)

end Vigil

/-! ## What a caller is told -/

namespace Behaviour

/-- When a limit passes, if it does so before the end of a child that nobody kills is noticed. -/
def passes? (c : Behaviour) (limit : Option Seconds) : Option Nat :=
  limit.bind fun l =>
    if l.lapsed then some 0
    else if l.overrunBy (c.lifetime + c.reapDelay) then l.expiry else none

/-- What a caller is told that nobody cancels. -/
def alarms (c : Behaviour) (limit : Option Seconds) : List (Nat × Alarm) :=
  match c.passes? limit with
  | some time => [(time, .overrun)]
  | none => []

variable {c : Behaviour} {limit : Option Seconds} {time : Nat}

/-- A limit passes when its alarm goes off, and the end of a child that it cuts off would have been
noticed later. -/
theorem passes?_eq_some (passes : c.passes? limit = some time) :
    limit.bind Seconds.alarm = some time ∧ time ≤ c.lifetime + c.reapDelay := by
  obtain ⟨l, rfl, lapses⟩ := Option.bind_eq_some_iff.mp passes
  show l.alarm = some time ∧ _
  cases lapsed : l.lapsed with
  | true =>
    rw [lapsed, if_pos rfl] at lapses
    obtain rfl := Option.some.inj lapses
    refine ⟨?_, Nat.zero_le _⟩
    rw [Seconds.alarm, lapsed, if_pos rfl]
  | false =>
    rw [lapsed, if_neg Bool.false_ne_true] at lapses
    cases late : l.overrunBy (c.lifetime + c.reapDelay) with
    | true =>
      rw [late, if_pos rfl] at lapses
      obtain ⟨expiry, expires, le⟩ :=
        Seconds.expiry_le_of_overrunBy (Seconds.nonpositive_eq_false_of_lapsed lapsed) late
      obtain rfl := Option.some.inj (expires.symm.trans lapses)
      exact ⟨(Seconds.alarm_eq_expiry lapsed).trans expires, le⟩
    | false =>
      rw [late, if_neg Bool.false_ne_true] at lapses
      contradiction

/-- A child is killed when its limit passes, if it does. -/
theorem asyncCourse_eq (c : Behaviour) (limit : Option Seconds) :
    c.asyncCourse limit = match c.passes? limit with
      | some time => c.killedCourse time true
      | none => ⟨c.lifetime + c.reapDelay, false, 0, c.lifetime⟩ := by
  unfold asyncCourse passes?
  cases limit with
  | none => rfl
  | some l =>
    dsimp only [Option.bind_some]
    cases lapsed : l.lapsed with
    | true => rfl
    | false =>
      cases late : l.overrunBy (c.lifetime + c.reapDelay) with
      | true =>
        obtain ⟨expiry, expires, -⟩ :=
          Seconds.expiry_le_of_overrunBy (Seconds.nonpositive_eq_false_of_lapsed lapsed) late
        simp only [Bool.false_eq_true, if_false, if_true, expires, Option.getD_some]
      | false => rfl

/-- What becomes of a child whose invocation is cancelled depends on whether its limit has passed.
-/
theorem cancelledCourse_eq (c : Behaviour) (limit : Option Seconds) (time : Nat) :
    c.cancelledCourse limit time =
      if (c.asyncCourse limit).duration < time then none
      else if (c.passes? limit).any (· < time) then
        some { c.asyncCourse limit with duration := time }
      else some (c.killedCourse time false) := by
  have lapsed : (c.asyncCourse limit).timedOut = true ∧
      (limit.bind Seconds.alarm).any (· < time) = true ↔
        (c.passes? limit).any (· < time) = true := by
    rw [c.asyncCourse_eq]
    cases passes : c.passes? limit with
    | none => simp
    | some expiry =>
      rw [(passes?_eq_some passes).1]
      exact and_iff_right (c.timedOut_killedCourse expiry true)
  unfold cancelledCourse
  simp only [lapsed]

end Behaviour

namespace Vigil

variable {c : Behaviour} {limit : Option Seconds}

/-- What becomes of the child, when the caller has finished. -/
def course? (v : Vigil) : Option Course :=
  match v.phase with
  | .finished cause time => some ⟨time, cause = some .limit, v.kills.length, v.ended⟩
  | .brokenOff cause time => some ⟨time, cause = .limit, v.kills.length, v.ended⟩
  | .waiting | .stopping _ => none

/-- What a caller is told that is cancelled at some time. The cancellation comes before all else
that happens at its time. -/
def interrupt (time : Nat) : List (Nat × Alarm) → List (Nat × Alarm)
  | [] => [(time, .cancelled)]
  | alarm :: alarms =>
    if time ≤ alarm.1 then (time, .cancelled) :: alarm :: alarms
    else alarm :: interrupt time alarms

/-- A caller that stops for a cause waits for the end of its child once more. -/
theorem stop_start (c : Behaviour) (cause : Cause) (time : Nat) (timedOut : Bool) :
    let v := (start c).stop c cause time
    let course := c.killedCourse time timedOut
    v.phase = .stopping cause ∧ v.kills.length = course.kills ∧ v.ended = course.ended ∧
      v.noticed = course.duration := by
  unfold stop Behaviour.killedCourse start
  dsimp only
  by_cases gone : c.lifetime ≤ time
  · simp [gone]
  · cases immortal : c.immortal <;> simp [gone]

/-- A caller that has stopped for a cause waits until the end of its child is noticed. -/
theorem notice_stop (c : Behaviour) (cause : Cause) (time : Nat) :
    let v := ((start c).stop c cause time).notice
    let course := c.killedCourse time (cause = .limit)
    v.phase = .finished (some cause) course.duration ∧ v.course? = some course := by
  obtain ⟨stops, kills, ended, noticed⟩ := stop_start c cause time (cause = .limit)
  have timedOut := c.timedOut_killedCourse time (cause = .limit)
  dsimp only
  unfold notice
  rw [stops]
  refine ⟨by rw [noticed], ?_⟩
  simp only [course?, kills, ended, noticed, Option.some.injEq]
  generalize c.killedCourse time (cause = .limit) = course at timedOut
  cases course
  cases timedOut
  rfl

/-- A caller that is told to stop before the end of its child can be noticed stops. -/
theorem respond_start {time : Nat} (before : time ≤ c.lifetime + c.reapDelay) :
    (start c).respond c (time, .overrun) = (start c).stop c .limit time ∧
      (start c).respond c (time, .cancelled) = (start c).stop c .cancellation time := by
  have waits : (start c).upTo time = start c := if_neg (Nat.not_lt.mpr before)
  unfold respond
  rw [waits]
  exact ⟨rfl, rfl⟩

/-- A caller that has stopped does not mind its limit any more. -/
theorem overrun_stop (v : Vigil) (c : Behaviour) (cause : Cause) (time time' : Nat) :
    ((v.stop c cause time).respond c (time', .overrun)).notice = (v.stop c cause time).notice := by
  have stops : (v.stop c cause time).phase = .stopping cause := by
    unfold stop
    dsimp only
    split
    · rfl
    · split <;> rfl
  generalize v.stop c cause time = w at stops
  unfold respond upTo
  split
  · simp only [notice, stops]
  · simp only [stops]

/-- **A caller that nobody cancels waits as long as its child takes.** -/
theorem course?_watch (c : Behaviour) (limit : Option Seconds) :
    (watch c (c.alarms limit)).course? = some (c.asyncCourse limit) := by
  unfold Behaviour.alarms
  rw [c.asyncCourse_eq]
  cases passes : c.passes? limit with
  | none => rfl
  | some time =>
    have before := (Behaviour.passes?_eq_some passes).2
    show (((start c).respond c (time, .overrun)).notice).course? = _
    rw [(respond_start before).1]
    exact (notice_stop c .limit time).2

/-- A caller that is cancelled before the limit passes tells its child to die and waits. -/
theorem watch_stopped {time : Nat} (before : time ≤ c.lifetime + c.reapDelay)
    (first : ∀ expiry, c.passes? limit = some expiry → time ≤ expiry) :
    watch c (interrupt time (c.alarms limit)) =
      ((start c).stop c .cancellation time).notice := by
  unfold Behaviour.alarms
  cases passes : c.passes? limit with
  | none => exact congrArg notice (respond_start before).2
  | some expiry =>
    rw [interrupt, if_pos (first expiry passes)]
    show (((start c).respond c (time, .cancelled)).respond c (expiry, .overrun)).notice = _
    rw [(respond_start before).2, overrun_stop]

/-- A caller that is cancelled after it has told its child to die because of the limit does not wait
for the end of the child any more. -/
theorem watch_brokenOff {time expiry : Nat} (passes : c.passes? limit = some expiry)
    (lapsed : expiry < time) (early : ¬ (c.killedCourse expiry true).duration < time) :
    watch c (interrupt time (c.alarms limit)) =
      { (start c).stop c .limit expiry with phase := .brokenOff .limit time } := by
  have le := (Behaviour.passes?_eq_some passes).2
  obtain ⟨stops, -, -, noticed⟩ := stop_start c .limit expiry true
  have waits : ((start c).stop c .limit expiry).upTo time = (start c).stop c .limit expiry :=
    if_neg (by rwa [noticed])
  have order : interrupt time (c.alarms limit) = [(expiry, .overrun), (time, .cancelled)] := by
    unfold Behaviour.alarms
    rw [passes]
    exact if_neg (Nat.not_le.mpr lapsed)
  rw [order]
  show (((start c).respond c (expiry, .overrun)).respond c (time, .cancelled)).notice = _
  rw [(respond_start le).1, respond]
  simp only [waits, stops]
  rfl

/-- **A caller that is cancelled waits until the end of its child is noticed**, unless it has told
its child to die before. -/
theorem watch_interrupt_of_some {time : Nat} {course : Course}
    (cancelled : c.cancelledCourse limit time = some course) :
    let v := watch c (interrupt time (c.alarms limit))
    v.course? = some course ∧ v.phase =
      if (c.passes? limit).any (· < time) then .brokenOff .limit course.duration
      else .finished (some .cancellation) course.duration := by
  rw [c.cancelledCourse_eq] at cancelled
  have early : ¬ (c.asyncCourse limit).duration < time := by
    intro late
    rw [if_pos late] at cancelled
    contradiction
  rw [if_neg early] at cancelled
  rw [c.asyncCourse_eq] at early cancelled
  cases passes : c.passes? limit with
  | none =>
    rw [passes] at early cancelled
    obtain rfl : c.killedCourse time false = course := Option.some.inj cancelled
    have before : time ≤ c.lifetime + c.reapDelay := Nat.not_lt.mp early
    dsimp only
    rw [watch_stopped before fun expiry some => absurd (passes.symm.trans some) nofun]
    exact (notice_stop c .cancellation time).symm
  | some expiry =>
    rw [passes] at early cancelled
    have le := (Behaviour.passes?_eq_some passes).2
    simp only [Option.any_some, decide_eq_true_eq] at early cancelled ⊢
    by_cases lapsed : expiry < time
    · rw [if_pos lapsed] at cancelled ⊢
      obtain rfl := Option.some.inj cancelled
      obtain ⟨-, kills, ended, -⟩ := stop_start c .limit expiry true
      rw [watch_brokenOff passes lapsed early]
      refine ⟨?_, rfl⟩
      rw [course?, ← kills, ← ended, c.timedOut_killedCourse]
      rfl
    · rw [if_neg lapsed] at cancelled ⊢
      obtain rfl := Option.some.inj cancelled
      have first : time ≤ expiry := Nat.not_lt.mp lapsed
      have own (other : Nat) (some : c.passes? limit = some other) : time ≤ other :=
        Option.some.inj (passes.symm.trans some) ▸ first
      rw [watch_stopped (first.trans le) own]
      exact (notice_stop c .cancellation time).symm

end Vigil

/-! ## Cancelled command lines -/

namespace Single

variable {limit : Option Seconds} {c : Behaviour} {i : Invocation} {time : Nat}

/-- A command line that is cancelled has come to a course. -/
structure CutShort (single : Single) (course : Course) : Prop where
  kills : single.attempt.kills = course.kills
  ended : single.attempt.ended = course.ended
  time : single.time = course.duration

theorem cutShort_ofEnding (runner : Runner) (trace : Bool) (i : Invocation) (course : Course)
    (code : Int) (ending : SingleEnd) (closing : List Remark) :
    (ofEnding runner trace i (.ran course code) ending closing).CutShort course :=
  ⟨rfl, Nat.zero_add _, rfl⟩

theorem cancelledCourse_of_cutShort? {course : Course}
    (cut : cutShort? .async limit c (some time) i = some course) :
    c.cancelledCourse limit time = some course := by
  unfold cutShort? at cut
  split at cut
  · rename_i cancelTime _ _ _ same
    cases same
    exact cut
  · contradiction

/-- A cancellation in the course of a child cancels the command line. -/
theorem execute_of_cancelledCourse (starts : c.spawnFailure i.argv = none)
    (settable : limit.any Seconds.unbounded = false) {course : Course}
    (cancelled : c.cancelledCourse limit time = some course) :
    execute .async limit c (some time) i =
      ofEnding .async false i (.ran course c.returnCode) .cancelled [] := by
  have ran : Runner.async.execute i limit c = .ran (c.asyncCourse limit) c.returnCode := by
    unfold Runner.execute
    rw [starts, settable]
    rfl
  have cut : cutShort? .async limit c (some time) i = some course := by
    unfold cutShort?
    rw [ran]
    exact cancelled
  unfold execute
  rw [cut]

/-- A command line is cancelled only in the course of its child. -/
theorem cutShort_of_execute
    (ends : (execute .async limit c (some time) i).ending = .cancelled) :
    ∃ course, c.cancelledCourse limit time = some course ∧
      (execute .async limit c (some time) i).CutShort course := by
  unfold execute at ends ⊢
  cases cut : cutShort? .async limit c (some time) i with
  | some course =>
    exact ⟨course, cancelledCourse_of_cutShort? cut, cutShort_ofEnding _ _ _ _ _ _ _⟩
  | none =>
    rw [cut] at ends
    unfold ofEnding at ends
    dsimp only at ends
    cases execution : Runner.async.execute i limit c with
    | ran course code =>
      rw [execution] at ends
      cases returns : Runner.returned i limit course code <;> simp [returns] at ends
    | notStarted failure | broken failure | abandoned lifetime failure =>
      rw [execution] at ends
      contradiction

theorem cutShort_of_run (trace : Bool)
    (ends : (run .async limit trace c (some time) i).ending = .cancelled) :
    ∃ course, c.cancelledCourse limit time = some course ∧
      (run .async limit trace c (some time) i).CutShort course := by
  unfold run at ends ⊢
  cases cut : cutShort? .async limit c (some time) i with
  | some course =>
    exact ⟨course, cancelledCourse_of_cutShort? cut, cutShort_ofEnding _ _ _ _ _ _ _⟩
  | none =>
    rw [cut] at ends
    dsimp only at ends
    split at ends <;> contradiction

/-- **A command line that is cancelled leaves no child behind**: by the time it is over, the child
has been told to die once at most, not when it had ended, and its end has been noticed. There is one
exception: a caller that has told its child to die because its limit has passed does not wait for
the end any more when it is cancelled. -/
theorem cancelled_reaps {single : Single} (trace : Bool)
    (call : single = execute .async limit c (some time) i ∨
      single = run .async limit trace c (some time) i)
    (ends : single.ending = .cancelled) :
    let v := Vigil.watch c (Vigil.interrupt time (c.alarms limit))
    single.attempt.kills = v.kills.length ∧ single.attempt.ended = v.ended ∧
      v.kills.length ≤ 1 ∧ (∀ t ∈ v.kills, t < c.lifetime) ∧
      ((∃ t ≤ single.time, v.reaped = some t ∧ v.ended ≤ t) ↔
        ∀ t, c.passes? limit = some t → time ≤ t) := by
  obtain ⟨course, cancelled, cut⟩ : ∃ course, c.cancelledCourse limit time = some course ∧
      single.CutShort course := by
    rcases call with rfl | rfl
    · exact cutShort_of_execute ends
    · exact cutShort_of_run trace ends
  obtain ⟨comes, stands⟩ := Vigil.watch_interrupt_of_some cancelled
  have sound := Vigil.sound_watch c (Vigil.interrupt time (c.alarms limit))
  generalize Vigil.watch c (Vigil.interrupt time (c.alarms limit)) = v at comes stands sound
  have tells : course.kills = v.kills.length ∧ course.ended = v.ended := by
    unfold Vigil.course? at comes
    rw [stands] at comes
    split at comes <;> cases comes <;> exact ⟨rfl, rfl⟩
  refine ⟨cut.kills.trans tells.1, cut.ended.trans tells.2, sound.once, sound.early, ?_⟩
  by_cases lapsed : (c.passes? limit).any (· < time) = true
  · rw [if_pos lapsed] at stands
    obtain ⟨expiry, passes, before⟩ := (Option.any_eq_true _ _).mp lapsed
    have unnoticed : v.reaped = none := sound.unfinished (by simp [stands])
    constructor
    · rintro ⟨t, -, noticed, -⟩
      rw [unnoticed] at noticed
      contradiction
    · intro first
      have := first expiry passes
      simp only [decide_eq_true_eq] at before
      omega
  · rw [if_neg lapsed] at stands
    obtain ⟨noticed, gone⟩ := sound.finished _ _ stands
    constructor
    · intro _ t passes
      simp only [passes, Option.any_some, decide_eq_true_eq] at lapsed
      omega
    · exact fun _ => ⟨course.duration, cut.time.ge, noticed, gone⟩

/-- A command line that sleeps for half a minute. -/
def sleeping : Invocation := (Template.ofWords ["sleep"]).instantiate ⟨0, ["30"], by decide⟩

/-- A child that takes half a minute, and whose end is noticed three milliseconds later, or two if
it is killed. -/
def lingering : Behaviour := { lifetime := 30000, reapDelay := 3, killDelay := 2 }

/-- A command line under a limit of a minute that is cancelled after 50 milliseconds is over when
the end of its child is noticed, which has been killed. -/
theorem lingering_reaped :
    let single := execute .async (some (.int 60)) lingering (some 50) sleeping
    single.ending = .cancelled ∧ single.time = 52 ∧ single.attempt.kills = 1 ∧
      ∃ t ≤ single.time, single.attempt.ended ≤ t ∧
        (Vigil.watch lingering (Vigil.interrupt 50 (lingering.alarms (some (.int 60))))).reaped =
          some t := by
  have cancels : execute .async (some (.int 60)) lingering (some 50) sleeping =
      ofEnding .async false sleeping (.ran _ lingering.returnCode) .cancelled [] :=
    execute_of_cancelledCourse rfl (by decide +kernel) rfl
  have ends : (execute .async (some (.int 60)) lingering (some 50) sleeping).ending =
      .cancelled := by
    rw [cancels]
    rfl
  obtain ⟨-, ended, -, -, reaps⟩ := cancelled_reaps false (.inl rfl) ends
  obtain ⟨t, le, noticed, gone⟩ := reaps.mpr fun t passes => nomatch passes
  refine ⟨ends, ?_, ?_, t, le, ended.trans_le gone, noticed⟩ <;>
    rw [cancels] <;> rfl

/-- A child that takes three seconds and cannot be killed. -/
def stubborn : Behaviour := { lifetime := 3000, immortal := true }

/-- A command line under a limit of a second that is cancelled after two seconds leaves its child
behind, which ends after three. -/
theorem stubborn_left_behind :
    let single := execute .async (some (.int 1)) stubborn (some 2000) sleeping
    single.ending = .cancelled ∧ single.time = 2000 ∧ single.attempt.spawned = true ∧
      single.attempt.ended = 3000 := by
  have cancels : execute .async (some (.int 1)) stubborn (some 2000) sleeping =
      ofEnding .async false sleeping (.ran _ stubborn.returnCode) .cancelled [] :=
    execute_of_cancelledCourse rfl (by decide +kernel) rfl
  rw [cancels]
  exact ⟨rfl, rfl, rfl, rfl⟩

end Single

end BatchExec
