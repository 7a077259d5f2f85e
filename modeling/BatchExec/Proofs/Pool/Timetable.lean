import BatchExec.Proofs.Pool.Demand
import BatchExec.Proofs.Timetable

/-!
# The timetable of a blocking run

If the source has no delays and nobody cancels the run, each step of a blocking run is a chain of
moves of its timetable, provided that time passes only when nobody can go on and that launches start
in order: time then passes only until the next launch ends, and only when every slot is taken.

* `Threads.Punctual`: time passes only when nobody can go on, and launches start in order.
* `Pool.timetable`: what the clock tells of a state.
* `Pool.timed_of_step`: **a step is a chain of moves.**
* `Pool.greedy_of_passes`: **in no state a slot has idled.**
* `Pool.full_of_step`: **when time passes while a batch waits, every slot is taken.**
-/

namespace BatchExec

/-- News is on no timetable. -/
theorem Happening.isAside_of_news {e : Happening} (news : e.isNews = true) : e.isAside = true := by
  cases e <;> first | rfl | exact absurd news Bool.false_ne_true

/-- Time passes only when nobody can go on, and launches start in the order in which their batches
have been taken up. -/
structure Threads.Punctual (threads : Threads) : Prop where
  prompt : threads.lags = false
  orderly : threads.overtakes = false

/-! ## Timers -/

/-- The batch whose launch ends, if it is that which is due, and when. -/
def Due.end? (time : Nat) (due : Due) : Option (Batch × Nat) :=
  due.flight?.map fun f => (f.batch, time)

/-- The batch whose launch a timer ends, and when. -/
def Timer.end? (t : Timer) : Option (Batch × Nat) := t.due.end? t.time

/-- A timer is put in its place. -/
theorem Timer.sorted_insert (t : Timer) {timers : List Timer}
    (sorted : timers.Pairwise (·.time ≤ ·.time)) :
    (Timer.insert t timers).Pairwise (·.time ≤ ·.time) := by
  induction timers with
  | nil => exact List.pairwise_singleton _ t
  | cons next rest ih =>
    obtain ⟨first, sorted⟩ := List.pairwise_cons.mp sorted
    unfold insert
    split
    · rename_i earlier
      refine List.pairwise_cons.mpr ⟨fun u mem => ?_, ih sorted⟩
      rcases List.mem_cons.mp ((insert_perm t rest).mem_iff.mp mem) with rfl | old
      · exact earlier
      · exact first u old
    · rename_i later
      refine List.pairwise_cons.mpr ⟨fun u mem => ?_, List.pairwise_cons.mpr ⟨first, sorted⟩⟩
      rcases List.mem_cons.mp mem with rfl | old
      · exact Nat.le_of_not_le later
      · exact Nat.le_trans (Nat.le_of_not_le later) (first u old)

namespace Pool

variable {rules : Rules} {listener : Listener} {launch : Launcher} {threads : Threads} {p q : Pool}

/-- The launches that are running, each with the time at which it is to end: what is due is to end
now. -/
def dues (p : Pool) : Multiset (Batch × Nat) :=
  (p.due.filterMap (Due.end? p.now) ++ p.timers.filterMap Timer.end? : List (Batch × Nat))

/-- What the clock tells of a state. -/
def timetable (p : Pool) : Timetable := ⟨p.now, p.history.starts, p.history.ends, p.dues⟩

/-- The timers are in order, and none is overdue. -/
structure Tidy (p : Pool) : Prop where
  sorted : p.timers.Pairwise (·.time ≤ ·.time)
  ahead : ∀ t ∈ p.timers, p.now ≤ t.time

/-- The source has no delays. -/
def Stage.Prompt : Stage → Prop
  | .pulling _ _ _ => False
  | stage => ∀ item ∈ stage.left, item.delay = 0

theorem card_dues (p : Pool) : p.dues.card = p.flights.card := by
  simp only [dues, flights, Multiset.coe_card, List.length_append,
    List.length_filterMap_eq_countP]
  congr 1
  · exact List.countP_congr fun d _ => by simp [Due.end?]
  · exact List.countP_congr fun t _ => by simp [Timer.end?, Due.end?, Timer.flight?]

/-- The launch whose end is due, apart from the others. -/
theorem dues_split {before after : List Due} {due : Due} (listed : p.due = before ++ due :: after) :
    p.dues = ((due.end? p.now).toList : Multiset (Batch × Nat)) +
      dues { p with due := before ++ after } := by
  have perm : p.due.Perm (due :: (before ++ after)) := listed ▸ List.perm_middle
  have same : (p.due.filterMap (Due.end? p.now)).Perm
      ((due.end? p.now).toList ++ (before ++ after).filterMap (Due.end? p.now)) := by
    refine (perm.filterMap _).trans (.of_eq ?_)
    cases ends : due.end? p.now <;> simp [ends]
  unfold dues
  rw [Multiset.coe_add, ← List.append_assoc]
  exact Multiset.coe_eq_coe.mpr (same.append_right _)

/-- A launch takes off that is to end at some time. -/
theorem dues_insert (p : Pool) (time : Nat) (b : Batch) (plan : Plan) :
    dues { p with timers := Timer.insert ⟨time, .finish b plan⟩ p.timers } =
      (b, time) ::ₘ p.dues := by
  have perm := (Timer.insert_perm ⟨time, .finish b plan⟩ p.timers).filterMap Timer.end?
  exact Multiset.coe_eq_coe.mpr ((perm.append_left _).trans List.perm_middle)

/-- A timer that goes off at its time changes nothing. -/
theorem dues_expire {t : Timer} {rest : List Timer} (set : p.timers = t :: rest)
    (due : p.due = [] ∨ t.time = p.now) (ahead : p.now ≤ t.time) :
    (p.expire t rest).dues = p.dues := by
  have now : max p.now t.time = t.time := Nat.max_eq_right ahead
  have same : p.due.filterMap (Due.end? t.time) = p.due.filterMap (Due.end? p.now) := by
    rcases due with none | same
    · rw [none]
      rfl
    · rw [same]
  show ((p.due ++ [t.due]).filterMap (Due.end? (max p.now t.time)) ++
    rest.filterMap Timer.end? : Multiset (Batch × Nat)) = p.dues
  rw [now, List.filterMap_append, same, List.append_assoc, dues, set]
  cases ends : t.end? <;> simp [Timer.end?] at ends <;> simp [ends, Timer.end?]

/-- No launch ends before the next timer goes off, if none is due. -/
theorem le_dues {t : Timer} {rest : List Timer} (set : p.timers = t :: rest)
    (none : p.due = []) (sorted : p.timers.Pairwise (·.time ≤ ·.time)) :
    ∀ d ∈ p.dues, t.time ≤ d.2 := by
  intro d mem
  rw [set] at sorted
  rw [dues, none] at mem
  obtain ⟨u, listed, ends⟩ := List.mem_filterMap.mp (Multiset.mem_coe.mp mem)
  obtain ⟨f, -, rfl⟩ := Option.map_eq_some_iff.mp ends
  rw [set] at listed
  rcases List.mem_cons.mp listed with rfl | later
  · exact Nat.le_refl u.time
  · exact (List.pairwise_cons.mp sorted).1 u later

/-! ## Launches -/

/-- What neither starts nor ends a launch is on no timetable. -/
theorem timetable_note (p : Pool) {happenings : List Happening}
    (aside : ∀ e ∈ happenings, e.isAside = true) : (p.note happenings).timetable = p.timetable := by
  obtain ⟨starts, ends⟩ := p.history.timed_of_aside aside p.now
  rw [timetable, history_note, starts, ends]
  rfl

theorem timetable_cancel (p : Pool) : p.cancel.timetable = p.timetable :=
  timetable_note { p with ledger := p.ledger.cancel } (by simp [Happening.isAside])

/-- A launch ends that is no longer due. -/
theorem timetable_finish (listener : Listener) (p : Pool) (b : Batch) (plan : Plan) :
    (finish listener p b plan).timetable = p.timetable.land b p.dues := by
  obtain ⟨noted, hnoted⟩ : ∃ noted, noted = p.note (.ended b :: plan.closing.map .remarked) :=
    ⟨_, rfl⟩
  have landed : noted.timetable = p.timetable.land b p.dues := by
    obtain ⟨starts, ends⟩ := p.history.timed_ended p.now b plan.closing
    rw [hnoted, timetable, history_note, starts, ends]
    rfl
  have released (q : Pool) :
      (q.book (q.ledger.release listener b plan.ending)).timetable = q.timetable :=
    timetable_note { q with ledger := (q.ledger.release listener b plan.ending).1 } fun e mem =>
      Happening.isAside_of_news (q.ledger.news_release listener b plan.ending e mem)
  unfold finish
  dsimp only
  rw [← hnoted, released]
  split
  · rw [timetable_cancel, landed]
  · exact landed

/-- A launch starts that takes some time. -/
theorem start_of_lasting (launch : Launcher) (p : Pool) (b : Batch) {duration : Nat}
    (lasts : (launch p.launched p.now b).duration = some duration) :
    start launch p b = { p.began b (launch p.launched p.now b) with
      timers := Timer.insert ⟨p.now + duration, .finish b (launch p.launched p.now b)⟩
        p.timers } := by
  unfold start takeOff
  dsimp only
  rw [lasts]
  rfl

theorem timetable_start (launch : Launcher) (p : Pool) (b : Batch) {duration : Nat}
    (lasts : (launch p.launched p.now b).duration = some duration) :
    (start launch p b).timetable = p.timetable.start b (p.now + duration) := by
  obtain ⟨starts, ends⟩ := p.history.timed_start p.now b (launch p.launched p.now b).opening
    (launch p.launched p.now b).attempt
  rw [timetable, history_start, starts, ends, start_of_lasting launch p b lasts]
  exact congrArg (Timetable.mk _ _ _) (dues_insert p (p.now + duration) b _)

/-! ## Steps -/

variable {all : List Batch} {lasts : Nat → Nat}

/-- If nobody can go on, every slot is taken or every launch has started. -/
theorem busy_of_still (fits : p.Fits rules) (sound : p.roster.Sound rules all) (wakes : p.Wakes)
    (goes : p.ledger.cancelled = false) (prompt : p.stage.Prompt) (still : p.Still) :
    p.history.starts.length = all.length ∨ ∃ n, rules.bound = some n ∧ n ≤ p.dues.card := by
  rw [card_dues]
  obtain ⟨time, item, left, stage⟩ | ⟨b, left, stage, asleep⟩ | ⟨cut, stage⟩ := still.stage
  · rw [stage] at prompt
    exact absurd prompt id
  · obtain ⟨n, limited, full⟩ := full_of_asleep fits sound wakes asleep
      (still.waiting.trans (by rw [stage]; rfl))
    exact .inr ⟨n, limited, Nat.le_of_eq full.symm⟩
  · left
    cases cut with
    | some left =>
      have stopped := (sound.shut (by rw [roster, rosterAt, stage]; rfl)).2.1
      exact absurd (goes.symm.trans stopped) Bool.false_ne_true
    | none =>
      have launched := sound.launched_of_spent (by rw [roster, stage]; rfl)
        (by rw [roster, stage]; rfl) (still.waiting.trans (by rw [stage]; rfl))
        (by rw [roster, stage]; rfl)
      rw [← launched.length_eq, History.launched, List.length_map]
      rfl

/-- What is due is done: a launch ends if nobody cancels the run. -/
theorem timed_perform (listener : Listener) (fits : p.Fits rules) (loyal : ¬ rules.cancels)
    (tidy : p.Tidy) {before after : List Due} {due : Due}
    (listed : p.due = before ++ due :: after) :
    Timetable.Move (rules.basis lasts all.length False) p.timetable
        (perform listener { p with due := before ++ after } due).timetable ∧
      (perform listener { p with due := before ++ after } due).Tidy := by
  cases due with
  | cancel => exact absurd (fits.called .cancel (by simp [listed]) rfl) loyal
  | finish b plan =>
    have ends : p.dues = (b, p.now) ::ₘ dues { p with due := before ++ after } := dues_split listed
    obtain ⟨ledger, past, same⟩ :=
      perform_same listener { p with due := before ++ after } (.finish b plan)
    refine ⟨?_, by rw [same]; exact ⟨tidy.sorted, tidy.ahead⟩⟩
    show Timetable.Move _ _ (finish listener _ b plan).timetable
    rw [timetable_finish]
    exact .land _ _ _ ends

/-- The launch starts of the batch that was taken up first. -/
theorem timed_start (sound : p.roster.Sound rules all) (orderly : ¬ rules.overtakes)
    (timed : rules.launch.Lasts lasts all) (tidy : p.Tidy) {b : Batch} {after : List Batch}
    (waits : p.taken = b :: after) :
    Timetable.Move (rules.basis lasts all.length False) p.timetable
        (start rules.launch { p with taken := after } b).timetable ∧
      (start rules.launch { p with taken := after } b).Tidy := by
  have first : p.roster.waiting = b :: (after ++ p.queue ++ p.stage.waiting) := by
    simp [roster, rosterAt, waits]
  obtain ⟨next, room, takes⟩ := sound.next_of_waiting orderly first timed
  have takes : (rules.launch p.launched p.now b).duration =
      some (lasts p.history.starts.length) := takes
  refine ⟨?_, ?_⟩
  · rw [timetable_start rules.launch { p with taken := after } b takes]
    refine .start p.timetable b next fun n limited => ?_
    show p.dues.card < n
    rw [card_dues]
    exact room n limited
  · rw [start_of_lasting rules.launch { p with taken := after } b takes]
    refine ⟨Timer.sorted_insert _ tidy.sorted, fun t mem => ?_⟩
    rcases List.mem_cons.mp ((Timer.insert_perm _ _).mem_iff.mp mem) with rfl | old
    · exact Nat.le_add_right _ _
    · exact tidy.ahead t old

/-- Time passes until the next launch ends. -/
theorem timed_expire (fits : p.Fits rules) (loyal : ¬ rules.cancels) (tidy : p.Tidy) {t : Timer}
    {rest : List Timer} (set : p.timers = t :: rest) (quiet : p.Still ∨ t.time ≤ p.now)
    (busy : p.Still → p.history.starts.length = all.length ∨
      ∃ n, rules.bound = some n ∧ n ≤ p.dues.card) :
    Timetable.Moves (rules.basis lasts all.length False) p.timetable
        (p.expire t rest).timetable ∧ (p.expire t rest).Tidy := by
  have mem : t ∈ p.timers := set ▸ List.mem_cons_self
  have ahead := tidy.ahead t mem
  have now : (p.expire t rest).now = t.time := Nat.max_eq_right ahead
  have sorted := tidy.sorted
  rw [set] at sorted
  obtain ⟨first, sorted⟩ := List.pairwise_cons.mp sorted
  refine ⟨?_, sorted, fun u listed => now ▸ first u listed⟩
  have stays (due : p.due = [] ∨ t.time = p.now) :
      (p.expire t rest).timetable = p.timetable.pass t.time := by
    rw [timetable, dues_expire set due ahead, now]
    rfl
  rcases quiet with still | here
  · have ends : ∃ b, (b, t.time) ∈ p.dues := by
      obtain ⟨due, set'⟩ : ∃ due, due = t.due := ⟨_, rfl⟩
      cases due with
      | cancel =>
        exact absurd (fits.timed t mem (by simp [Timer.flight?, ← set', Due.flight?])) loyal
      | finish b plan =>
        refine ⟨b, Multiset.mem_coe.mpr (List.mem_append_right _ ?_)⟩
        exact List.mem_filterMap.mpr ⟨t, mem, by simp [Timer.end?, Due.end?, ← set', Due.flight?]⟩
    obtain ⟨b, ends⟩ := ends
    rw [stays (.inl still.due)]
    exact .single (.pass _ _ ahead (le_dues set still.due tidy.sorted) (busy still)
      (.inr ⟨_, ends, rfl⟩))
  · have same : t.time = p.now := Nat.le_antisymm here ahead
    rw [stays (.inr same), same]
    exact .refl

/-- **A step is a chain of moves** of the timetable. -/
theorem timed_of_step (punctual : threads.Punctual) (orderly : ¬ rules.overtakes)
    (fits : p.Fits rules) (sound : p.roster.Sound rules all) (wakes : p.Wakes)
    (loyal : ¬ rules.cancels) (goes : p.ledger.cancelled = false)
    (timed : rules.launch.Lasts lasts all) (tidy : p.Tidy) (prompt : p.stage.Prompt)
    (step : Step threads listener rules.launch p q) :
    Timetable.Moves (rules.basis lasts all.length False) p.timetable q.timetable ∧
      q.Tidy ∧ q.stage.Prompt := by
  have noted (q : Pool) (happenings : List Happening)
      (aside : ∀ e ∈ happenings, e.isAside = true) (same : q.timetable = p.timetable) :
      Timetable.Moves (rules.basis lasts all.length False) p.timetable
        (q.note happenings).timetable := by
    rw [timetable_note q aside, same]
  have tidy' : ∀ {q : Pool}, q.timers = p.timers → q.now = p.now → q.Tidy := fun timers now =>
    ⟨timers ▸ tidy.sorted, timers ▸ now ▸ tidy.ahead⟩
  cases step with
  | perform before due after listed =>
    obtain ⟨ledger, past, same⟩ := perform_same listener { p with due := before ++ after } due
    obtain ⟨move, tidy⟩ := timed_perform listener fits loyal tidy listed
    exact ⟨.single move, tidy, by rw [same]; exact prompt⟩
  | start before b after waits turn =>
    obtain rfl := turn.resolve_right (by simp [punctual.orderly])
    obtain ⟨move, tidy⟩ := timed_start sound orderly timed tidy waits
    exact ⟨.single move, tidy, by rw [stage_start]; exact prompt⟩
  | takeUp | doze => exact ⟨.refl, tidy' rfl rfl, prompt⟩
  | heed signal rest pending =>
    exact absurd (fits.signalled (by rw [pending]; exact List.cons_ne_nil _ _)) loyal
  | close stage =>
    exact ⟨noted p _ (by simp [Happening.isAside]) rfl, tidy' rfl rfl,
      by simp [Stage.Prompt, Stage.left]⟩
  | ask item left stage slow =>
    rw [stage] at prompt
    exact absurd (prompt item List.mem_cons_self) slow
  | fetch item left stage =>
    rw [stage] at prompt
    exact ⟨noted p [.requested, .received item.batch] (by simp [Happening.isAside]) rfl,
      tidy' rfl rfl, fun other mem => prompt other (List.mem_cons_of_mem item mem)⟩
  | accept b left stage =>
    rw [stage] at prompt
    exact ⟨noted { p with ledger := p.ledger.take } _ (by simp [Happening.isAside]) rfl,
      tidy' rfl rfl, prompt⟩
  | refuse b left stage =>
    rw [stage] at prompt
    exact ⟨noted p _ (by simp [Happening.isAside]) rfl, tidy' rfl rfl, prompt⟩
  | submit b left stage =>
    rw [stage] at prompt
    exact ⟨noted p _ (by simp [Happening.isAside]) rfl, tidy' rfl rfl, prompt⟩
  | expire t rest set quiet =>
    obtain ⟨moves, tidy⟩ := timed_expire fits loyal tidy set
      (quiet.resolve_left (by simp [punctual.prompt]))
      (busy_of_still fits sound wakes goes prompt)
    exact ⟨moves, tidy, prompt⟩
  | arrive time item left stage =>
    rw [stage] at prompt
    exact absurd prompt id

/-- Time passes only when it is let pass. -/
theorem passes_of_later (step : Step threads listener launch p q) (later : p.now < q.now) :
    (∃ t rest, p.timers = t :: rest ∧ (threads.lags = true ∨ p.Still)) ∨
      ∃ time item left, p.stage = .pulling time item left := by
  cases step with
  | perform before due after =>
    obtain ⟨ledger, past, same⟩ := perform_same listener { p with due := before ++ after } due
    rw [same] at later
    exact absurd later (Nat.lt_irrefl _)
  | start before b after =>
    have same : (start launch { p with taken := before ++ after } b).now = p.now := by
      unfold start takeOff
      dsimp only
      split <;> rfl
    exact absurd (same ▸ later) (Nat.lt_irrefl _)
  | heed signal rest =>
    obtain ⟨ledger, past, same⟩ := heed_same { p with signals := rest } signal
    rw [same] at later
    exact absurd later (Nat.lt_irrefl _)
  | takeUp | close | ask | fetch | accept | refuse | doze | submit =>
    exact absurd later (Nat.lt_irrefl _)
  | expire t rest set quiet =>
    refine .inl ⟨t, rest, set, quiet.imp_right fun quiet => quiet.resolve_right fun here => ?_⟩
    exact absurd later (Nat.not_lt.mpr (Nat.max_le.mpr ⟨Nat.le_refl _, here⟩))
  | arrive time item left stage => exact .inr ⟨time, item, left, stage⟩

/-- **When time passes while a batch waits for a slot, every slot is taken** by a running launch. -/
theorem full_of_step (prompt : threads.lags = false) (fits : p.Fits rules)
    (sound : p.roster.Sound rules all) (wakes : p.Wakes) {b : Batch}
    (holds : p.stage.held = some b) (step : Step threads listener rules.launch p q)
    (later : p.now < q.now) : ∃ k, rules.bound = some k ∧ p.flights.card = k := by
  rcases passes_of_later step later with ⟨t, rest, -, quiet⟩ | ⟨time, item, left, stage⟩
  · have still : p.Still := quiet.resolve_left (by simp [prompt])
    obtain ⟨time, item, left, stage⟩ | ⟨b, left, stage, asleep⟩ | ⟨cut, stage⟩ := still.stage
    · rw [stage] at holds
      contradiction
    · exact full_of_asleep fits sound wakes asleep (still.waiting.trans (by rw [stage]; rfl))
    · rw [stage] at holds
      contradiction
  · rw [stage] at holds
    contradiction

/-- **In no state a slot has idled.** -/
theorem greedy_of_passes (allow : rules.Allow listener) (punctual : threads.Punctual)
    (orderly : ¬ rules.overtakes) {feed : Feed} (free : rules.Unhindered lasts feed)
    (passes : Passes threads listener rules.launch feed (initial rules.ledger {}) p) :
    p.timetable.Greedy (rules.basis lasts feed.batches.length False) ∧ p.Tidy ∧
      p.stage.Prompt := by
  have turns : threads.overtakes = true → rules.overtakes := fun overtakes =>
    absurd (punctual.orderly.symm.trans overtakes) Bool.false_ne_true
  refine passes.invariant (fun p =>
    p.timetable.Greedy (rules.basis lasts feed.batches.length False) ∧ p.Tidy ∧
      p.stage.Prompt) ?_ ?_
  · exact ⟨Timetable.greedy_initial _, ⟨.nil, fun _ mem => absurd mem List.not_mem_nil⟩,
      free.prompt⟩
  · rintro p q passed ⟨greedy, tidy, prompt⟩ step
    have fits := (moves_of_passes allow turns (.inl rfl) passed).2
    have sound := sound_of_passes allow turns (.inl rfl) passed
    obtain ⟨moves, tidy, prompt⟩ := timed_of_step punctual orderly fits sound
      (wakes_of_passes rfl passed) free.loyal (free.going sound) free.lasts tidy prompt step
    exact ⟨greedy.of_moves moves, tidy, prompt⟩

end Pool

end BatchExec
