import BatchExec.Proofs.Demand
import BatchExec.Proofs.Pool.Journal

/-!
# The demand of a blocking run

The controller of a blocking run asks for the next batch when it has handed over the last one.
Whatever the workers do meanwhile, nobody else asks for a batch or gives one a slot.

* `Pool.Leads`: nothing has happened but what follows once launches have started.
* `Pool.Stage.owed`: how many batches the controller has asked for that have got no slot.
* `Pool.inStep_of_passes`: **in every state the demand is in step with the slots.**
* `Pool.history_of_step`: **what one step adds to the history.**
* `Pool.exists_step`: what has happened has happened in some step.
* `Pool.exists_advance`: **a batch moves on in a state in which it may.**
* `Pool.submitted_of_passes`: **batches are handed over in the order in which they get slots.**
-/

namespace BatchExec

/-- News follows once a launch has started. -/
theorem Happening.isAftermath_of_news {e : Happening} (news : e.isNews = true) :
    e.isAftermath = true := by
  cases e <;> first | rfl | exact absurd news Bool.false_ne_true

/-- The batch that is handed to the workers. -/
def Entry.handover? (e : Entry) : Option Batch :=
  match e.what with
  | .submitted b => some b
  | _ => none

/-- The batches that have been handed to the workers, in order. -/
def History.submitted (h : History) : List Batch := h.filterMap Entry.handover?

theorem History.submitted_append (h h' : History) :
    (h ++ h').submitted = h.submitted ++ h'.submitted :=
  List.filterMap_append

/-- Whether a batch moves on: it gets a slot, it is handed to the workers, or its launch starts. -/
def Happening.isAdvance : Happening → Bool
  | .admitted _ _ | .submitted _ | .started _ => true
  | _ => false

theorem Happening.isAdvance_of_isAftermath {e : Happening} (aftermath : e.isAftermath = true) :
    e.isAdvance = false := by
  cases e <;> first | rfl | exact absurd aftermath Bool.false_ne_true

namespace Pool

variable {threads : Threads} {listener : Listener} {launch : Launcher} {p q r : Pool}

/-- From one state to another nothing has happened but what follows once launches have started. -/
def Leads (p q : Pool) : Prop :=
  ∃ more : History, q.history = p.history ++ more ∧ ∀ e ∈ more, e.what.isAftermath = true

theorem Leads.refl (p : Pool) : p.Leads p :=
  ⟨[], (List.append_nil _).symm, fun _ mem => absurd mem List.not_mem_nil⟩

theorem Leads.trans (first : p.Leads q) (second : q.Leads r) : p.Leads r := by
  obtain ⟨more, grown, aftermath⟩ := first
  obtain ⟨more', grown', aftermath'⟩ := second
  refine ⟨more ++ more', by rw [grown', grown, List.append_assoc], fun e mem => ?_⟩
  exact (List.mem_append.mp mem).elim (aftermath e) (aftermath' e)

theorem leads_note (p : Pool) {happenings : List Happening}
    (aftermath : ∀ e ∈ happenings, e.isAftermath = true) : p.Leads (p.note happenings) := by
  refine ⟨_, history_note p happenings, fun entry mem => ?_⟩
  obtain ⟨e, listed, rfl⟩ := List.mem_map.mp mem
  exact aftermath e listed

theorem leads_cancel (p : Pool) : p.Leads p.cancel :=
  leads_note { p with ledger := p.ledger.cancel } (by simp [Happening.isAftermath])

theorem leads_finish (p : Pool) (b : Batch) (plan : Plan) : p.Leads (finish listener p b plan) := by
  have ended : p.Leads (p.note (.ended b :: plan.closing.map .remarked)) := by
    refine leads_note p fun e mem => ?_
    simp only [List.mem_cons, List.mem_map] at mem
    rcases mem with rfl | ⟨remark, -, rfl⟩ <;> rfl
  have released (q : Pool) : q.Leads (q.book (q.ledger.release listener b plan.ending)) :=
    leads_note { q with ledger := _ } fun e mem =>
      Happening.isAftermath_of_news (q.ledger.news_release listener b _ e mem)
  unfold finish
  dsimp only
  split
  · exact (ended.trans (leads_cancel _)).trans (released _)
  · exact ended.trans (released _)

theorem leads_perform (p : Pool) (due : Due) : p.Leads (perform listener p due) := by
  cases due with
  | cancel => exact leads_cancel p
  | finish b plan => exact leads_finish p b plan

theorem leads_heed (p : Pool) (signal : Nat) : p.Leads (p.heed signal) := by
  unfold heed
  split
  · exact (leads_note p (by simp [Happening.isAftermath])).trans (leads_cancel _)
  · exact .refl p

/-- A launch starts: what it writes and tries follows. -/
theorem history_start (launch : Launcher) (p : Pool) (b : Batch) :
    (start launch p b).history = p.history ++ (Happening.started b ::
      (launch p.launched p.now b).opening.map Happening.remarked ++
        (launch p.launched p.now b).attempt.toList.map Happening.attempted).map (⟨p.now, ·⟩) := by
  rw [← history_note]
  unfold start takeOff
  dsimp only
  split <;> rfl

theorem leads_start (launch : Launcher) (p : Pool) (b : Batch) :
    (p.note [.started b]).Leads (start launch p b) := by
  refine ⟨((launch p.launched p.now b).opening.map Happening.remarked ++
    (launch p.launched p.now b).attempt.toList.map Happening.attempted).map (⟨p.now, ·⟩), ?_, ?_⟩
  · rw [history_start, history_note, List.append_assoc]
    rfl
  · intro entry mem
    obtain ⟨e, listed, rfl⟩ := List.mem_map.mp mem
    rcases List.mem_append.mp listed with written | tried
    · obtain ⟨remark, -, rfl⟩ := List.mem_map.mp written
      rfl
    · obtain ⟨attempt, -, rfl⟩ := List.mem_map.mp tried
      rfl

/-! ## Demand -/

/-- How many batches the controller has asked for that have got no slot. -/
def Stage.owed : Stage → Nat
  | .asking _ | .submitting _ _ => 0
  | .pulling _ _ _ | .holding _ _ | .closing _ => 1

variable {owed : Nat}

/-- So many batches have been asked for that have got no slot, and at no time before more than one.
-/
def InStep (p : Pool) (owed : Nat) : Prop := p.history.InStep owed

/-- What follows once launches have started changes no demand. -/
theorem InStep.lead (inStep : p.InStep owed) (leads : p.Leads q) : q.InStep owed := by
  obtain ⟨more, grown, aftermath⟩ := leads
  rw [InStep, grown]
  exact History.InStep.append inStep fun e mem =>
    Happening.isDemand_of_isAftermath (aftermath e mem)

theorem InStep.note (inStep : p.InStep owed) {happenings : List Happening}
    (idle : ∀ e ∈ happenings, e.isDemand = false) : (p.note happenings).InStep owed := by
  rw [InStep, history_note]
  exact inStep.notes idle p.now

/-- **A step keeps the demand in step with the slots.** -/
theorem inStep_of_step (inStep : p.InStep p.stage.owed)
    (step : Step threads listener launch p q) : q.InStep q.stage.owed := by
  have here {stage : Stage} (set : p.stage = stage) : p.InStep stage.owed := set ▸ inStep
  have asked (before : p.InStep 0) : (p.note [.requested]).InStep 1 := by
    rw [InStep, history_note]
    exact History.InStep.request before p.now
  have noted (q : Pool) {owed : Nat} (before : q.InStep owed) (e : Happening)
      (idle : e.isDemand = false) : (q.note [e]).InStep owed := before.note (by simpa using idle)
  cases step with
  | perform before due after =>
    obtain ⟨ledger, past, same⟩ := perform_same listener { p with due := before ++ after } due
    have led : (perform listener { p with due := before ++ after } due).InStep p.stage.owed :=
      InStep.lead (p := { p with due := before ++ after }) inStep (leads_perform _ due)
    rw [same] at led ⊢
    exact led
  | start before b after =>
    have led := (noted { p with taken := before ++ after } inStep (.started b) rfl).lead
      (leads_start launch _ b)
    rwa [stage_start]
  | heed signal rest =>
    obtain ⟨ledger, past, same⟩ := heed_same { p with signals := rest } signal
    have led := inStep.lead (leads_heed { p with signals := rest } signal)
    rw [same] at led ⊢
    exact led
  | takeUp | doze | expire => exact inStep
  | close stage | ask item left stage => exact asked (here stage)
  | fetch item left stage =>
    exact noted (p.note [.requested]) (asked (here stage)) (.received item.batch) rfl
  | accept b left stage =>
    show History.InStep (p.book _).history 0
    rw [book, history_note]
    exact History.InStep.accept (here stage) p.now b _
  | refuse b left stage => exact noted p (here stage) (.refused b) rfl
  | submit b left stage => exact noted p (here stage) (.submitted b) rfl
  | arrive time item left stage =>
    exact noted { p with now := max p.now time } (here stage) (.received item.batch) rfl

variable {feed : Feed} {interruption : Interruption} {ledger : Ledger}

theorem history_initial (ledger : Ledger) (interruption : Interruption) :
    (initial ledger interruption).history =
      if interruption.beforehand then [⟨0, .cancelled⟩] else [] := by
  unfold initial
  dsimp only
  split <;> rfl

/-- **In every state the demand is in step with the slots.** -/
theorem inStep_of_passes
    (passes : Passes threads listener launch feed (initial ledger interruption) p) :
    p.InStep p.stage.owed := by
  refine passes.invariant (fun p => p.InStep p.stage.owed) ?_ fun _ inStep => inStep_of_step inStep
  show History.InStep (initial ledger interruption).history 0
  rw [history_initial]
  split
  · exact History.InStep.append History.inStep_nil (by simp [Happening.isDemand])
  · exact History.inStep_nil

/-! ## What happens in a step -/

/-- What may move a batch on next. -/
inductive Advances (p : Pool) : Happening → Prop where
  | accept (b : Batch) (left : List FeedItem) (stage : p.stage = .holding b left)
      (goes : p.ledger.cancelled = false) (room : p.ledger.full = false)
      (handled : p.signals = []) : Advances p (.admitted b (p.ledger.active + 1))
  | submit (b : Batch) (left : List FeedItem) (stage : p.stage = .submitting b left) :
      Advances p (.submitted b)
  | start (b : Batch) (taken : b ∈ p.taken) : Advances p (.started b)

/-- What one step from a state may add to the history: at most one batch moves on. -/
inductive Brings (p : Pool) : History → Prop where
  | idle (more : History) (idle : ∀ e ∈ more, e.what.isAdvance = false) : Brings p more
  | advance (x : Entry) (rest : History) (moves : p.Advances x.what)
      (idle : ∀ e ∈ rest, e.what.isAdvance = false) : Brings p (x :: rest)

/-- **What one step adds to the history.** -/
theorem history_of_step (step : Step threads listener launch p q) :
    ∃ more, q.history = p.history ++ more ∧ p.Brings more := by
  have leads {p' : Pool} (led : p'.Leads q) (same : p'.history = p.history) :
      ∃ more, q.history = p.history ++ more ∧ p.Brings more := by
    obtain ⟨more, grown, aftermath⟩ := led
    exact ⟨more, same ▸ grown, .idle more fun e mem =>
      Happening.isAdvance_of_isAftermath (aftermath e mem)⟩
  have noted (p' : Pool) (happenings : List Happening) (same : p'.history = p.history)
      (idle : ∀ e ∈ happenings, e.isAdvance = false) :
      ∃ more, (p'.note happenings).history = p.history ++ more ∧ p.Brings more :=
    ⟨_, same ▸ history_note p' happenings, .idle _ (by simpa using idle)⟩
  have moved (p' : Pool) {e : Happening} (same : p'.history = p.history) (moves : p.Advances e) :
      ∃ more, (p'.note [e]).history = p.history ++ more ∧ p.Brings more :=
    ⟨_, same ▸ history_note p' [e], .advance _ [] moves (List.forall_mem_nil _)⟩
  cases step with
  | perform before due after => exact leads (leads_perform { p with due := _ } due) rfl
  | start before b after waits =>
    obtain ⟨rest, grown, aftermath⟩ := leads_start launch { p with taken := before ++ after } b
    refine ⟨⟨p.now, .started b⟩ :: rest, ?_, .advance _ rest (.start b (by simp [waits]))
      fun e mem => Happening.isAdvance_of_isAftermath (aftermath e mem)⟩
    rw [grown, history_note, List.append_assoc]
    rfl
  | heed signal rest => exact leads (leads_heed { p with signals := rest } signal) rfl
  | takeUp | doze | expire => exact leads (.refl p) rfl
  | close | ask => exact noted p [.requested] rfl (by simp [Happening.isAdvance])
  | refuse b => exact noted p [.refused b] rfl (by simp [Happening.isAdvance])
  | fetch item =>
    exact noted p [.requested, .received item.batch] rfl (by simp [Happening.isAdvance])
  | accept b left stage awake handled goes room =>
    exact moved { p with ledger := _ } rfl (.accept b left stage goes room handled)
  | submit b left stage => exact moved p rfl (.submit b left stage)
  | arrive time item =>
    exact noted { p with now := _ } [.received item.batch] rfl (by simp [Happening.isAdvance])

/-- What moves a batch on comes before anything else that the step brings. -/
theorem Brings.advances {first rest : History} {x : Entry} (brings : p.Brings (first ++ x :: rest))
    (moves : x.what.isAdvance = true) : first = [] ∧ p.Advances x.what := by
  generalize all : first ++ x :: rest = more at brings
  have other {more : History} (idle : ∀ e ∈ more, e.what.isAdvance = false) : x ∉ more :=
    fun mem => absurd ((idle x mem).symm.trans moves) Bool.false_ne_true
  cases brings with
  | idle more idle => exact absurd (all ▸ by simp) (other idle)
  | advance y later advances idle =>
    cases first with
    | nil =>
      obtain ⟨rfl, -⟩ := List.cons.inj all
      exact ⟨rfl, advances⟩
    | cons z first =>
      obtain ⟨-, rfl⟩ := List.cons.inj all
      exact absurd (by simp) (other idle)

theorem admitted_of_idle {more : History} (idle : ∀ e ∈ more, e.what.isAdvance = false) :
    more.admitted = [] := by
  refine List.filterMap_eq_nil_iff.mpr fun e mem => ?_
  have still := idle e mem
  obtain ⟨time, what⟩ := e
  cases what <;> first | rfl | exact absurd still.symm Bool.false_ne_true

/-- **What has happened in a run has happened in some step**, unless it has happened before the run.
-/
theorem exists_step
    (passes : Passes threads listener launch feed (initial ledger interruption) p)
    {before after : History} {x : Entry} (split : p.history = before ++ x :: after)
    (late : x.what ≠ .cancelled) :
    ∃ m n first rest, Passes threads listener launch feed (initial ledger interruption) m ∧
      next? threads listener launch m = some n ∧ Before threads listener launch n p ∧
      before = m.history ++ first ∧ n.history = m.history ++ (first ++ x :: rest) ∧
      m.Brings (first ++ x :: rest) := by
  have early : ¬ (before ++ [x]) <+: (initial ledger interruption).history := by
    intro upTo
    have mem := upTo.subset (List.mem_append_right before (List.mem_singleton_self x))
    rw [history_initial] at mem
    split at mem
    · exact late (congrArg Entry.what (List.mem_singleton.mp mem))
    · exact absurd mem List.not_mem_nil
  obtain ⟨m, n, first, rest, reached, next, later, here, grown⟩ :=
    Chain.exists_entry history
      (fun _ next _ => (history_of_step (step_of_next? next)).imp fun _ step => step.1.symm)
      passes split early
  obtain ⟨more, grown', brings⟩ := history_of_step (step_of_next? next)
  obtain rfl := List.append_cancel_left (grown'.symm.trans grown)
  exact ⟨m, n, first, rest, reached, next, later, here, grown, brings⟩

/-- **A batch moves on in a state in which it may**: it gets a slot when one is free and the run
goes on, it is handed over when it has a slot, and its launch starts when it has been taken up. -/
theorem exists_advance
    (passes : Passes threads listener launch feed (initial ledger interruption) p)
    {before after : History} {x : Entry} (split : p.history = before ++ x :: after)
    (moves : x.what.isAdvance = true) :
    ∃ m, Passes threads listener launch feed (initial ledger interruption) m ∧
      Before threads listener launch m p ∧ m.history = before ∧ m.Advances x.what := by
  have late : x.what ≠ .cancelled := by
    rintro same
    rw [same] at moves
    exact Bool.false_ne_true moves
  obtain ⟨m, n, first, rest, reached, next, later, here, -, brings⟩ := exists_step passes split late
  obtain ⟨rfl, advances⟩ := brings.advances moves
  exact ⟨m, reached, .head next later, by rw [here, List.append_nil], advances⟩

/-! ## Batches are handed over -/

/-- The batches that have been handed over, and the one that is about to be, are those that have got
slots. -/
def Hands (p : Pool) : Prop := p.history.submitted ++ p.stage.waiting = p.history.admitted

theorem Hands.grow (hands : p.Hands) {more : History} (grown : q.history = p.history ++ more)
    (fits : more.submitted ++ q.stage.waiting = p.stage.waiting ++ History.admitted more) :
    q.Hands := by
  unfold Hands at hands ⊢
  rw [grown, History.submitted_append, History.admitted_append, List.append_assoc, fits, ← hands,
    List.append_assoc]

/-- What follows once launches have started hands nothing over. -/
theorem Hands.lead (hands : p.Hands) (leads : p.Leads q) (same : q.stage = p.stage) :
    q.Hands := by
  obtain ⟨more, grown, aftermath⟩ := leads
  have none : more.submitted = [] ∧ History.admitted more = [] := by
    refine ⟨List.filterMap_eq_nil_iff.mpr fun e mem => ?_,
      List.filterMap_eq_nil_iff.mpr fun e mem => ?_⟩ <;>
    · have late := aftermath e mem
      obtain ⟨time, what⟩ := e
      cases what <;> first | rfl | exact absurd late Bool.false_ne_true
  exact hands.grow grown (by rw [none.1, none.2, same, List.append_nil]; rfl)

theorem hands_of_step (hands : p.Hands) (step : Step threads listener launch p q) : q.Hands := by
  cases step with
  | perform before due after =>
    obtain ⟨ledger, past, same⟩ := perform_same listener { p with due := before ++ after } due
    exact Hands.lead (p := { p with due := before ++ after }) hands (leads_perform _ due)
      (by rw [same])
  | start before b after =>
    have started : ({ p with taken := before ++ after }.note [.started b]).Hands :=
      hands.grow (history_note { p with taken := _ } [.started b]) (List.append_nil _).symm
    exact started.lead (leads_start launch _ b) (stage_start launch _ b)
  | heed signal rest =>
    obtain ⟨ledger, past, same⟩ := heed_same { p with signals := rest } signal
    exact Hands.lead (p := { p with signals := rest }) hands (leads_heed _ signal) (by rw [same])
  | takeUp | doze | expire => exact hands
  | close stage | ask item left stage =>
    exact hands.grow (history_note p [.requested]) (by rw [stage]; rfl)
  | refuse b left stage => exact hands.grow (history_note p [.refused b]) (by rw [stage]; rfl)
  | fetch item left stage =>
    exact hands.grow (history_note p [.requested, .received item.batch]) (by rw [stage]; rfl)
  | accept b left stage =>
    exact hands.grow (history_note { p with ledger := _ } [.admitted b _]) (by rw [stage]; rfl)
  | submit b left stage => exact hands.grow (history_note p [.submitted b]) (by rw [stage]; rfl)
  | arrive time item left stage =>
    exact hands.grow (history_note { p with now := _ } [.received item.batch])
      (by rw [stage]; rfl)

/-- **Batches are handed over in the order in which they get slots**, whichever thread goes on. -/
theorem submitted_of_passes
    (passes : Passes threads listener launch feed (initial ledger interruption) p) :
    p.history.submitted ++ p.stage.waiting = p.history.admitted := by
  refine passes.invariant Hands ?_ fun _ hands => hands_of_step hands
  show (initial ledger interruption).history.submitted ++ [] =
    (initial ledger interruption).history.admitted
  rw [history_initial]
  split <;> rfl

end Pool

end BatchExec
