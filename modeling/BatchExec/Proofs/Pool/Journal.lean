import BatchExec.Proofs.Journal
import BatchExec.Proofs.Pool.Run

/-!
# The journal of a blocking run

A launch that ends lands: its slot comes back, its result is told to the receiver of events at once,
and an error of the receiver breaks the run just as a fault of the launch does.

* `Pool.journal`: what has come of the launches.
* `Pool.journal_finish`: the end of a launch is a landing.
* `Pool.journal_of_step`: **a step is a chain of moves of the journal.**
-/

namespace BatchExec

/-- What is told to a receiver of events of a result, and what that brings about. -/
theorem Ledger.tell_some (l : Ledger) (react : Event → Reaction) (x : Result) (e : Event)
    (made : e = ⟨x, l.completed.length, l.active⟩) :
    (l.tell (some react) x).2 = .delivered e :: ((if (react e).cancels then [.cancelled] else []) ++
        ((react e).raises.map Fault.callbackFailed).toList.map .faulted) ∧
      (l.tell (some react) x).1.completed = l.completed ∧
      (l.tell (some react) x).1.fault = l.fault.or ((react e).raises.map .callbackFailed) := by
  cases cancels : (react e).cancels <;> cases raised : (react e).raises <;>
    cases broken : l.fault <;>
    simp [tell, fail, cancel, ← made, cancels, raised, broken]

namespace Pool

variable (launch : Launcher)

/-- What has come of the launches of a blocking run. -/
def journal (p : Pool) : Journal :=
  .ofHistory launch p.history p.flights p.ledger.completed p.ledger.fault []

/-- What the journal of a blocking run goes by: an error of the receiver of events breaks the run.
-/
def terms (rules : Rules) (listener : Listener) : Terms := ⟨rules.bound, listener, listener⟩

theorem history_note (p : Pool) (happenings : List Happening) :
    (p.note happenings).history = p.history ++ happenings.map (⟨p.now, ·⟩) := by
  simp [history, note]

theorem journal_book (p : Pool) (outcome : Ledger × List Happening) :
    (p.book outcome).journal launch =
      .ofHistory launch (p.history ++ outcome.2.map (⟨p.now, ·⟩)) p.flights outcome.1.completed
        outcome.1.fault [] := by
  rw [journal, book, history_note]
  rfl

theorem journal_note (p : Pool) {happenings : List Happening}
    (mute : ∀ e ∈ happenings, e.isMute = true) :
    (p.note happenings).journal launch = p.journal launch := by
  rw [journal, history_note]
  exact Journal.ofHistory_mute mute p.now

theorem journal_cancel (p : Pool) : p.cancel.journal launch = p.journal launch :=
  journal_note launch { p with ledger := p.ledger.cancel } (by simp [Happening.isMute])

/-! ## Landings -/

variable (rules : Rules) (listener : Listener)

/-- The receiver is told of a result; what it does may break the run. -/
theorem journal_tell (h : History) (now : Nat) (running : Multiset Flight) (l : Ledger) (x : Result)
    (e : Event) (made : e = ⟨x, l.completed.length, l.active⟩) (complaint : Option Fault)
    (raised : complaint =
      listener.bind fun react => (react e).raises.map Fault.callbackFailed) :
    Journal.ofHistory launch (h ++ (l.tell listener x).2.map (⟨now, ·⟩)) running
        (l.tell listener x).1.completed (l.tell listener x).1.fault [] =
      { Journal.ofHistory launch h running l.completed (l.fault.or complaint)
          (if listener.isSome then some e else none).toList with
        faults := (Journal.ofHistory launch h running l.completed (l.fault.or complaint)
          (if listener.isSome then some e else none).toList).faults ++ complaint.toList } := by
  cases heard : listener with
  | none =>
    rw [raised, heard]
    simp [Ledger.tell, Journal.ofHistory]
  | some react =>
    obtain ⟨notes, completed, fault⟩ := l.tell_some react x e made
    have mute : ∀ y ∈ (if (react e).cancels then [Happening.cancelled] else []),
        y.isMute = true := by
      split <;> simp [Happening.isMute]
    rw [notes, completed, fault, List.map_cons, List.append_cons, List.map_append,
      ← List.append_assoc]
    rw [heard] at raised
    change complaint = (react e).raises.map _ at raised
    rw [← raised]
    cases complaint with
    | none =>
      rw [Option.toList_none, List.map_nil, List.map_nil, List.append_nil,
        Journal.ofHistory_mute mute, Journal.ofHistory_delivered]
      simp [Journal.ofHistory]
    | some f =>
      rw [Option.toList_some, List.map_singleton, List.map_singleton, Journal.ofHistory_faulted,
        Journal.ofHistory_mute mute, Journal.ofHistory_delivered]
      rfl

/-- The slot of a launch that has ended comes back, and what the launch came to is told. -/
theorem journal_release (p : Pool) (f : Flight) (held : 0 < p.ledger.active) :
    (p.book (p.ledger.release listener f.batch f.plan.ending)).journal launch =
      { (p.journal launch).land (terms rules listener)
          ((p.journal launch).landing f (p.ledger.active - 1)) p.flights with
        landed := (p.journal launch).landed } := by
  obtain ⟨l, landing⟩ : ∃ l, l = (p.journal launch).landing f (p.ledger.active - 1) := ⟨_, rfl⟩
  have own : l.flight = f := by rw [landing]; rfl
  rw [← landing, journal_book, Ledger.release_eq p.ledger held]
  cases result : f.result? with
  | none =>
    obtain ⟨flaw, flawed⟩ : ∃ flaw, f.flaw? = some flaw := by
      rw [← Option.isSome_iff_exists]
      by_contra fine
      have brings := f.result?_isSome_iff.mpr (Option.not_isSome_iff_eq_none.mp fine)
      rw [result] at brings
      exact Bool.false_ne_true brings
    have silent : l.told? listener = none := by simp [Landing.told?, Landing.event?, own, result]
    have broken : l.fault? listener = some flaw := by simp [Landing.fault?, own, flawed]
    show Journal.ofHistory launch (p.history ++ (f.flaw?.toList.map Happening.faulted).map _) _
      (p.ledger.completed ++ f.result?.toList) (p.ledger.fault.or f.flaw?) [] = _
    rw [flawed, Option.toList_some, List.map_singleton, List.map_singleton,
      Journal.ofHistory_faulted]
    simp only [Journal.land, terms, silent, broken, own, Option.toList_none, List.append_nil]
    rfl
  | some x =>
    have told : l.event? = some ⟨x, (p.ledger.completed ++ [x]).length, p.ledger.active - 1⟩ := by
      simp [Landing.event?, landing, Journal.landing, journal, Journal.ofHistory, result]
    obtain ⟨e, made⟩ : ∃ e : Event,
      e = ⟨x, (p.ledger.completed ++ [x]).length, p.ledger.active - 1⟩ := ⟨_, rfl⟩
    rw [← made] at told
    have fine : f.flaw? = none := f.result?_isSome_iff.mp (by rw [result]; rfl)
    have settled : (p.ledger.settle f).completed = p.ledger.completed ++ [x] := by
      simp [Ledger.settle, result]
    have complaint : l.fault? listener =
        listener.bind fun react => (react e).raises.map Fault.callbackFailed := by
      simp only [Landing.fault?, Landing.protest?, own, fine, told, Option.none_or,
        Option.bind_some]
      cases listener <;> rfl
    have mute : ∀ e ∈ p.ledger.stopping x, e.isMute = true := Journal.mute_recorded x _
    show Journal.ofHistory launch (p.history ++ (p.ledger.stopping x ++
      ((p.ledger.settle f).tell listener x).2).map _) _ _ _ [] = _
    rw [List.map_append, ← List.append_assoc,
      journal_tell launch listener _ _ _ _ _ e (by rw [settled, made]; rfl) _ complaint,
      Journal.ofHistory_mute mute]
    have same : (p.ledger.settle f).fault = p.ledger.fault := by simp [Ledger.settle, fine]
    rw [settled, same]
    simp only [Journal.land, Journal.ofHistory, journal, terms, own, Landing.told?, told, result,
      List.append_nil, Option.toList_some]

/-- **The end of a launch is a landing.** -/
theorem journal_finish (p : Pool) (f : Flight) (held : 0 < p.ledger.active) :
    (finish listener p f.batch f.plan).journal launch =
      (p.journal launch).land (terms rules listener)
        ((p.journal launch).landing f (p.ledger.active - 1)) p.flights := by
  obtain ⟨noted, hnoted⟩ : ∃ noted,
    noted = p.note (.ended f.batch :: f.plan.closing.map .remarked) := ⟨_, rfl⟩
  have ended : noted.journal launch =
      { p.journal launch with landed := (p.journal launch).landed ++ [f.batch] } := by
    rw [hnoted, journal, history_note]
    exact Journal.ofHistory_ended p.now f.batch f.plan.closing
  have active : noted.ledger.active = p.ledger.active := by rw [hnoted]; rfl
  have flights : noted.flights = p.flights := by rw [hnoted]; rfl
  have released (q : Pool) (same : q.journal launch = noted.journal launch)
      (busy : q.ledger.active = noted.ledger.active) (fly : q.flights = noted.flights) :
      (q.book (q.ledger.release listener f.batch f.plan.ending)).journal launch =
        (p.journal launch).land (terms rules listener)
          ((p.journal launch).landing f (p.ledger.active - 1)) p.flights := by
    rw [journal_release launch rules listener q f (by rw [busy, active]; exact held), same, busy,
      fly, ended, active, flights]
    rfl
  unfold finish
  dsimp only
  rw [← hnoted]
  split
  · exact released noted.cancel (journal_cancel launch noted) rfl rfl
  · exact released noted rfl rfl rfl

/-! ## Steps -/

variable {rules : Rules} {listener : Listener} {threads : Threads} {all : List Batch} {p q : Pool}

/-- A launch that is active lands. -/
theorem moves_land (sound : p.roster.Sound rules all) {j : Journal} {f : Flight}
    {rest : Multiset Flight} (aloft : j.running = f ::ₘ rest) (held : 0 < p.ledger.active) :
    Journal.Moves (terms rules listener) j
      (j.land (terms rules listener) (j.landing f (p.ledger.active - 1)) rest) := by
  obtain ⟨natural, room⟩ := sound.room held
  exact .single (.land j f _ rest aloft natural room)

/-- What is due is done. -/
theorem journal_perform {before after : List Due} {due : Due}
    (listed : p.due = before ++ due :: after) (sound : p.roster.Sound rules all) :
    Journal.Moves (terms rules listener) (p.journal launch)
      ((perform listener { p with due := before ++ after } due).journal launch) := by
  have flights := flights_split listed
  obtain ⟨q, hq⟩ : ∃ q : Pool, q = { p with due := before ++ after } := ⟨_, rfl⟩
  have same : p.journal launch =
      { q.journal launch with running := (due.flight?.toList : Multiset Flight) + q.flights } := by
    rw [journal, flights, hq]
    rfl
  rw [← hq]
  cases due with
  | cancel =>
    rw [Due.flight?, Option.toList_none, Multiset.coe_nil, Multiset.zero_add] at same
    rw [same]
    exact (journal_cancel launch q).symm ▸ .refl
  | finish b plan =>
    rw [Due.flight?, Option.toList_some, Multiset.coe_singleton, Multiset.singleton_add]
      at same flights
    have aloft : (p.journal launch).running = (⟨b, plan⟩ : Flight) ::ₘ q.flights := by rw [same]
    have held : 0 < p.ledger.active := by
      refine sound.active_pos_of_running (f := ⟨b, plan⟩) ?_
      show _ ∈ p.flights
      rw [flights]
      exact Multiset.mem_cons_self _ _
    have landed : Journal.Moves (terms rules listener) (p.journal launch) _ :=
      moves_land sound aloft held
    show Journal.Moves _ _ ((finish listener q b plan).journal launch)
    rw [journal_finish launch rules listener q ⟨b, plan⟩ (by rw [hq]; exact held)]
    convert landed using 1
    rw [same, hq]
    rfl

theorem journal_heed (p : Pool) (signal : Nat) :
    (p.heed signal).journal launch = p.journal launch := by
  unfold heed
  split
  · rw [journal_cancel, journal_note launch p (by simp [Happening.isMute])]
  · rfl

/-- A launch starts. -/
theorem journal_start (b : Batch) (ordinal : p.launched = p.history.starts.length) :
    (start launch p b).journal launch =
      (p.journal launch).start ⟨b, launch p.launched p.now b⟩ := by
  obtain ⟨f, hf⟩ : ∃ f : Flight, f = ⟨b, launch p.launched p.now b⟩ := ⟨_, rfl⟩
  have planned : f.plan = launch p.history.starts.length p.now f.batch := by rw [hf, ← ordinal]
  obtain ⟨begun, hbegun⟩ : ∃ begun, begun = p.began f.batch f.plan := ⟨_, rfl⟩
  have flies : start launch p b = begun.takeOff f.batch f.plan := by
    rw [hbegun, hf]
    rfl
  have books : (begun.takeOff f.batch f.plan).history = begun.history ∧
      (begun.takeOff f.batch f.plan).ledger = begun.ledger := by
    unfold takeOff
    split <;> exact ⟨rfl, rfl⟩
  have history : begun.history = p.history ++ (Happening.started f.batch ::
      f.plan.opening.map Happening.remarked ++
        f.plan.attempt.toList.map Happening.attempted).map (⟨p.now, ·⟩) := by
    rw [hbegun]
    exact history_note p _
  have ledger : begun.ledger = p.ledger := by rw [hbegun]; rfl
  have flights : begun.flights = p.flights := by rw [hbegun]; rfl
  rw [flies, journal, flights_takeOff, books.1, books.2, history, ledger, flights, ← hf]
  exact Journal.ofHistory_started p.now f planned

/-- **A step is a chain of moves of the journal.** -/
theorem journal_of_step (sound : p.roster.Sound rules all)
    (calm : p.ledger.cancelled = false → p.history.faults = [])
    (step : Step threads listener rules.launch p q) :
    Journal.Moves (terms rules listener) (p.journal rules.launch) (q.journal rules.launch) := by
  have still {q : Pool} (same : q.journal rules.launch = p.journal rules.launch) :
      Journal.Moves (terms rules listener) (p.journal rules.launch)
        (q.journal rules.launch) := by
    rw [same]
  have noted (q : Pool) (e : Happening) (mute : e.isMute = true) :
      (q.note [e]).journal rules.launch = q.journal rules.launch :=
    journal_note rules.launch q (by simpa using mute)
  cases step with
  | perform before due after listed => exact journal_perform rules.launch listed sound
  | start before b after waits turn =>
    have started := journal_start rules.launch (p := { p with taken := before ++ after }) b
      sound.started
    rw [started]
    exact .single (.start (p.journal rules.launch) _)
  | takeUp | doze => exact .refl
  | heed signal rest => exact still (journal_heed rules.launch { p with signals := rest } signal)
  | close | ask => exact still (noted p .requested rfl)
  | fetch item left =>
    exact still ((noted (p.note [.requested]) (.received item.batch) rfl).trans
      (noted p .requested rfl))
  | accept b left stage awake handled goes =>
    refine still ?_
    show (p.book _).journal rules.launch = _
    rw [journal_book]
    exact Journal.ofHistory_admitted (calm goes) p.now b _
  | refuse b => exact still (noted p (.refused b) rfl)
  | submit b left => exact still (noted p (.submitted b) rfl)
  | expire t rest next =>
    have flights := flights_expire next
    refine still ?_
    rw [journal, flights]
    rfl
  | arrive time item =>
    exact still (noted { p with now := max p.now time } (.received item.batch) rfl)

/-! ## Whole runs -/

variable {feed : Feed} {interruption : Interruption}

theorem tells_initial :
    ((initial rules.ledger interruption).journal launch).Tells (terms rules listener) [] := by
  have blank : (initial rules.ledger interruption).journal launch =
      .ofHistory launch [] 0 [] none [] := by
    cases early : interruption.beforehand <;> cases timed : interruption.time <;>
      simp only [journal, initial, early, timed] <;> rfl
  rw [blank]
  exact ⟨rfl, rfl, rfl, rfl, rfl, rfl, rfl, rfl, rfl, fun l mem => absurd mem List.not_mem_nil⟩

/-- **In every state the journal tells of the launches that have landed.** -/
theorem tells_of_passes (allow : rules.Allow listener)
    (turns : threads.overtakes = true → rules.overtakes)
    (may : interruption = {} ∨ rules.cancels)
    (passes : Passes threads listener rules.launch feed (initial rules.ledger interruption) p) :
    ∃ landings, (p.journal rules.launch).Tells (terms rules listener) landings := by
  refine passes.invariant
    (fun p => ∃ landings, (p.journal rules.launch).Tells (terms rules listener) landings)
    ⟨[], tells_initial rules.launch⟩ ?_
  rintro p q passed ⟨landings, tells⟩ step
  have sound := sound_of_passes allow turns may passed
  have calm (goes : p.ledger.cancelled = false) : p.history.faults = [] :=
    tells.faults_eq_nil (Roster.whole_of_going (moves_of_passes allow turns may passed).1 goes)
  obtain ⟨more, tells'⟩ := tells.of_moves (journal_of_step sound calm step)
  exact ⟨landings ++ more, tells'⟩

end Pool

end BatchExec
