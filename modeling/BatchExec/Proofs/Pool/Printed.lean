import BatchExec.Proofs.Pool.Demand

/-!
# The lines that a blocking run prints

Nothing but a launch prints lines. If launches print only as they start, each line of a run is one
that some launch prints as it starts.

* `Pool.printed_start`: a launch that starts prints its lines.
* `Pool.printed_of_step`: **a step prints nothing, or the lines of the launch that starts.**
* `Pool.opening_of_printed`: **every line that a run prints is one of a launch that starts.**
-/

namespace BatchExec

/-- The line that is printed, if it is one. -/
def Happening.line? : Happening → Option Text
  | .remarked remark => remark.line?
  | _ => none

theorem Happening.line?_of_news {e : Happening} (news : e.isNews = true) : e.line? = none := by
  cases e <;> first | rfl | exact absurd news Bool.false_ne_true

/-- The launches print nothing as they end. -/
def Launcher.EndsSilently (launch : Launcher) : Prop :=
  ∀ ordinal time b, ∀ remark ∈ (launch ordinal time b).closing, remark.line? = none

theorem History.printed_eq (h : History) : h.printed = h.filterMap (·.what.line?) := by
  unfold printed
  congr 1
  funext entry
  cases entry.what with
  | remarked remark => cases remark <;> rfl
  | _ => rfl

namespace Pool

variable {listener : Listener} {launch : Launcher}

theorem printed_note (p : Pool) (happenings : List Happening) :
    (p.note happenings).history.printed =
      p.history.printed ++ happenings.filterMap Happening.line? := by
  rw [history_note, History.printed_eq, History.printed_eq, List.filterMap_append,
    List.filterMap_map]
  rfl

theorem printed_of_silent (p : Pool) {happenings : List Happening}
    (silent : ∀ e ∈ happenings, e.line? = none) :
    (p.note happenings).history.printed = p.history.printed := by
  rw [printed_note, List.filterMap_eq_nil_iff.mpr silent, List.append_nil]

theorem printed_cancel (p : Pool) : p.cancel.history.printed = p.history.printed :=
  printed_of_silent { p with ledger := p.ledger.cancel } (by simp [Happening.line?])

theorem printed_heed (p : Pool) (signal : Nat) :
    (p.heed signal).history.printed = p.history.printed := by
  unfold heed
  split
  · rw [printed_cancel, printed_of_silent _ (by simp [Happening.line?, Remark.line?])]
  · rfl

theorem printed_finish (p : Pool) (b : Batch) {plan : Plan}
    (silent : ∀ remark ∈ plan.closing, remark.line? = none) :
    (finish listener p b plan).history.printed = p.history.printed := by
  have released (q : Pool) : (q.book (q.ledger.release listener b plan.ending)).history.printed =
      q.history.printed :=
    printed_of_silent { q with ledger := (q.ledger.release listener b plan.ending).1 } fun e mem =>
      Happening.line?_of_news (q.ledger.news_release listener b plan.ending e mem)
  have ended : (p.note (.ended b :: plan.closing.map .remarked)).history.printed =
      p.history.printed := by
    refine printed_of_silent p fun e mem => ?_
    simp only [List.mem_cons, List.mem_map] at mem
    rcases mem with rfl | ⟨remark, closing, rfl⟩
    · rfl
    · exact silent remark closing
  unfold finish
  dsimp only
  rw [released]
  split
  · rw [printed_cancel, ended]
  · exact ended

/-- A launch that starts prints its lines. -/
theorem printed_start (p : Pool) (b : Batch) :
    (start launch p b).history.printed = p.history.printed ++
      (launch p.launched p.now b).opening.filterMap Remark.line? := by
  have opened : ((launch p.launched p.now b).opening.map Happening.remarked).filterMap
      Happening.line? = (launch p.launched p.now b).opening.filterMap Remark.line? :=
    List.filterMap_map
  have tried : ((launch p.launched p.now b).attempt.toList.map Happening.attempted).filterMap
      Happening.line? = [] := by
    rw [List.filterMap_eq_nil_iff]
    simp [Happening.line?]
  rw [history_start, ← history_note, printed_note, List.cons_append, List.filterMap_cons,
    List.filterMap_append, opened, tried, List.append_nil]
  rfl

variable {threads : Threads} {p q : Pool} {rules : Rules} {all : List Batch}

/-- **A step prints nothing, or the lines of the launch that starts.** -/
theorem printed_of_step (silent : rules.launch.EndsSilently) (sound : p.roster.Sound rules all)
    (step : Step threads listener rules.launch p q) :
    q.history.printed = p.history.printed ∨
      ∃ b, q.history.printed = p.history.printed ++
        (rules.launch p.launched p.now b).opening.filterMap Remark.line? := by
  cases step with
  | perform before due after listed =>
    left
    cases due with
    | cancel => exact printed_cancel { p with due := before ++ after }
    | finish b plan =>
      have aloft : (⟨b, plan⟩ : Flight) ∈ p.roster.running := by
        show _ ∈ p.flights
        rw [flights_split listed]
        simp [Due.flight?]
      obtain ⟨ordinal, time, planned⟩ := sound.plan_of_mem aloft
      have planned : plan = rules.launch ordinal time b := planned
      exact printed_finish { p with due := before ++ after } b
        (planned ▸ silent ordinal time b)
  | start before b after => exact .inr ⟨b, printed_start { p with taken := before ++ after } b⟩
  | heed signal rest => exact .inl (printed_heed { p with signals := rest } signal)
  | takeUp | doze | expire => exact .inl rfl
  | close | ask | refuse | submit => exact .inl (printed_of_silent p (by simp [Happening.line?]))
  | fetch item =>
    exact .inl ((printed_of_silent (p.note [.requested]) (by simp [Happening.line?])).trans
      (printed_of_silent p (by simp [Happening.line?])))
  | accept =>
    exact .inl (printed_of_silent { p with ledger := p.ledger.take } (by simp [Happening.line?]))
  | arrive time =>
    exact .inl (printed_of_silent { p with now := max p.now time } (by simp [Happening.line?]))

theorem printed_initial (ledger : Ledger) (interruption : Interruption) :
    (initial ledger interruption).history.printed = [] := by
  unfold initial
  dsimp only
  split
  · exact printed_cancel { ledger }
  · rfl

/-- **Every line that a run prints is one of a launch that starts.** -/
theorem opening_of_printed {feed : Feed} {interruption : Interruption}
    (allow : rules.Allow listener) (turns : threads.overtakes = true → rules.overtakes)
    (may : interruption = {} ∨ rules.cancels) (silent : rules.launch.EndsSilently)
    (passes : Passes threads listener rules.launch feed (initial rules.ledger interruption) p) :
    ∀ line ∈ p.history.printed,
      ∃ ordinal time b, Remark.printed line ∈ (rules.launch ordinal time b).opening := by
  refine passes.invariant (fun p => ∀ line ∈ p.history.printed,
    ∃ ordinal time b, Remark.printed line ∈ (rules.launch ordinal time b).opening) ?_ ?_
  · intro line mem
    have mem : line ∈ (initial rules.ledger interruption).history.printed := mem
    rw [printed_initial] at mem
    exact absurd mem List.not_mem_nil
  · intro p q reached ih step line mem
    have sound := sound_of_passes allow turns may reached
    rcases printed_of_step silent sound step with same | ⟨b, more⟩
    · exact ih line (same ▸ mem)
    · rw [more] at mem
      rcases List.mem_append.mp mem with before | now
      · exact ih line before
      · obtain ⟨remark, opening, printed⟩ := List.mem_filterMap.mp now
        cases remark with
        | logged record => contradiction
        | printed own =>
          obtain rfl : own = line := Option.some.inj printed
          exact ⟨_, _, b, opening⟩

end Pool

end BatchExec
