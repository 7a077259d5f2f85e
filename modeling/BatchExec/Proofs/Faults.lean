import BatchExec.Proofs.Pool.Journal
import BatchExec.Proofs.Setting
import BatchExec.Proofs.Stream.Journal

/-!
# Faults are reported

A launch that raises an error or brings no result of its batch breaks a run, and so does, in a
blocking run, a receiver of events that raises an error. A broken run admits nothing more, lets what
has been admitted run to its end, tells of every result that still comes in, and then ends with its
first fault.

* `ReportsFaults`: how a run ends whose launches landed in some order.
* `Roster.Sound.reportsFaults`: **at rest a run reports its first fault.**
* `Setting.faults_reported`: **both schedules report the first fault, and do so in the end.**
-/

namespace BatchExec

/-- A run whose launches have landed like this reports its faults. A launch may break the run, and
so may `critic`, if it raises an error. -/
structure ReportsFaults (launch : Launcher) (overtakes : Prop) (receiver critic : Listener)
    (landings : List Landing) (h : History) (active : Int) (result : Except RunError Summary) :
    Prop where
  /-- Every batch that got a slot was launched, -/
  launched : h.LaunchesAdmitted overtakes
  /-- every launch ran to its own end, in this order, -/
  flights : (landings.map Landing.flight).Perm (h.flights launch)
  landed : h.landed = landings.map (·.flight.batch)
  /-- none was cut off, -/
  cut : h.cut = []
  /-- and all slots were given back. -/
  active : active = 0
  /-- The receiver was told of every result, also after a fault; -/
  heard : h.heard = landings.filterMap (·.told? receiver)
  /-- no batch got a slot after the first fault. -/
  late : h.late = []
  /-- The faults that came to light are those of the landings, -/
  faults : h.faults = landings.filterMap (·.fault? critic)
  /-- the first of them is what the run ended with, -/
  first : ∀ fault, result = .error (.fault fault) ↔ h.faults.head? = some fault
  /-- with the error of the launch or of the receiver as its cause, -/
  cause : ∀ fault, result = .error (.fault fault) →
    ∃ l ∈ landings, l.fault? critic = some fault ∧ fault.cause = l.error? critic
  /-- if there was one; -/
  breaks : (∃ fault, result = .error (.fault fault)) ↔ ∃ l ∈ landings, (l.fault? critic).isSome
  /-- if there was none, it ended with a summary. -/
  whole : (∀ l ∈ landings, l.fault? critic = none) → ∃ summary, result = .ok summary

namespace Roster

variable {rules : Rules} {all : List Batch} {r : Roster} {landings : List Landing} {terms : Terms}

theorem error_verdict_iff {feed : Feed} (whole : feed.failure = none) (fault : Fault) :
    r.verdict feed = .error (.fault fault) ↔ r.fault = some fault := by
  unfold verdict Feed.verdict
  rw [whole, ite_self]
  cases r.fault <;> simp

theorem ok_verdict {feed : Feed} (whole : feed.failure = none) (fine : r.fault = none) :
    ∃ summary, r.verdict feed = .ok summary := by
  unfold verdict Feed.verdict
  rw [whole, ite_self, fine]
  exact ⟨_, rfl⟩

/-- **At rest a run reports its first fault.** -/
theorem Sound.reportsFaults (s : r.Sound rules all) (rests : r.Rests) {feed : Feed}
    (whole : feed.failure = none)
    (tells : (Journal.ofHistory rules.launch r.history r.running r.completed r.fault []).Tells terms
      landings) :
    ReportsFaults rules.launch rules.overtakes terms.receiver terms.critic landings r.history
      r.active (r.verdict feed) := by
  have reported : r.fault = (landings.filterMap (·.fault? terms.critic)).head? :=
    tells.faults ▸ tells.fault
  refine ⟨s.launchesAdmitted rests, ?_, tells.landed, tells.cut, s.active_of_rests rests, ?_,
    tells.late, tells.faults, fun fault => ?_, fun fault ended => ?_, ?_, fun fine => ?_⟩
  · have all := tells.all
    simp only [Journal.ofHistory, rests.running, Multiset.add_zero] at all
    exact Multiset.coe_eq_coe.mp all
  · have told := tells.told
    simpa only [Journal.ofHistory, List.append_nil] using told
  · rw [error_verdict_iff whole]
    exact tells.fault ▸ Iff.rfl
  · rw [error_verdict_iff whole, reported] at ended
    obtain ⟨l, mem, broken⟩ := List.mem_filterMap.mp (List.mem_of_head? ended)
    exact ⟨l, mem, broken, Landing.cause_of_fault? broken⟩
  · simp only [error_verdict_iff whole]
    rw [← Option.isSome_iff_exists, reported, List.head?_filterMap, List.findSome?_isSome_iff]
  · refine ok_verdict whole ?_
    rw [reported, List.head?_eq_none_iff, List.filterMap_eq_nil_iff]
    exact fine

end Roster

namespace Setting

variable {s : Setting} {cancels breaks : Prop}

/-- In every state of a blocking run the journal tells of the launches that have landed. -/
theorem blocking_tells (allow : (s.rules cancels breaks).Allow s.listener)
    (may : s.interruption = {} ∨ cancels) {p : Pool} (passes : s.Passes p) :
    ∃ landings, (p.journal s.launch).Tells ⟨slots s.maxProcs, s.listener, s.listener⟩ landings :=
  Pool.tells_of_passes (pool_allow allow) id may passes

/-- At the end of an event-driven run whose receiver of events is there the journal tells of the
launches that have landed, and nothing is left to be told. -/
theorem events_tell (allow : (s.rules cancels breaks).Allow s.listener)
    (may : s.interruption = {} ∨ cancels) {pause : Nat} {cancellable detour : Bool} {t : Stream}
    (passes : Stream.Passes { pause, listener := s.listener } s.launch detour s.feed
      (s.stream cancellable) t)
    (halted : t.next? { pause, listener := s.listener } s.launch detour = none) (here : t.Here) :
    ∃ landings, (t.journalWith s.launch []).Tells ⟨slots s.maxProcs, s.listener, none⟩
      landings := by
  have allow : (s.rules cancels breaks).Allow
      (Consumer.listener { pause, listener := s.listener }) := allow
  exact Stream.tells_of_over allow may passes halted here

/-- **Both schedules report the first fault, and do so in the end.** The source does not fail;
launches may do whatever they like, and anybody may cancel the run; which thread of a blocking run
goes on when is left open. In an event-driven run the receiver of events is calm; in a blocking run
an error that it raises is a fault like any other. -/
theorem faults_reported (s : Setting) (whole : s.feed.failure = none) (pause : Nat)
    (cancellable detour : Bool) :
    (∃ run landings, s.blocking = .ok run ∧
      ReportsFaults s.launch (s.threads.overtakes = true) s.listener s.listener landings
        run.pool.history run.pool.ledger.active run.result) ∧
    (s.listener.Calm → ∃ run landings, s.events pause cancellable detour = .ok run ∧
      ReportsFaults s.launch False s.listener none landings run.stream.history
        run.stream.tally.active run.result) := by
  constructor
  · obtain ⟨run, ran, passes, -, rests, sound, result⟩ :=
      blocking_rests s.allow_all (.inr trivial)
    obtain ⟨landings, tells⟩ := blocking_tells s.allow_all (.inr trivial) passes
    refine ⟨run, landings, ran, ?_⟩
    rw [result]
    exact sound.reportsFaults rests whole tells
  · intro calm
    obtain ⟨run, ran, passes, halted, ends⟩ :=
      events_rests (allow_cancels calm) (.inr trivial) pause cancellable detour
    have here := here_of_calm calm passes
    obtain ⟨rests, sound, result⟩ := ends here
    obtain ⟨landings, tells⟩ := events_tell (allow_cancels calm) (.inr trivial) passes halted here
    refine ⟨run, landings, ran, ?_⟩
    rw [result, Feed.relayed_of_whole whole]
    exact sound.reportsFaults rests whole tells

/-- The batches `a`, `b` and `c`: the launch of the first ends last and raises an error, that of the
second brings the result of another batch, and that of the third succeeds. -/
def faulty (maxProcs : Nat) : Setting where
  maxProcs
  launch := fun ordinal _ b =>
    let result : Result := { invocation := ⟨b, b.items⟩, outcome := .exited, exitCode := some 0 }
    { duration := some (20 - 5 * ordinal)
      ending := match ordinal with
        | 0 => .raised (.saying "RuntimeError" "")
        | 1 => .returned { result with invocation := ⟨{ b with index := 7 }, b.items⟩ }
        | _ => .returned result }
  feed := .ofBatches (((ItemSource.mk ["a", "b", "c"] none).group 1).map Grouped.batch) none
  listener := .passive

/-- With room for two at a time, the fault of the second launch comes to light first. -/
theorem faulty_faults_reported :
    (∃ run landings, (faulty 2).blocking = .ok run ∧
      ReportsFaults (faulty 2).launch ((faulty 2).threads.overtakes = true) .passive .passive
        landings run.pool.history run.pool.ledger.active run.result) ∧
    (∃ run landings, (faulty 2).events 0 true false = .ok run ∧
      ReportsFaults (faulty 2).launch False .passive none landings run.stream.history
        run.stream.tally.active run.result) := by
  obtain ⟨blocks, flows⟩ := faults_reported (faulty 2) rfl 0 true false
  exact ⟨blocks, flows Listener.calm_passive⟩

end Setting

end BatchExec
