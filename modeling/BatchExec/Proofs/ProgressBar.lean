import BatchExec.Proofs.Attempts
import BatchExec.Proofs.Configuration
import BatchExec.Proofs.Delivery

/-!
# Progress bars

A progress bar counts the failures on its own, event by event. What it shows agrees with what the
run comes to in the end, in whatever order the results come in and however the run ends.

* `ProgressBar.Figures`: the numbers beside a bar.
* `ProgressBar.course`: what a bar is told that shows some figures in turn.
* `ProgressBar.Mirrors`: figures that fit events and results.
* `ProgressBar.exists_mirrors`: **the figures of a bar fit its events.**
* `Pipeline.View.Mirrored`: the bar of a run mirrors it.
* `Pipeline.bar_mirrors_run`: **the bar of every run mirrors it and is closed.**
-/

namespace BatchExec

namespace ProgressBar

/-! ## Figures -/

/-- The numbers beside a bar. -/
structure Figures where
  /-- The number of active launches. -/
  active : Int
  /-- The number of results so far that are no success. -/
  failed : Nat

/-- What a bar is told to show figures and to move on. -/
def Figures.calls (f : Figures) : List BarCall := [.figures f.active f.failed, .advanced 1]

/-- What a bar is told that is opened, shows some figures in turn, and is closed. -/
def course (options : List (Text × Value)) (figures : List Figures) : List BarCall :=
  .opened (withOptions options) :: figures.flatMap Figures.calls ++ [.closed]

/-- The number of failures that is shown last. -/
def lastFailed (figures : List Figures) : Nat := (figures.getLast?.map Figures.failed).getD 0

/-- The figures of events when `failed` results were no success before them. -/
def figuresFrom : (failed : Nat) → List Event → List Figures
  | _, [] => []
  | failed, e :: events =>
    let failed := if e.result.success then failed else failed + 1
    ⟨e.active, failed⟩ :: figuresFrom failed events

theorem eventCalls_eq (failed : Nat) (events : List Event) :
    eventCalls failed events = (figuresFrom failed events).flatMap Figures.calls := by
  induction events generalizing failed with
  | nil => rfl
  | cons e events ih =>
    rw [eventCalls, figuresFrom, List.flatMap_cons, ← ih]
    rfl

theorem length_figuresFrom (failed : Nat) (events : List Event) :
    (figuresFrom failed events).length = events.length := by
  induction events generalizing failed with
  | nil => rfl
  | cons e events ih => rw [figuresFrom, List.length_cons, ih, List.length_cons]

/-- The number of results that are no success. -/
def failures (results : List Result) : Nat := results.countP fun r => !r.success

theorem failures_cons (r : Result) (results : List Result) :
    failures (r :: results) = failures results + if r.success then 0 else 1 := by
  unfold failures
  rw [List.countP_cons]
  cases r.success <;> rfl

/-- An event is shown with the failures up to its result. -/
theorem getElem?_figuresFrom (failed : Nat) {events : List Event} {k : Nat} {e : Event}
    (told : events[k]? = some e) : (figuresFrom failed events)[k]? =
      some ⟨e.active, failed + failures ((events.map Event.result).take (k + 1))⟩ := by
  induction events generalizing failed k with
  | nil => cases told
  | cons first events ih =>
    rw [figuresFrom, List.map_cons, List.take_succ_cons, failures_cons]
    cases k with
    | zero =>
      obtain rfl : first = e := Option.some.inj told
      cases first.result.success <;> rfl
    | succ k =>
      have regrouped (n : Nat) : (if first.result.success then failed else failed + 1) + n =
          failed + (n + if first.result.success then 0 else 1) := by split <;> omega
      rw [List.getElem?_cons_succ, ih _ told, regrouped]

/-- The last event is shown with all failures. -/
theorem lastFailed_figuresFrom (events : List Event) :
    lastFailed (figuresFrom 0 events) = failures (events.map Event.result) := by
  rw [lastFailed, List.getLast?_eq_getElem?, length_figuresFrom]
  cases last : events[events.length - 1]? with
  | none =>
    have short := List.getElem?_eq_none_iff.mp last
    have empty : events = [] := List.length_eq_zero_iff.mp (by omega)
    rw [empty]
    rfl
  | some e =>
    have some : events.length - 1 < events.length := (List.getElem?_eq_some_iff.mp last).1
    have whole : (events.map Event.result).length ≤ events.length - 1 + 1 := by
      rw [List.length_map]
      omega
    rw [getElem?_figuresFrom 0 last, List.take_of_length_le whole, Nat.zero_add]
    rfl

/-- **Figures that fit events and results**: there are figures for each result, in the order in
which the results come in, with the active launches that its event counts and the failures up to
then. The last ones count the failures of all results. -/
structure Mirrors (figures : List Figures) (events : List Event) (results : List Result) :
    Prop where
  told : events.map Event.result = results
  numbered : events.map Event.completed = List.range' 1 results.length
  length : figures.length = results.length
  each : ∀ k e, events[k]? = some e →
    figures[k]? = some (Figures.mk e.active (failures (results.take (k + 1))))
  last : ∀ cancelled, lastFailed figures = (Status.aggregate results cancelled).failed

variable {events : List Event} {results : List Result}

/-- **The figures of a bar fit its events.** -/
theorem exists_mirrors (options : List (Text × Value)) (told : events.map Event.result = results)
    (numbered : events.map Event.completed = List.range' 1 results.length) :
    ∃ figures, calls options events = course options figures ∧ Mirrors figures events results := by
  have each (k : Nat) (e : Event) (here : events[k]? = some e) : (figuresFrom 0 events)[k]? =
      some ⟨e.active, failures (results.take (k + 1))⟩ := by
    rw [getElem?_figuresFrom 0 here, Nat.zero_add, told]
  have length : events.length = results.length := by rw [← told, List.length_map]
  refine ⟨figuresFrom 0 events, ?_, told, numbered, ?_, each, fun cancelled => ?_⟩
  · rw [calls, course, eventCalls_eq]
  · rw [length_figuresFrom, length]
  · show lastFailed _ = failures results
    rw [lastFailed_figuresFrom, told]

end ProgressBar

/-! ## Runs -/

/-- The summary of a blocking run is one of its results. -/
theorem Pool.perm_of_ok {threads : Threads} {listener : Listener} {launch : Launcher} {feed : Feed}
    {p : Pool} {s : Summary} (ended : (p.run threads listener launch feed).result = .ok s) :
    s.results.Perm (p.run threads listener launch feed).pool.ledger.completed := by
  unfold run at ended ⊢
  dsimp only at ended ⊢
  split at ended
  · cases ended
  · cases ended
  · cases ended
    exact Summary.sortByIndex_perm _

theorem Stream.perm_of_ok {consumer : Consumer} {launch : Launcher} {detour : Bool} {feed : Feed}
    {t : Stream} {s : Summary} (ended : (t.run consumer launch detour feed).result = .ok s) :
    s.results.Perm (t.run consumer launch detour feed).stream.tally.completed := by
  unfold run at ended ⊢
  dsimp only at ended ⊢
  split at ended
  · cases ended
  · cases ended
    exact Summary.sortByIndex_perm _
  · cases ended
  · cases ended
  · cases ended
    exact Summary.sortByIndex_perm _

namespace Pipeline

open ProgressBar

/-- **The bar of a run mirrors it.** It is opened once, shows figures that fit the events and the
results of the run, and is closed once, after the last ones. If the run comes to a summary, the last
ones agree with it. -/
structure View.Mirrored (v : View) (figures : List Figures) : Prop where
  bar : v.barCalls = course [] figures
  mirrors : Mirrors figures (v.history.events.map Prod.fst) v.history.recorded
  summed : ∀ s, v.result = .ok s →
    s.results.Perm v.history.recorded ∧ lastFailed figures = s.status.failed

variable {config : Config} {source : ItemSource} {children : Children}

/-- A run that tells a bar of its results is mirrored by it. -/
theorem View.exists_mirrored {v : View} (bar : v.handler = .bar) {landings : List Landing}
    {results : List Result} (tells : v.history.TellsAll landings results)
    (summed : ∀ s, v.result = .ok s → s.results.Perm results) :
    ∃ figures, v.Mirrored figures := by
  obtain ⟨-, -, recorded, told, numbered, -⟩ := tells
  rw [← History.map_fst_events] at told numbered
  rw [← recorded] at told numbered summed
  obtain ⟨figures, calls, mirrors⟩ := exists_mirrors [] told numbered
  refine ⟨figures, ?_, mirrors, fun s ended => ⟨summed s ended, ?_⟩⟩
  · rw [View.barCalls, ResultHandler.barCalls, if_pos bar, calls]
  · rw [Summary.status, Status.aggregate_perm (summed s ended), mirrors.last]

/-- The bar of every run mirrors it, whatever the source and the children do. -/
theorem view_mirrored (runner : Runner) (threads : Threads) (config : Config) (source : ItemSource)
    (children : Children) (interruption : Interruption) :
    ∃ figures, (view runner threads config source children .bar interruption).Mirrored figures := by
  cases runner with
  | blocking =>
    obtain ⟨run, landings, ran, tells⟩ := Setting.blocking_told
      (s := setting config source children (listener .bar) {} .blocking threads)
      (calm_listener .bar) rfl
    obtain rfl := Except.ok.inj ((blocking_setting _ _ _ _ _).symm.trans ran)
    exact View.exists_mirrored rfl tells fun s ended => Pool.perm_of_ok ended
  | async =>
    have calm :
        (setting config source children (listener .bar) interruption .async).listener.Calm :=
      calm_listener .bar
    obtain ⟨_, landings, rfl, tells, -⟩ :=
      Setting.stream_told calm rfl rfl (Setting.stays_of_calm calm 0) true true
    exact View.exists_mirrored rfl tells fun s ended => Stream.perm_of_ok ended

end Pipeline

/-! ## The program -/

namespace CommandLine

open ProgressBar

variable {words : List Text} {a : Arguments} {level : Level} {w : Surroundings} {config : Config}

/-- The program has a configuration and can draw the bar that is asked for. -/
structure ShowsBar (w : Surroundings) (words : List Text) (a : Arguments) (config : Config) :
    Prop where
  read : Arguments.read words = .ok a
  level : ∃ level, a.logLevel = .given level
  accepted : a.config w.environment = .ok config
  asked : a.progress = true
  library : w.barLibrary = true

/-- An input that cannot be opened leaves the bar as it is. -/
theorem ShowsBar.bar_of_error (shows : ShowsBar w words a config) {failure : Failure}
    (closed : inputText w a.argFile = .error failure) (breakdown : Option Breakdown) :
    (runUntil w breakdown words).bar = course [] [] := by
  obtain ⟨level, leveled⟩ := shows.level
  have entered : ResultHandler.bar.enter w.barLibrary = .ok () := by rw [shows.library]; rfl
  rw [runUntil_of_read shows.read leveled, runArguments]
  simp only [shows.accepted, runConfig, shows.asked, if_true, entered, closed]
  rfl

/-- The bar of the program is the bar of its run. -/
theorem ShowsBar.bar_of_ok (shows : ShowsBar w words a config) {input : Text}
    (opened : inputText w a.argFile = .ok input) (breakdown : Option Breakdown) :
    (runUntil w breakdown words).bar = (viewOf w a config input breakdown).barCalls := by
  obtain ⟨level, leveled⟩ := shows.level
  have opens : Opens w a config input := ⟨shows.accepted, fun _ => shows.library, opened⟩
  rw [runUntil_of_read shows.read leveled, runArguments_of_opens opens]
  rfl

end CommandLine

open ProgressBar in
/-- **The bar of every run mirrors it and is closed**, in both schedules and in the program,
whatever the source, the children and the threads do and however the run ends. If the input of the
program cannot be opened there is no run, and the bar is opened and closed. -/
theorem Pipeline.bar_mirrors_run :
    (∀ (runner : Runner) (threads : Threads) (config : Config) (source : ItemSource)
      (children : Children) (interruption : Interruption), ∃ v figures,
        call runner threads config source children (.named ResultHandler.barName) true
          interruption = .ok v ∧ v.Mirrored figures) ∧
    ∀ (w : Surroundings) (words : List Text) (a : Arguments) (config : Config)
      (breakdown : Option Breakdown), CommandLine.ShowsBar w words a config →
        (∀ failure, CommandLine.inputText w a.argFile = .error failure →
          (CommandLine.runUntil w breakdown words).bar = course [] []) ∧
        ∀ input, CommandLine.inputText w a.argFile = .ok input → ∃ figures,
          (CommandLine.runUntil w breakdown words).bar = course [] figures ∧
            (CommandLine.viewOf w a config input breakdown).Mirrored figures := by
  refine ⟨fun runner threads config source children interruption => ?_,
    fun w words a config breakdown shows => ⟨fun failure closed => ?_, fun input opened => ?_⟩⟩
  · obtain ⟨figures, mirrored⟩ := view_mirrored runner threads config source children interruption
    exact ⟨_, figures, rfl, mirrored⟩
  · exact shows.bar_of_error closed breakdown
  · obtain ⟨figures, mirrored⟩ := view_mirrored .blocking w.threads config
      (CommandLine.sourceOf config input breakdown) w.children {}
    have view : CommandLine.viewOf w a config input breakdown =
        view .blocking w.threads config (CommandLine.sourceOf config input breakdown) w.children
          .bar {} := by
      rw [CommandLine.viewOf, CommandLine.handlerOf, if_pos shows.asked]
    rw [← view] at mirrored
    exact ⟨figures, (shows.bar_of_ok opened breakdown).trans mirrored.bar, mirrored⟩

namespace CommandLine

open ProgressBar

/-- The first command fails, the second succeeds a little later. -/
def firstFails : Surroundings where
  input := "a b"
  children
    | 0 => { lifetime := 5, exitCode := 3 }
    | _ + 1 => { lifetime := 9 }
  barLibrary := true

/-- Two commands side by side: the failure of the first stays on the bar. -/
theorem firstFails_mirrored : ∃ a config figures,
    ShowsBar firstFails ["--progress", "-P", "2", "p"] a config ∧
      (viewOf firstFails a config "a b" none).Mirrored figures ∧
      (run firstFails ["--progress", "-P", "2", "p"]).bar = course [] figures ∧
      (run firstFails ["--progress", "-P", "2", "p"]).bar =
        course [] [⟨1, 1⟩, ⟨0, 1⟩] := by
  have shows : ShowsBar firstFails ["--progress", "-P", "2", "p"]
      { maxProcs := some (.given 2), progress := true, command := ["p"] }
      { maxProcs := 2, command := ["p"] } := ⟨rfl, ⟨.warning, rfl⟩, rfl, rfl, rfl⟩
  obtain ⟨figures, bar, mirrored⟩ :=
    (Pipeline.bar_mirrors_run.2 firstFails _ _ _ none shows).2 "a b" rfl
  exact ⟨_, _, figures, shows, mirrored, bar, rfl⟩

end CommandLine

end BatchExec
