import BatchExec.Proofs.Configuration
import BatchExec.Proofs.Words

/-!
# Items that are taken literally

Items that end at a terminator are handed to the commands as they are in the file, but for line
ends: a file is read as text, so a carriage return in an item becomes a line feed, or is lost in
front of one.

* `lineFeeds`: bytes with line feeds for line ends.
* `Text.encodeUtf8_normalizeNewlines`: line ends are those of the bytes.
* `Pipeline.argv_attempts`: **a run tries the command lines of all batches unless it turns one
  away.**
* `CommandLine.items_are_pieces`: **commands get the pieces of the bytes with line feeds for line
  ends**; these are the pieces of the bytes if and only if there is no carriage return.
-/

namespace BatchExec

/-! ### Line ends -/

/-- The byte of a carriage return. -/
def returnByte : UInt8 := 0x0D

/-- The byte of a line feed. -/
def feedByte : UInt8 := 0x0A

/-- Bytes in which every carriage return, with the line feed after it if there is one, has become a
line feed. -/
def lineFeeds : List UInt8 → List UInt8
  | [] => []
  | b :: rest =>
    if b = returnByte then
      if rest.head? = some feedByte then lineFeeds rest else feedByte :: lineFeeds rest
    else b :: lineFeeds rest

theorem lineFeeds_of_not_mem {bytes : List UInt8} (free : returnByte ∉ bytes) :
    lineFeeds bytes = bytes := by
  induction bytes with
  | nil => rfl
  | cons b rest ih =>
    rw [List.mem_cons, not_or] at free
    rw [lineFeeds, if_neg (Ne.symm free.1), ih free.2]

theorem not_mem_lineFeeds (bytes : List UInt8) : returnByte ∉ lineFeeds bytes := by
  fun_induction lineFeeds bytes with
  | case1 => exact List.not_mem_nil
  | case2 rest feed ih => exact ih
  | case3 rest single ih => exact List.not_mem_cons_of_ne_of_not_mem (by decide) ih
  | case4 b rest other ih => exact List.not_mem_cons_of_ne_of_not_mem (Ne.symm other) ih

theorem lineFeeds_append {start : List UInt8} (free : returnByte ∉ start) (rest : List UInt8) :
    lineFeeds (start ++ rest) = start ++ lineFeeds rest := by
  induction start with
  | nil => rfl
  | cons b start ih =>
    rw [List.mem_cons, not_or] at free
    rw [List.cons_append, lineFeeds, if_neg (Ne.symm free.1), ih free.2, List.cons_append]

namespace Text

theorem encodeCharacter_return : encodeCharacter (CodePoint.ofChar '\r') = [returnByte] := rfl

theorem encodeCharacter_feed : encodeCharacter (CodePoint.ofChar '\n') = [feedByte] := rfl

/-- The bytes of a text begin with a line feed if the text does. -/
theorem head?_encodeUtf8 (t : Text) :
    (encodeUtf8 t).head? = some feedByte ↔ t.head? = some (CodePoint.ofChar '\n') := by
  cases t with
  | nil => simp [encodeUtf8]
  | cons c t =>
    rw [encodeUtf8_cons, List.head?_cons, Option.some.injEq]
    refine ⟨fun first => ?_, fun feed => by rw [feed, encodeCharacter_feed]; rfl⟩
    by_contra other
    refine not_mem_encodeCharacter (c := CodePoint.ofChar '\n') (by decide) other ?_
    obtain ⟨b, bytes, form⟩ := List.exists_cons_of_ne_nil (encodeCharacter_ne_nil c)
    rw [form, List.cons_append, List.head?_cons] at first
    rw [form]
    exact List.mem_cons.mpr (.inl (Option.some.inj first).symm)

/-- **Line ends are those of the bytes.** -/
theorem encodeUtf8_normalizeNewlines (t : Text) :
    encodeUtf8 t.normalizeNewlines = lineFeeds (encodeUtf8 t) := by
  fun_induction normalizeNewlines t with
  | case1 => rfl
  | case2 rest feed ih =>
    rw [ih, encodeUtf8_cons, encodeCharacter_return, List.singleton_append, lineFeeds, if_pos rfl,
      if_pos ((head?_encodeUtf8 rest).mpr feed)]
  | case3 rest single ih =>
    rw [encodeUtf8_cons, ih, encodeUtf8_cons, encodeCharacter_return, encodeCharacter_feed,
      List.singleton_append, List.singleton_append, lineFeeds, if_pos rfl,
      if_neg (mt (head?_encodeUtf8 rest).mp single)]
  | case4 c rest other ih =>
    rw [encodeUtf8_cons, encodeUtf8_cons, ih, lineFeeds_append]
    exact not_mem_encodeCharacter (c := CodePoint.ofChar '\r') (by decide) other

end Text

/-! ### Runs -/

namespace Roster

variable {rules : Rules} {all : List Batch} {r : Roster}

/-- A batch that is turned away has been received, but gets no slot. -/
theorem Sound.refused_eq_false (s : r.Sound rules all)
    (whole : r.history.received = r.history.admitted) : r.refused = false := by
  by_contra refused
  obtain ⟨-, -, b, turned⟩ := s.shut (eq_true_of_ne_false refused)
  have lengths := congrArg List.length (whole.symm.trans turned)
  rw [List.length_append] at lengths
  exact absurd lengths (Nat.ne_of_lt (Nat.lt_succ_self _))

/-- At rest the batches that were launched stand in the source at their positions. -/
theorem Sound.map_some_launched (s : r.Sound rules all) (rests : r.Rests)
    (numbered : Numbered all) :
    r.history.launched.map some = r.history.positions.map (all[·]?) := by
  rw [History.positions, List.map_map]
  refine List.map_congr_left fun b mem => ?_
  obtain ⟨i, index, here⟩ := s.getElem?_of_launched rests numbered mem
  rw [Function.comp_apply, index, Int.toNat_natCast, here]

end Roster

namespace Pipeline

/-- The command line of an attempt is that of its batch. -/
theorem argv_of_attempt_launch (runner : Runner) (config : Config) (children : Children)
    (ordinal time : Nat) (b : Batch) :
    (launch runner config children ordinal time b).attempt.map Attempt.argv =
      some ((Template.ofWords config.command).instantiate b).argv := by
  rw [launch, Runner.attempt_plan, Option.map_some]
  unfold Runner.attempt
  split <;> rfl

variable {threads : Threads} {config : Config} {source : ItemSource} {children : Children}
  {listener : Listener}

/-- A run tries the command lines of the batches whose launches start. -/
theorem argv_attempts :
    (run threads config source children listener {}).pool.history.attempts.map Attempt.argv =
      (run threads config source children listener {}).pool.history.launched.map fun b =>
        ((Template.ofWords config.command).instantiate b).argv := by
  obtain ⟨ran, blocks, -, -, -, sound, -⟩ :=
    Setting.blocking_rests (s := setting config source children listener {} .blocking threads)
      Setting.allow_all (.inr trivial)
  obtain rfl := Except.ok.inj (blocks.symm.trans (blocking_setting _ _ _ _ _))
  set h := (run threads config source children listener {}).pool.history
  have tried : h.attempts =
      (h.flights (launch .blocking config children)).filterMap (·.plan.attempt) := sound.attempts
  rw [tried, List.map_filterMap, ← History.map_batch_flights (launch .blocking config children),
    List.map_map, ← List.filterMap_eq_map]
  refine List.filterMap_congr fun f mem => ?_
  obtain ⟨ordinal, time, plan⟩ := History.plan_of_mem_flights mem
  rw [plan]
  exact argv_of_attempt_launch .blocking config children ordinal time f.batch

/-- **A run launches all batches** unless it turns one away: each once, and in order unless a launch
may overtake another. -/
theorem launched_whole (whole :
    (run threads config source children listener {}).pool.history.received =
      (run threads config source children listener {}).pool.history.admitted) :
    (run threads config source children listener {}).pool.history.positions.Perm
        (List.range (feed config source).batches.length) ∧
      (run threads config source children listener {}).pool.history.launched.map some =
        (run threads config source children listener {}).pool.history.positions.map
          ((feed config source).batches[·]?) ∧
      (threads.overtakes = false →
        (run threads config source children listener {}).pool.history.launched =
          (feed config source).batches) := by
  obtain ⟨ran, blocks, -, -, rests, sound, -⟩ :=
    Setting.blocking_rests (s := setting config source children listener {} .blocking threads)
      Setting.allow_all (.inr trivial)
  obtain rfl := Except.ok.inj (blocks.symm.trans (blocking_setting _ _ _ _ _))
  have asks := sound.refused_eq_false whole
  have numbered := numbered_batches config source
  have all := sound.admitted_of_rests rests asks
  have count := (sound.launched_perm rests).length_eq
  rw [all] at count
  refine ⟨count ▸ sound.positions_perm rests numbered,
    sound.map_some_launched rests numbered, fun orderly => ?_⟩
  refine ((sound.launchesAdmitted rests).order fun overtakes => ?_).trans all
  exact Bool.false_ne_true (orderly.symm.trans overtakes)

end Pipeline

/-! ### The program -/

namespace CommandLine

/-- A command line with which the program runs commands on the pieces of a file between the
occurrences of a character. -/
structure TakesPieces (w : Surroundings) (words : List Text) (a : Arguments) (config : Config)
    (bytes : List UInt8) (c : CodePoint) : Prop where
  read : Arguments.read words = .ok a
  accepted : a.config w.environment = .ok config
  level : ∃ level, a.logLevel = .given level
  /-- If a bar is asked for, it can be drawn. -/
  bar : a.progress = true → w.barLibrary = true
  file : ∃ path, a.argFile = some (.given path) ∧ w.file path = .ok bytes
  /-- Items end at null characters, or at a delimiter that stands for the character. -/
  ends : a.null = true ∧ c = CodePoint.null ∨ a.null = false ∧
    ∃ delimiter, a.delimiter = some (.given delimiter) ∧ delimiter.unescape = .ok [c]

/-- The run of the commands of a configuration on the bytes of a file. -/
def fileView (w : Surroundings) (a : Arguments) (config : Config) (bytes : List UInt8) :
    Pipeline.View :=
  Pipeline.view .blocking w.threads config (itemSource config (readText bytes)) w.children
    (if a.progress then .bar else .silent) {}

namespace TakesPieces

variable {w : Surroundings} {words : List Text} {a : Arguments} {config : Config}
  {bytes : List UInt8} {c : CodePoint} (takes : TakesPieces w words a config bytes c)
include takes

/-- The program tries what the run tries. -/
theorem attempts_run : (run w words).attempts = (fileView w a config bytes).history.attempts := by
  obtain ⟨level, leveled⟩ := takes.level
  obtain ⟨path, named, content⟩ := takes.file
  have input : inputText w a.argFile = .ok (readText bytes) := by
    rw [named, inputText, content]
    rfl
  rw [run, runUntil_of_read takes.read leveled,
    runArguments_of_opens ⟨takes.accepted, takes.bar, input⟩]
  rfl

/-- The items are the pieces of the text. -/
theorem source (input : Text) :
    itemSource config input = { items := pieces c input, failure := none } := by
  obtain ⟨mode, -, decoded, -⟩ := Arguments.input_of_config takes.accepted
  have reading : config.readItems input = .ok (Reading.terminated [c] Reading.chunkSize input) := by
    rw [Config.readItems, mode]
    rcases takes.ends with ⟨null, rfl⟩ | ⟨other, delimiter, given, single⟩
    · rw [Arguments.inputMode, if_pos null]
      rfl
    · have character : config.delimiter = some [c] := by
        rw [Arguments.decodedDelimiter, other, given] at decoded
        simp only [Bool.false_eq_true, if_false, single] at decoded
        exact (Except.ok.inj decoded).symm
      rw [Arguments.inputMode, other, given, character]
      rfl
  rw [itemSource, reading]
  show ItemSource.mk (Reading.terminated [c] Reading.chunkSize input).texts
    ((Reading.terminated [c] Reading.chunkSize input).error.map _) = _
  rw [Reading.texts_eq_pieces c (by decide), Reading.terminated,
    Reading.error_terminatedFrom (List.cons_ne_nil _ _)]
  rfl

/-- What the program tries are the command lines of the batches that its run launches. -/
theorem argv_attempts_run : (run w words).attempts.map Attempt.argv =
    (fileView w a config bytes).history.launched.map (config.command ++ ·.items) := by
  have command : config.command ≠ [] := by
    rw [(Arguments.input_of_config takes.accepted).2.2.2]
    split
    · exact List.cons_ne_nil _ _
    · assumption
  rw [takes.attempts_run]
  refine Pipeline.argv_attempts.trans (List.map_congr_left fun b _ => ?_)
  rw [Template.ofWords, if_neg command]
  rfl

end TakesPieces

/-- The bytes of a file's text. -/
theorem encodeUtf8_readText (bytes : List UInt8) :
    Text.encodeUtf8 (readText bytes) = lineFeeds bytes := by
  rw [readText, Text.encodeUtf8_normalizeNewlines, Text.encodeUtf8_decodeUtf8]

/-- A carriage return is in the pieces unless it is what they end at. -/
theorem pieces_lineFeeds_ne {bytes : List UInt8} (mem : returnByte ∈ bytes) {b : UInt8}
    (other : returnByte ≠ b) : pieces b (lineFeeds bytes) ≠ pieces b bytes := by
  intro same
  have kept := congrArg List.flatten same
  rw [flatten_pieces, flatten_pieces] at kept
  have here : returnByte ∈ bytes.filter (· ≠ b) := List.mem_filter.mpr ⟨mem, by simpa using other⟩
  rw [← kept] at here
  exact not_mem_lineFeeds bytes (List.mem_filter.mp here).1

/-- **Commands get the pieces of the bytes with line feeds for line ends.** They are cut into
groups, and the command of each group is tried once, in order unless a launch may overtake another.
The pieces are those of the bytes themselves if there is no carriage return; and only then, unless
carriage returns are what items end at. -/
theorem items_are_pieces {w : Surroundings} {words : List Text} {a : Arguments} {config : Config}
    {bytes : List UInt8} {c : CodePoint} (takes : TakesPieces w words a config bytes c)
    (ascii : c.val ≤ 0x7F)
    (whole : (fileView w a config bytes).history.received =
      (fileView w a config bytes).history.admitted) :
    ∃ groups : List (List Text),
      (w.threads.overtakes = false →
        (run w words).attempts.map Attempt.argv = groups.map (config.command ++ ·)) ∧
      (fileView w a config bytes).history.positions.Perm (List.range groups.length) ∧
      ((run w words).attempts.map Attempt.argv).map some =
        (fileView w a config bytes).history.positions.map
          (fun j => groups[j]?.map (config.command ++ ·)) ∧
      groups.flatten.map Text.encodeUtf8 = pieces (UInt8.ofNat c.val) (lineFeeds bytes) ∧
      (returnByte ∉ bytes →
        groups.flatten.map Text.encodeUtf8 = pieces (UInt8.ofNat c.val) bytes) ∧
      (c ≠ CodePoint.ofChar '\r' → returnByte ∈ bytes →
        groups.flatten.map Text.encodeUtf8 ≠ pieces (UInt8.ofNat c.val) bytes) := by
  obtain ⟨source, divided⟩ : ∃ source, source = itemSource config (readText bytes) := ⟨_, rfl⟩
  have items := takes.source (readText bytes)
  rw [← divided] at items
  obtain ⟨groups, cut⟩ : ∃ groups,
      groups = (Pipeline.feed config source).batches.map Batch.items := ⟨_, rfl⟩
  have all : groups.flatten = pieces c (readText bytes) := by
    rw [cut, ← List.flatMap_def, Pipeline.batches_feed, List.flatMap_map,
      ItemSource.flatMap_group (by rw [items]), items]
  have bytewise : groups.flatten.map Text.encodeUtf8 =
      pieces (UInt8.ofNat c.val) (lineFeeds bytes) := by
    rw [all, Text.map_encodeUtf8_pieces ascii, encodeUtf8_readText]
  obtain ⟨h, shown⟩ : ∃ h, h = (fileView w a config bytes).history := ⟨_, rfl⟩
  have launches : h.positions.Perm (List.range (Pipeline.feed config source).batches.length) ∧
      h.launched.map some = h.positions.map ((Pipeline.feed config source).batches[·]?) ∧
      (w.threads.overtakes = false → h.launched = (Pipeline.feed config source).batches) := by
    rw [shown, divided]
    exact Pipeline.launched_whole whole
  obtain ⟨each, placed, inOrder⟩ := launches
  rw [← shown, takes.argv_attempts_run, ← shown]
  refine ⟨groups, fun orderly => ?_, ?_, ?_, bytewise, fun free => ?_, fun other mem same => ?_⟩
  · rw [inOrder orderly, cut, List.map_map]
    rfl
  · rwa [cut, List.length_map]
  · have found := congrArg (List.map (Option.map (config.command ++ ·.items))) placed
    rw [List.map_map, List.map_map] at found
    rw [List.map_map, cut]
    refine Eq.trans ?_ (found.trans (List.map_congr_left fun j _ => ?_))
    · rfl
    · rw [List.getElem?_map, Option.map_map]
      rfl
  · rw [bytewise, lineFeeds_of_not_mem free]
  · refine pieces_lineFeeds_ne mem (fun byte => other ?_) (bytewise.symm.trans same)
    have value := congrArg UInt8.toNat byte
    rw [Text.toNat_uint8_ofNat (by omega)] at value
    exact Fin.ext value.symm

/-- The surroundings of a program that finds these bytes in each file. -/
def finding (bytes : List UInt8) : Surroundings where
  file := fun _ => .ok bytes
  children := Pipeline.lasting

theorem finding_takes (bytes : List UInt8) : TakesPieces (finding bytes) ["-a", "f", "-0"]
    { argFile := some (.given "f"), null := true } { inputMode := .null } bytes CodePoint.null where
  read := rfl
  accepted := rfl
  level := ⟨.warning, rfl⟩
  bar := fun asked => by cases asked
  file := ⟨"f", rfl, rfl⟩
  ends := .inl ⟨rfl, rfl⟩

/-- A byte that is no text and a line feed reach the commands, and there is no empty item. -/
theorem pieces_found :
    TakesPieces (finding [0x61, 0xFF, 0, 0, 0x0A, 0x62]) ["-a", "f", "-0"]
      { argFile := some (.given "f"), null := true } { inputMode := .null }
      [0x61, 0xFF, 0, 0, 0x0A, 0x62] CodePoint.null ∧
    ∃ groups : List (List Text),
      (run (finding [0x61, 0xFF, 0, 0, 0x0A, 0x62]) ["-a", "f", "-0"]).attempts.map Attempt.argv =
        groups.map ([("echo" : Text)] ++ ·) ∧
      groups.flatten.map Text.encodeUtf8 = [[0x61, 0xFF], [0x0A, 0x62]] := by
  have takes := finding_takes [0x61, 0xFF, 0, 0, 0x0A, 0x62]
  obtain ⟨groups, tried, -, -, -, free, -⟩ :=
    items_are_pieces takes (by decide) (by decide +kernel)
  exact ⟨takes, groups, tried rfl, (free (by decide)).trans (by decide)⟩

/-- A carriage return in an item reaches the command as a line feed. -/
theorem return_becomes_feed :
    TakesPieces (finding [0x61, 0x0D, 0x62]) ["-a", "f", "-0"]
      { argFile := some (.given "f"), null := true } { inputMode := .null }
      [0x61, 0x0D, 0x62] CodePoint.null ∧
    (run (finding [0x61, 0x0D, 0x62]) ["-a", "f", "-0"]).ending = .returned 0 ∧
    (run (finding [0x61, 0x0D, 0x62]) ["-a", "f", "-0"]).attempts.map Attempt.argv =
      [[("echo" : Text), "a\nb"]] ∧
    Text.encodeUtf8 "a\nb" = [0x61, 0x0A, 0x62] ∧
    pieces 0 [0x61, 0x0D, 0x62] = [[(0x61 : UInt8), 0x0D, 0x62]] :=
  ⟨finding_takes _, rfl, by decide +kernel, by decide, by decide⟩

end CommandLine

end BatchExec
