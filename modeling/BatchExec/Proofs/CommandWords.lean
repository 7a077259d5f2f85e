import BatchExec.Options.Parser
import BatchExec.Proofs.Commands

/-!
# The words of a command

The command begins with the first word that is no option and takes all that follows. But each word
of a command line up to two dashes has to stand for something, be it in the command or not; and one
that could be short for several options does not.

* `OptionWord.Ambiguous`: a word that could be short for several options.
* `OptionWord.classify_error_iff`: **only such a word stands for nothing.**
* `OptionWord.map_fst_classifyAll`: a command line fails at its first such word.
* `Arguments.readWords_append`: options are read alike whatever follows them.
* `Arguments.command_verbatim`: **a command without such a word is taken word for word.**
-/

namespace BatchExec

namespace CommandOption

theorem mem_all (o : CommandOption) : o ∈ all := by cases o <;> decide

theorem nodup_all : all.Nodup := by decide

theorem mem_withPrefix {start : Text} {o : CommandOption} :
    o ∈ withPrefix start ↔ start <+: o.longName := by
  simp [withPrefix, mem_all]

/-- No letter is a dash. -/
theorem ofChar_letter_ne (o : CommandOption) : ∀ c ∈ o.letter?, CodePoint.ofChar c ≠ '-' := by
  cases o <;> rintro c ⟨⟩ <;> decide

/-- A name with two dashes is a long name or none: a short name has one dash and a letter. -/
theorem ofName?_eq_none {name : Text} (dashes : ("--" : Text) <+: name) :
    ofName? name = none ↔ ∀ o : CommandOption, o.longName ≠ name := by
  obtain ⟨rest, rfl⟩ := dashes
  have long (o : CommandOption) : "--" ++ rest ∈ o.names ↔ o.longName = "--" ++ rest := by
    refine ⟨fun mem => ?_, fun same => same ▸ by simp [names]⟩
    rcases List.mem_append.mp mem with short | long
    · obtain ⟨c, letter, two⟩ : ∃ c ∈ o.letter?, [('-' : CodePoint), CodePoint.ofChar c] =
          "--" ++ rest := by
        simpa [shortName?] using short
      exact absurd (List.cons.inj (List.cons.inj two).2).1 (o.ofChar_letter_ne c letter)
    · exact (List.mem_singleton.mp long).symm
  simp [ofName?, mem_all, long]

end CommandOption

namespace OptionWord

/-! ### One word -/

/-- The options that a word could be short for: it may have a value after an equals sign. -/
def candidates (word : Text) : List CommandOption := CommandOption.withPrefix (splitValue word).1

/-- A word that could be short for several options: it begins with two dashes, and what stands in
front of its first equals sign is the beginning of several long names but none of them. -/
structure Ambiguous (word : Text) : Prop where
  dashes : ("--" : Text) <+: word
  longer : word ≠ "--"
  nameless : ∀ o : CommandOption, o.longName ≠ (splitValue word).1
  several : ∃ o o' : CommandOption, o ≠ o' ∧
    (splitValue word).1 <+: o.longName ∧ (splitValue word).1 <+: o'.longName

theorem nodup_candidates (word : Text) : (candidates word).Nodup := by
  unfold candidates CommandOption.withPrefix
  exact CommandOption.nodup_all.filter _

/-- No option is listed twice, so two candidates are two options. -/
theorem several_iff {word : Text} :
    (∃ o o' : CommandOption, o ≠ o' ∧ (splitValue word).1 <+: o.longName ∧
      (splitValue word).1 <+: o'.longName) ↔ 2 ≤ (candidates word).length := by
  simp only [← CommandOption.mem_withPrefix]
  show (∃ o o', o ≠ o' ∧ o ∈ candidates word ∧ o' ∈ candidates word) ↔ _
  have nodup := nodup_candidates word
  match candidates word, nodup with
  | [], _ => simp
  | [o], _ => simp
  | o :: o' :: rest, nodup =>
    have ne : o ≠ o' := fun same => (List.nodup_cons.mp nodup).1 (same ▸ List.mem_cons_self)
    exact ⟨fun _ => Nat.le_add_left 2 _, fun _ => ⟨o, o', ne, by simp, by simp⟩⟩

/-- What stands in front of the first equals sign still begins with two dashes. -/
theorem dashes_name {word : Text} (dashes : ("--" : Text) <+: word) :
    ("--" : Text) <+: (splitValue word).1 := by
  obtain ⟨rest, rfl⟩ := dashes
  exact ⟨rest.takeWhile (· ≠ CodePoint.ofChar '='), rfl⟩

theorem ambiguous_iff {word : Text} (dashes : ("--" : Text) <+: word) (longer : word ≠ "--") :
    Ambiguous word ↔
      CommandOption.ofName? (splitValue word).1 = none ∧ 2 ≤ (candidates word).length := by
  rw [CommandOption.ofName?_eq_none (dashes_name dashes), ← several_iff]
  exact ⟨fun a => ⟨a.nameless, a.several⟩, fun a => ⟨dashes, longer, a.1, a.2⟩⟩

/-- A longer word that begins with two dashes is an option by its long name, perhaps shortened. -/
theorem classify_of_dashes {word : Text} (dashes : ("--" : Text) <+: word) (longer : word ≠ "--") :
    classify word = match CommandOption.ofName? (splitValue word).1 with
      | some o => .ok (.long o (splitValue word).2)
      | none => match candidates word with
        | [o] => .ok (.long o (splitValue word).2)
        | [] => .ok (if word.contains (' ' : Char) then .plain else .unknown)
        | options => .error (.ambiguous word options) := by
  obtain ⟨rest, rfl⟩ := dashes
  have more : rest ≠ [] := fun none => longer (by rw [none]; rfl)
  show classify (('-' : CodePoint) :: '-' :: rest) = _
  simp only [classify, ne_eq, not_true_eq_false, if_false, if_true, more]
  rfl

/-- Any other word stands for something, though not for two dashes. -/
theorem classify_of_not_dashes {word : Text} (dashless : ¬ ("--" : Text) <+: word) :
    ∃ kind, classify word = .ok kind ∧ kind ≠ .dashes := by
  have plain : OptionWord.plain ≠ .dashes := by decide
  unfold classify
  split
  · exact ⟨_, rfl, plain⟩
  · exact ⟨_, rfl, plain⟩
  · rename_i dash c rest
    split
    · exact ⟨_, rfl, plain⟩
    · rename_i first
      obtain rfl : dash = CodePoint.ofChar '-' := not_not.mp first
      split
      · rename_i second
        subst second
        exact absurd ⟨rest, rfl⟩ dashless
      · split
        · exact ⟨_, rfl, fun same => by contradiction⟩
        · refine ⟨_, rfl, ?_⟩
          split <;> decide

/-- **Only an ambiguous word stands for nothing.** -/
theorem classify_error_iff {word : Text} {e : UsageError} :
    classify word = .error e ↔ Ambiguous word ∧ e = .ambiguous word (candidates word) := by
  by_cases dashes : ("--" : Text) <+: word
  · by_cases two : word = "--"
    · subst two
      exact ⟨fun error => by contradiction, fun ambiguous => absurd rfl ambiguous.1.longer⟩
    · rw [ambiguous_iff dashes two, classify_of_dashes dashes two]
      cases CommandOption.ofName? (splitValue word).1 with
      | some o => simp
      | none =>
        match candidates word with
        | [] => simp
        | [o] => simp
        | o :: o' :: rest => simp [eq_comm]
  · obtain ⟨kind, stands, -⟩ := classify_of_not_dashes dashes
    rw [stands]
    exact ⟨fun error => by contradiction, fun ambiguous => absurd ambiguous.1.dashes dashes⟩

instance : DecidablePred Ambiguous := fun word =>
  match stands : classify word with
  | .error _ => isTrue (classify_error_iff.mp stands).1
  | .ok _ => isFalse fun ambiguous => by
    rw [classify_error_iff.mpr ⟨ambiguous, rfl⟩] at stands
    contradiction

/-- Only two dashes stand for two dashes. -/
theorem classify_eq_dashes_iff {word : Text} : classify word = .ok .dashes ↔ word = "--" := by
  refine ⟨fun stands => ?_, fun two => two ▸ rfl⟩
  by_contra longer
  by_cases dashes : ("--" : Text) <+: word
  · rw [classify_of_dashes dashes longer] at stands
    split at stands
    · cases stands
    · split at stands
      · cases stands
      · split at stands <;> cases stands
      · cases stands
  · obtain ⟨kind, other, ne⟩ := classify_of_not_dashes dashes
    exact ne (Except.ok.inj (other.symm.trans stands))

/-- A word that does not begin with a dash is no option. -/
theorem classify_of_head {word : Text} (start : word.head? ≠ some (CodePoint.ofChar '-')) :
    classify word = .ok .plain := by
  unfold classify
  split
  · rfl
  · rfl
  · rename_i dash c rest
    exact if_pos fun same => start (congrArg some same)

/-! ### All words -/

theorem classifyAll_cons_dashes (words : List Text) :
    classifyAll ("--" :: words) = .ok (("--", .dashes) :: words.map (·, .plain)) := rfl

theorem classifyAll_cons {word : Text} {kind : OptionWord} (stands : classify word = .ok kind)
    (goes : kind ≠ .dashes) (words : List Text) :
    classifyAll (word :: words) = (classifyAll words).map ((word, kind) :: ·) := by
  rw [classifyAll, stands]
  cases kind with
  | dashes => exact absurd rfl goes
  | plain | long | short | unknown => rfl

/-- **A command line fails at its first ambiguous word**, unless two dashes come before it. -/
theorem map_fst_classifyAll (words : List Text) :
    (classifyAll words).map (·.map Prod.fst) =
      match (words.takeWhile (· ≠ ("--" : Text))).find? (Ambiguous ·) with
      | some word => .error (.ambiguous word (candidates word))
      | none => .ok words := by
  induction words with
  | nil => rfl
  | cons word words ih =>
    cases stands : classify word with
    | error e =>
      obtain ⟨ambiguous, rfl⟩ := classify_error_iff.mp stands
      -- the word itself is the first one, for it is longer than two dashes
      have first : ((word :: words).takeWhile (· ≠ ("--" : Text))).find? (Ambiguous ·) =
          some word := by
        simp [ambiguous, ambiguous.longer]
      rw [first, classifyAll, stands]
      rfl
    | ok kind =>
      have clear : ¬ Ambiguous word := fun ambiguous => by
        rw [classify_error_iff.mpr ⟨ambiguous, rfl⟩] at stands
        cases stands
      by_cases dashes : kind = .dashes
      · -- nothing behind two dashes is looked at
        obtain rfl : word = "--" := classify_eq_dashes_iff.mp (dashes ▸ stands)
        rw [classifyAll_cons_dashes]
        simp [Except.map, Function.comp_def]
      · have longer : word ≠ "--" := fun two =>
          dashes (Except.ok.inj (stands.symm.trans (classify_eq_dashes_iff.mpr two)))
        rw [classifyAll_cons stands dashes]
        have later : ((word :: words).takeWhile (· ≠ ("--" : Text))).find? (Ambiguous ·) =
            (words.takeWhile (· ≠ ("--" : Text))).find? (Ambiguous ·) := by
          simp [longer, clear]
        rw [later]
        calc ((classifyAll words).map ((word, kind) :: ·)).map (·.map Prod.fst)
            = ((classifyAll words).map (·.map Prod.fst)).map (word :: ·) := by
              cases classifyAll words <;> rfl
          _ = _ := by
              rw [ih]
              cases (words.takeWhile (· ≠ ("--" : Text))).find? (Ambiguous ·) <;> rfl

/-- Words are classified one by one, up to two dashes. -/
theorem classifyAll_append {first : List Text} {kinds : List (Text × OptionWord)}
    (classified : classifyAll first = .ok kinds) (goes : ∀ k ∈ kinds, k.2 ≠ .dashes)
    (second : List Text) :
    classifyAll (first ++ second) = (classifyAll second).map (kinds ++ ·) := by
  induction first generalizing kinds with
  | nil =>
    cases classified
    rw [List.nil_append]
    cases classifyAll second <;> rfl
  | cons word first ih =>
    cases stands : classify word with
    | error e =>
      rw [classifyAll, stands] at classified
      cases classified
    | ok kind =>
      by_cases dashes : kind = .dashes
      · obtain rfl : word = "--" := classify_eq_dashes_iff.mp (dashes ▸ stands)
        rw [classifyAll_cons_dashes] at classified
        cases classified
        exact absurd rfl (goes _ List.mem_cons_self)
      · rw [classifyAll_cons stands dashes] at classified
        cases rest : classifyAll first with
        | error e =>
          rw [rest] at classified
          cases classified
        | ok others =>
          rw [rest] at classified
          cases classified
          rw [List.cons_append, classifyAll_cons stands dashes,
            ih rest fun k mem => goes k (List.mem_cons_of_mem _ mem)]
          cases classifyAll second <;> rfl

end OptionWord

namespace Arguments

open OptionWord

/-! ### Options and a command -/

theorem ne_dashes_of_options {kind : OptionWord}
    {options : Except UsageError (List CommandOption × LastOption)}
    (option : optionsOf kind = some options) : kind ≠ .dashes := by
  rintro rfl
  cases option

/-- **Options are read alike whatever follows them**, if they bring no command by themselves. No
two dashes stand alone among such options. -/
theorem readWords_append {a a' : Arguments} {unknown unknown' : List Text}
    {kinds : List (Text × OptionWord)} (ok : readWords a unknown kinds = .ok (a', unknown'))
    (bare : a'.command = []) :
    (∀ k ∈ kinds, k.2 ≠ .dashes) ∧
    ∀ later, readWords a unknown (kinds ++ later) = readWords a' unknown' later := by
  -- reading stops early only where the command begins (case3) or with an error; an option takes its
  -- value from the next word (case5), has it in its own word (case7) or wants none (case8)
  fun_induction readWords a unknown kinds with
  | case1 a unknown =>
    cases ok
    exact ⟨fun k mem => absurd mem List.not_mem_nil, fun later => rfl⟩
  | case2 a unknown word rest option ih =>
    obtain ⟨goes, same⟩ := ih ok
    refine ⟨List.forall_mem_cons.mpr ⟨OptionWord.noConfusion, goes⟩, fun later => ?_⟩
    rw [← same, List.cons_append, readWords, option]
    rfl
  | case3 a unknown word kind rest option known =>
    cases ok
    contradiction
  | case4 => cases ok
  | case5 a unknown word kind flags o option value rest ih =>
    obtain ⟨b, flagged, ok⟩ := ok_of_bind ok
    obtain ⟨c, valued, ok⟩ := ok_of_bind ok
    obtain ⟨goes, same⟩ := ih c ok
    refine ⟨List.forall_mem_cons.mpr ⟨ne_dashes_of_options option,
      List.forall_mem_cons.mpr ⟨OptionWord.noConfusion, goes⟩⟩, fun later => ?_⟩
    rw [← same, List.cons_append, List.cons_append, readWords, option]
    exact (bind_of_ok flagged).trans (bind_of_ok valued)
  | case6 => cases ok
  | case7 a unknown word kind rest flags o value option ih =>
    obtain ⟨b, flagged, ok⟩ := ok_of_bind ok
    obtain ⟨c, valued, ok⟩ := ok_of_bind ok
    obtain ⟨goes, same⟩ := ih c ok
    refine ⟨List.forall_mem_cons.mpr ⟨ne_dashes_of_options option, goes⟩, fun later => ?_⟩
    rw [← same, List.cons_append, readWords, option]
    exact (bind_of_ok flagged).trans (bind_of_ok valued)
  | case8 a unknown word kind rest flags o option ih =>
    obtain ⟨b, flagged, ok⟩ := ok_of_bind ok
    obtain ⟨c, valued, ok⟩ := ok_of_bind ok
    obtain ⟨goes, same⟩ := ih c ok
    refine ⟨List.forall_mem_cons.mpr ⟨ne_dashes_of_options option, goes⟩, fun later => ?_⟩
    rw [← same, List.cons_append, readWords, option]
    exact (bind_of_ok flagged).trans (bind_of_ok valued)

/-- What is read of a command line that was accepted. -/
theorem readWords_of_read {words : List Text} {a : Arguments} (accepted : read words = .ok a) :
    ∃ kinds, classifyAll words = .ok kinds ∧ readWords {} [] kinds = .ok (a, []) := by
  obtain ⟨kinds, classified, accepted⟩ := ok_of_bind accepted
  obtain ⟨⟨a', unknown⟩, ok, accepted⟩ := ok_of_bind accepted
  dsimp only at accepted
  split at accepted
  · rename_i known
    cases accepted
    exact ⟨kinds, ok_of_mapError classified, known ▸ ok⟩
  · cases accepted

/-- Options that are accepted by themselves, and then a command. -/
theorem read_append {options : List Text} {a : Arguments} (accepted : read options = .ok a)
    (bare : a.command = []) {word : Text} (start : word.head? ≠ some (CodePoint.ofChar '-'))
    (words : List Text) :
    read (options ++ word :: words) =
      match (words.takeWhile (· ≠ ("--" : Text))).find? (Ambiguous ·) with
      | some w => .error (.wrong (.ambiguous w (candidates w)))
      | none => .ok { a with command := word :: words } := by
  obtain ⟨kinds, classified, ok⟩ := readWords_of_read accepted
  obtain ⟨goes, same⟩ := readWords_append ok bare
  have all : classifyAll (options ++ word :: words) =
      (classifyAll words).map (kinds ++ (word, .plain) :: ·) := by
    rw [classifyAll_append classified goes,
      classifyAll_cons (classify_of_head start) OptionWord.noConfusion]
    cases classifyAll words <;> rfl
  have firsts := map_fst_classifyAll words
  rw [read, all]
  cases later : classifyAll words with
  | error e =>
    rw [later] at firsts
    split at firsts
    · cases firsts
      rfl
    · cases firsts
  | ok kinds' =>
    rw [later] at firsts
    split at firsts
    · cases firsts
    · have words_eq : kinds'.map Prod.fst = words := Except.ok.inj firsts
      show (readWords {} [] (kinds ++ (word, .plain) :: kinds') >>= _) = _
      rw [same]
      show Except.ok _ = _
      rw [words_eq]

/-- **The words of a command are taken as they are**, behind options that are accepted by
themselves, if none of its words up to two dashes is ambiguous. If there is such a word, the
command line is wrong because of the first one. -/
theorem command_verbatim {options : List Text} {a : Arguments} (accepted : read options = .ok a)
    (bare : a.command = []) {word : Text} (start : word.head? ≠ some (CodePoint.ofChar '-'))
    (words : List Text) :
    (read (options ++ word :: words) = .ok { a with command := word :: words } ↔
      ∀ w ∈ words.takeWhile (· ≠ ("--" : Text)), ¬ Ambiguous w) ∧
    ∀ w, (words.takeWhile (· ≠ ("--" : Text))).find? (Ambiguous ·) = some w →
      read (options ++ word :: words) = .error (.wrong (.ambiguous w (candidates w))) := by
  have result := read_append accepted bare start words
  constructor
  · cases first : (words.takeWhile (· ≠ ("--" : Text))).find? (Ambiguous ·) with
    | none =>
      rw [first] at result
      have clear := List.find?_eq_none.mp first
      simp only [decide_eq_true_eq] at clear
      exact ⟨fun _ => clear, fun _ => result⟩
    | some w =>
      rw [first] at result
      have ambiguous : Ambiguous w := by simpa using List.find?_some first
      rw [result]
      exact ⟨(nomatch ·),
        fun clear => absurd ambiguous (clear w (List.mem_of_find?_eq_some first))⟩
  · intro w first
    rw [result, first]

/-- A command keeps words that look like options, be they known or not. -/
theorem grep_verbatim : ∃ a, read ["-n", "2", "-t"] = .ok a ∧ a.command = [] ∧
    read ["-n", "2", "-t", "grep", "-0", "--null", "--max-c", "--", "--max"] =
      .ok { a with command := ["grep", "-0", "--null", "--max-c", "--", "--max"] } := by
  obtain ⟨a, accepted⟩ : ∃ a, read ["-n", "2", "-t"] = .ok a := ⟨_, rfl⟩
  have bare : a.command = [] := by cases accepted; rfl
  have start : ("grep" : Text).head? ≠ some (CodePoint.ofChar '-') := by decide
  exact ⟨a, accepted, bare, (command_verbatim accepted bare start _).1.mpr (by decide)⟩

/-- The first argument of a command could be short for two options: the command is not run. -/
theorem ambiguous_argument_refused : ∃ a, read [] = .ok a ∧ a.command = [] ∧
    read ["ls", "--max"] = .error (.wrong (.ambiguous "--max" [.maxArgs, .maxProcs])) :=
  ⟨_, rfl, rfl, rfl⟩

end Arguments

end BatchExec
