import BatchExec.Command
import BatchExec.Proofs.Pieces

/-!
# Reading command lines

A shell divides a line into words at unquoted blanks. A word is put together from parts: characters
that mean only themselves, characters behind a backslash, and texts in quotes. Nothing is expanded
between single quotes, so a command line in which whatever might be more than itself is quoted that
way means its words and nothing else.

* `Text.Typed`: a line with the words that a shell reads from it.
* `Text.shellWords?_eq_some_iff`: **the reader finds the words of a line, and no others.**
* `Text.typed_commandLine`: a line made of words is read as these words.
* `Invocation.display_determines_argv`: **a command line as it is shown can be read in one way.**
-/

namespace BatchExec

namespace Text

/-! ## Lines and words -/

/-- What is written between double quotes, with what it means. -/
inductive Enclosed : Text → Text → Prop
  | nothing : Enclosed [] []
  | plain {written t : Text} {c : CodePoint} (before : Enclosed written t)
      (plain : c.isDoubleSpecial = false) : Enclosed (written ++ [c]) (t ++ [c])
  /-- Behind a backslash a character is only itself, -/
  | escaped {written t : Text} {c : CodePoint} (before : Enclosed written t)
      (special : c.isDoubleSpecial = true) : Enclosed (written ++ ("\\" ++ [c])) (t ++ [c])
  /-- but in front of one that is no more than that the backslash stays. -/
  | kept {written t : Text} {c : CodePoint} (before : Enclosed written t)
      (plain : c.isDoubleSpecial = false) (sameLine : c ≠ '\n') :
      Enclosed (written ++ ("\\" ++ [c])) (t ++ ("\\" ++ [c]))
  /-- The line goes on behind a line feed. -/
  | continued {written t : Text} (before : Enclosed written t) :
      Enclosed (written ++ "\\\n") t

/-- A part of a word as it is written, with what it means. -/
inductive Part : Text → Text → Prop
  | bare {c : CodePoint} (plain : c.isShellSpecial = false) : Part [c] [c]
  | escaped {c : CodePoint} (sameLine : c ≠ '\n') : Part ("\\" ++ [c]) [c]
  | single {t : Text} (free : CodePoint.ofChar '\'' ∉ t) : Part ("'" ++ t ++ "'") t
  | double {written t : Text} (enclosed : Enclosed written t) : Part ("\"" ++ written ++ "\"") t

/-- What is written without an unquoted blank, with the word that it means; it means none if it has
no part. -/
inductive Written : Text → Option Text → Prop
  | nothing : Written [] none
  | part {written next t : Text} {word : Option Text} (before : Written written word)
      (part : Part next t) : Written (written ++ next) (some (word.getD [] ++ t))
  /-- The line goes on behind a line feed. -/
  | continued {written : Text} {word : Option Text} (before : Written written word) :
      Written (written ++ "\\\n") word

/-- A line with the words that a shell reads from it. -/
inductive Typed : Text → List Text → Prop
  | last {line : Text} {word : Option Text} (written : Written line word) : Typed line word.toList
  | blank {written later : Text} {word : Option Text} {words : List Text} {c : CodePoint}
      (before : Written written word) (blank : c.isShellBlank = true) (rest : Typed later words) :
      Typed (written ++ c :: later) (word.toList ++ words)

/-! ## The reader -/

theorem isShellSpecial_of_isShellBlank {c : CodePoint} (blank : c.isShellBlank = true) :
    c.isShellSpecial = true := by
  have all : (ofString " \t").all CodePoint.isShellSpecial = true := by decide
  exact List.all_eq_true.mp all c (List.contains_iff_mem.mp blank)

theorem isShellSpecial_of_isShellSafe {c : CodePoint} (safe : c.isShellSafe = true) :
    c.isShellSpecial = false := by
  have none : (ofString " \t\n'\"\\|&;<>()$`*?[#~").any CodePoint.isShellSafe = false := by decide
  by_contra special
  have listed := List.contains_iff_mem.mp (eq_true_of_ne_false special)
  exact List.any_eq_false.mp none c listed safe

variable {line written t : Text} {word : Option Text} {words : List Text}

theorem shellWordsFrom?_single (free : CodePoint.ofChar '\'' ∉ t) (word rest : Text) :
    shellWordsFrom? .single (some word) (t ++ "'" ++ rest) =
      shellWordsFrom? .bare (some (word ++ t)) rest := by
  induction t generalizing word with
  | nil =>
    rw [List.append_nil]
    rfl
  | cons c t ih =>
    rw [List.mem_cons, not_or] at free
    rw [List.cons_append, List.cons_append, shellWordsFrom?, if_neg (Ne.symm free.1), ih free.2]
    simp

theorem shellWordsFrom?_enclosed (enclosed : Enclosed written t) (word rest : Text) :
    shellWordsFrom? .double (some word) (written ++ rest) =
      shellWordsFrom? .double (some (word ++ t)) rest := by
  induction enclosed generalizing rest with
  | nothing => simp
  | @plain written t c before plain ih =>
    have quote : c ≠ '"' := ne_of_apply_ne _ (plain.trans_ne (by decide))
    have backslash : c ≠ '\\' := ne_of_apply_ne _ (plain.trans_ne (by decide))
    rw [List.append_assoc, ih]
    simp [shellWordsFrom?, quote, backslash, plain]
  | @escaped written t c before special ih =>
    have sameLine : c ≠ '\n' := ne_of_apply_ne _ (special.trans_ne (by decide))
    rw [List.append_assoc, ih]
    show shellWordsFrom? .doubleEscaped (some (word ++ t)) (c :: rest) = _
    simp [shellWordsFrom?, sameLine, special]
  | @kept written t c before plain sameLine ih =>
    rw [List.append_assoc, ih]
    show shellWordsFrom? .doubleEscaped (some (word ++ t)) (c :: rest) = _
    simp [shellWordsFrom?, sameLine, plain]
    rfl
  | continued before ih =>
    rw [List.append_assoc, ih]
    rfl

/-- The reader reads a part of a word. -/
theorem shellWordsFrom?_part (part : Part written t) (word : Option Text) (rest : Text) :
    shellWordsFrom? .bare word (written ++ rest) =
      shellWordsFrom? .bare (some (word.getD [] ++ t)) rest := by
  cases part with
  | @bare c plain =>
    have solid : ¬ c.isShellBlank = true := fun blank =>
      Bool.false_ne_true (plain.symm.trans (isShellSpecial_of_isShellBlank blank))
    have single : c ≠ '\'' := ne_of_apply_ne _ (plain.trans_ne (by decide))
    have double : c ≠ '"' := ne_of_apply_ne _ (plain.trans_ne (by decide))
    have backslash : c ≠ '\\' := ne_of_apply_ne _ (plain.trans_ne (by decide))
    simp [shellWordsFrom?, solid, single, double, backslash, plain]
  | @escaped c sameLine =>
    show shellWordsFrom? .escaped word (c :: rest) = _
    rw [shellWordsFrom?, if_neg sameLine]
  | single free =>
    show shellWordsFrom? .single (some (word.getD [])) (t ++ "'" ++ rest) = _
    exact shellWordsFrom?_single free _ rest
  | @double written t enclosed =>
    show shellWordsFrom? .double (some (word.getD [])) (written ++ "\"" ++ rest) = _
    rw [List.append_assoc, shellWordsFrom?_enclosed enclosed]
    rfl

/-- The reader reads up to a blank. -/
theorem shellWordsFrom?_written (held : Written written word) (rest : Text) :
    shellWordsFrom? .bare none (written ++ rest) = shellWordsFrom? .bare word rest := by
  induction held generalizing rest with
  | nothing => rfl
  | part before part ih => rw [List.append_assoc, ih, shellWordsFrom?_part part]
  | continued before ih =>
    rw [List.append_assoc, ih]
    rfl

theorem shellWords?_of_typed (typed : Typed line words) : shellWords? line = some words := by
  induction typed with
  | @last line word written =>
    have read := shellWordsFrom?_written written []
    rw [List.append_nil] at read
    rw [shellWords?, read]
    rfl
  | blank before blank rest ih =>
    rw [shellWords?] at ih ⊢
    rw [shellWordsFrom?_written before, shellWordsFrom?, if_pos blank, ih]
    rfl

/-! ## What the reader has read -/

/-- What has been written since the last blank when the reader is inside of something, with the word
that it has read by then. -/
def Reached : ShellQuoting → Text → Option Text → Prop
  | .bare, line, word => Written line word
  | .escaped, line, word => ∃ written, line = written ++ "\\" ∧ Written written word
  | .single, line, word => ∃ written before t, line = written ++ ("'" ++ t) ∧
      Written written before ∧ CodePoint.ofChar '\'' ∉ t ∧ word = some (before.getD [] ++ t)
  | .double, line, word => ∃ written before inner t, line = written ++ ("\"" ++ inner) ∧
      Written written before ∧ Enclosed inner t ∧ word = some (before.getD [] ++ t)
  | .doubleEscaped, line, word => ∃ written before inner t,
      line = written ++ ("\"" ++ inner ++ "\\") ∧
      Written written before ∧ Enclosed inner t ∧ word = some (before.getD [] ++ t)

/-- What the reader reads from there on is what the line goes on with. -/
theorem typed_of_reached {inside : ShellQuoting} {word : Option Text} {written : Text}
    (reached : Reached inside written word) {rest : Text} {words : List Text}
    (read : shellWordsFrom? inside word rest = some words) : Typed (written ++ rest) words := by
  fun_induction shellWordsFrom? inside word rest generalizing written words with
  | case1 word =>
    rw [List.append_nil, ← Option.some.inj read]
    exact .last reached
  | case2 => contradiction
  | case3 word c rest blank ih =>
    obtain ⟨later, read', rfl⟩ := Option.map_eq_some_iff.mp read
    exact .blank reached blank (ih (show Written [] none from .nothing) read')
  | case4 word rest _ ih =>
    rw [List.append_cons]
    exact ih ⟨written, word, [], rfl, reached, List.not_mem_nil, by simp⟩ read
  | case5 word rest _ _ ih =>
    rw [List.append_cons]
    exact ih ⟨written, word, [], [], rfl, reached, .nothing, by simp⟩ read
  | case6 word rest _ _ _ ih =>
    rw [List.append_cons]
    exact ih ⟨written, rfl, reached⟩ read
  | case7 => contradiction
  | case8 word c rest _ _ _ _ plain ih =>
    rw [List.append_cons]
    exact ih (.part reached (.bare (eq_false_of_ne_true plain))) read
  | case9 word rest ih =>
    obtain ⟨written, rfl, before⟩ := reached
    rw [List.append_cons, List.append_assoc written]
    exact ih (.continued before) read
  | case10 word c rest sameLine ih =>
    obtain ⟨written, rfl, before⟩ := reached
    rw [List.append_cons, List.append_assoc written]
    exact ih (.part before (.escaped sameLine)) read
  | case11 word rest ih =>
    obtain ⟨written, word, t, rfl, before, free, rfl⟩ := reached
    rw [List.append_cons, List.append_assoc written]
    exact ih (.part before (.single free)) read
  | case12 word c rest other ih =>
    obtain ⟨written, word, t, rfl, before, free, rfl⟩ := reached
    rw [List.append_cons, List.append_assoc written]
    refine ih ⟨written, word, t ++ [c], by simp, before, ?_, by simp⟩ read
    simpa [free] using Ne.symm other
  | case13 word rest ih =>
    obtain ⟨written, word, inner, t, rfl, before, enclosed, rfl⟩ := reached
    rw [List.append_cons, List.append_assoc written]
    exact ih (.part before (.double enclosed)) read
  | case14 word rest _ ih =>
    obtain ⟨written, word, inner, t, rfl, before, enclosed, rfl⟩ := reached
    rw [List.append_cons, List.append_assoc written]
    exact ih ⟨written, word, inner, t, rfl, before, enclosed, rfl⟩ read
  | case15 => contradiction
  | case16 word c rest _ _ plain ih =>
    obtain ⟨written, word, inner, t, rfl, before, enclosed, rfl⟩ := reached
    rw [List.append_cons, List.append_assoc written]
    exact ih ⟨written, word, inner ++ [c], t ++ [c], by simp, before,
      .plain enclosed (eq_false_of_ne_true plain), by simp⟩ read
  | case17 word rest ih =>
    obtain ⟨written, word, inner, t, rfl, before, enclosed, rfl⟩ := reached
    rw [List.append_cons, List.append_assoc written]
    exact ih ⟨written, word, inner ++ "\\\n", t, by simp; rfl, before, .continued enclosed,
      rfl⟩ read
  | case18 word c rest _ special ih =>
    obtain ⟨written, word, inner, t, rfl, before, enclosed, rfl⟩ := reached
    rw [List.append_cons, List.append_assoc written]
    exact ih ⟨written, word, inner ++ ("\\" ++ [c]), t ++ [c], by simp, before,
      .escaped enclosed special, by simp⟩ read
  | case19 word c rest sameLine plain ih =>
    obtain ⟨written, word, inner, t, rfl, before, enclosed, rfl⟩ := reached
    rw [List.append_cons, List.append_assoc written]
    exact ih ⟨written, word, inner ++ ("\\" ++ [c]),
      t ++ ("\\" ++ [c]), by simp, before,
      .kept enclosed (eq_false_of_ne_true plain) sameLine, by simp; rfl⟩ read

/-- **The reader finds the words of a line, and no others.** -/
theorem shellWords?_eq_some_iff : shellWords? line = some words ↔ Typed line words :=
  ⟨typed_of_reached (show Reached .bare [] none from .nothing), shellWords?_of_typed⟩

/-! ## Lines made of words -/

/-- Safe characters mean only themselves. -/
theorem written_safe (before : Written written word) {t : Text}
    (safe : ∀ c ∈ t, c.isShellSafe = true) (nonempty : t ≠ []) :
    Written (written ++ t) (some (word.getD [] ++ t)) := by
  induction t generalizing written word with
  | nil => exact absurd rfl nonempty
  | cons c t ih =>
    have plain := isShellSpecial_of_isShellSafe (safe c List.mem_cons_self)
    have first := Written.part before (.bare plain)
    cases t with
    | nil => exact first
    | cons d t =>
      have later := ih first (fun e mem => safe e (List.mem_cons_of_mem c mem))
        (List.cons_ne_nil d t)
      simpa using later

theorem flatMap_shellQuoteChar_of_not_mem {t : Text} (free : CodePoint.ofChar '\'' ∉ t) :
    t.flatMap shellQuoteChar = t := by
  induction t with
  | nil => rfl
  | cons c t ih =>
    rw [List.mem_cons, not_or] at free
    rw [List.flatMap_cons, shellQuoteChar, if_neg (Ne.symm free.1), ih free.2]
    rfl

/-- Whatever is in single quotes means only itself. A single quote ends them: it stands between
double quotes, and others begin behind it. -/
theorem written_quoted (before : Written written word) (t : Text) :
    Written (written ++ ("'" ++ t.flatMap shellQuoteChar ++ "'")) (some (word.getD [] ++ t)) := by
  induction t using terminatedInduction (CodePoint.ofChar '\'') generalizing written word with
  | free t free =>
    rw [flatMap_shellQuoteChar_of_not_mem free]
    exact .part before (.single free)
  | ended l m free ih =>
    have first := Written.part before (.single free)
    have quote : Part (ofString "\"'\"") [CodePoint.ofChar '\''] :=
      .double (.plain .nothing (by decide))
    have later := ih (.part first quote)
    have escape : shellQuoteChar (CodePoint.ofChar '\'') = ofString "'" ++ "\"'\"" ++ "'" := by
      decide
    rw [List.flatMap_append, flatMap_shellQuoteChar_of_not_mem free, List.flatMap_cons, escape]
    simpa using later

theorem written_shellQuote (t : Text) : Written (shellQuote t) (some t) := by
  unfold shellQuote
  split
  · rename_i none
    rw [none]
    exact .part .nothing (.single List.not_mem_nil)
  · rename_i nonempty
    split
    · rename_i safe
      exact written_safe .nothing (List.all_eq_true.mp safe) nonempty
    · exact written_quoted .nothing t

theorem commandLine_cons (t : Text) (words : List Text) (later : words ≠ []) :
    commandLine (t :: words) = shellQuote t ++ CodePoint.ofChar ' ' :: commandLine words := by
  obtain ⟨u, words, rfl⟩ := List.exists_cons_of_ne_nil later
  simp [commandLine, join, List.intercalate]
  rfl

/-- **A line made of words is read as these words.** -/
theorem typed_commandLine (words : List Text) : Typed (commandLine words) words := by
  induction words with
  | nil => exact .last .nothing
  | cons t words ih =>
    by_cases none : words = []
    · rw [none]
      have last := Typed.last (written_shellQuote t)
      simpa [commandLine, join, List.intercalate] using last
    · rw [commandLine_cons t words none]
      exact .blank (written_shellQuote t) (by decide) ih

end Text

/-- **A command line as it is shown can be read in one way**: as the words that it is made of. So
two command lines that are shown alike are the same. -/
theorem Invocation.display_determines_argv (i : Invocation) :
    Text.shellWords? i.display = some i.argv ∧
      (∀ words, Text.Typed i.display words ↔ words = i.argv) ∧
      ∀ j : Invocation, j.display = i.display ↔ j.argv = i.argv := by
  have read (j : Invocation) : Text.shellWords? j.display = some j.argv :=
    Text.shellWords?_eq_some_iff.mpr (Text.typed_commandLine j.argv)
  refine ⟨read i, fun words => ?_, fun j => ⟨fun same => ?_, fun same => ?_⟩⟩
  · rw [← Text.shellWords?_eq_some_iff, read i, Option.some.injEq]
    exact eq_comm
  · exact Option.some.inj ((read j).symm.trans (same ▸ read i))
  · rw [display, display, same]

end BatchExec
