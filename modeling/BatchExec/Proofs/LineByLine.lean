import BatchExec.Proofs.Words

/-!
# Words read line by line

Words are taken out of one line after the other, and the next line is not read before a word of it
is asked for. A line ends with a blank, so no word is lost, cut or joined with another one: the
words of the lines are the words of the whole text.

* `Text.Runs`: a text with its words, each with what follows it.
* `Text.Runs.unique`, `Text.exists_runs`: **a text has its words, and no others.**
* `Text.Runs.append`: words on both sides of a blank.
* `Reading.wordsFrom_lines`: **the words of the lines are the words of the text.**
* `Reading.words_taken`: **a word is handed out when its line has been read**, and nothing more.
-/

namespace BatchExec

namespace Text

/-! ## Words and what follows them -/

/-- A word of a text and what follows it. -/
structure Run where
  word : Text
  after : Text

/-- A text with its words in order: the longest runs of characters that are not blank. -/
inductive Runs : Text → List Run → Prop
  /-- There are blanks only. -/
  | blank {t : Text} (blank : ∀ c ∈ t, c.isBlank = true) : Runs t []
  /-- The first word begins behind the blanks in front and ends where the text does or a blank
  follows. -/
  | word {t lead word after : Text} {runs : List Run} (whole : t = lead ++ (word ++ after))
      (blank : ∀ c ∈ lead, c.isBlank = true) (some : word ≠ [])
      (solid : ∀ c ∈ word, c.isBlank = false) (ends : after.startsSolid = false)
      (later : Runs after runs) : Runs t (⟨word, after⟩ :: runs)

variable {t : Text} {runs : List Run}

/-- The blanks in front of a text that goes on with a word. -/
theorem takeWhile_blank {lead rest : Text} (blank : ∀ c ∈ lead, c.isBlank = true)
    (solid : rest.startsSolid = true) : (lead ++ rest).takeWhile CodePoint.isBlank = lead := by
  rw [List.takeWhile_append_of_pos blank]
  cases rest with
  | nil => simp
  | cons c rest => simp_all [startsSolid]

/-- The word in front of a text that does not go on with it. -/
theorem takeWhile_solid {word rest : Text} (solid : ∀ c ∈ word, c.isBlank = false)
    (ends : rest.startsSolid = false) : (word ++ rest).takeWhile (!·.isBlank) = word := by
  rw [List.takeWhile_append_of_pos (by simpa using solid)]
  cases rest with
  | nil => simp
  | cons c rest => simp_all [startsSolid]

theorem startsSolid_append {word : Text} (some : word ≠ []) (solid : ∀ c ∈ word, c.isBlank = false)
    (rest : Text) : (word ++ rest).startsSolid = true := by
  obtain ⟨c, word, rfl⟩ := List.exists_cons_of_ne_nil some
  simp [startsSolid, solid c List.mem_cons_self]

/-- **A text has one list of words only.** -/
theorem Runs.unique (h : Runs t runs) {others : List Run} (h' : Runs t others) : runs = others := by
  induction h generalizing others with
  | @blank t blank =>
    cases h' with
    | blank => rfl
    | @word _ lead word after _ whole _ some solid =>
      obtain ⟨c, word, rfl⟩ := List.exists_cons_of_ne_nil some
      have visible := solid c List.mem_cons_self
      simp [blank c (by simp [whole])] at visible
  | @word t lead word after runs whole blank some solid ends _ ih =>
    cases h' with
    | blank blank' =>
      obtain ⟨c, word, rfl⟩ := List.exists_cons_of_ne_nil some
      have visible := solid c List.mem_cons_self
      simp [blank' c (by simp [whole])] at visible
    | @word _ lead' word' after' runs' whole' blank' some' solid' ends' later' =>
      have same : lead ++ (word ++ after) = lead' ++ (word' ++ after') := whole.symm.trans whole'
      have leads : lead = lead' := by
        rw [← takeWhile_blank blank (startsSolid_append some solid after), same,
          takeWhile_blank blank' (startsSolid_append some' solid' after')]
      rw [leads] at same
      have rest := List.append_cancel_left same
      have words : word = word' := by
        rw [← takeWhile_solid solid ends, rest, takeWhile_solid solid' ends']
      rw [words] at rest
      obtain rfl := List.append_cancel_left rest
      rw [words, ih later']

/-- Blanks in front of a text do not matter. -/
theorem Runs.prepend (h : Runs t runs) {lead : Text} (blank : ∀ c ∈ lead, c.isBlank = true) :
    Runs (lead ++ t) runs := by
  cases h with
  | blank blank' =>
    refine .blank fun c mem => ?_
    rcases List.mem_append.mp mem with early | late
    · exact blank c early
    · exact blank' c late
  | @word _ lead' word after _ whole blank' some solid ends later =>
    have whole' : lead ++ t = lead ++ lead' ++ (word ++ after) := by simp [whole]
    refine .word whole' (fun c mem => ?_) some solid ends later
    rcases List.mem_append.mp mem with early | late
    · exact blank c early
    · exact blank' c late

/-- **A text has its words.** -/
theorem exists_runs (t : Text) : ∃ runs, Runs t runs ∧ words t = runs.map Run.word := by
  induction t with
  | nil => exact ⟨[], .blank (by simp), rfl⟩
  | cons c rest ih =>
    obtain ⟨runs, h, same⟩ := ih
    rw [words_cons, same]
    by_cases blank : c.isBlank = true
    · rw [if_pos blank]
      have one : ∀ d ∈ [c], d.isBlank = true := by simpa using blank
      exact ⟨runs, h.prepend one, rfl⟩
    · rw [if_neg blank]
      rw [Bool.not_eq_true] at blank
      by_cases solid : startsSolid rest = true
      · rw [if_pos solid]
        -- the character belongs to the word with which the rest begins
        cases h with
        | blank blank' =>
          obtain ⟨d, rest, rfl⟩ := List.exists_cons_of_ne_nil
            (show rest ≠ [] from fun none => by simp [none, startsSolid] at solid)
          simp [startsSolid, blank' d List.mem_cons_self] at solid
        | @word _ lead word after runs whole blank' some solid' ends later =>
          have none : lead = [] := by
            cases lead with
            | nil => rfl
            | cons d lead => simp [whole, startsSolid, blank' d List.mem_cons_self] at solid
          have whole' : c :: rest = [] ++ ((c :: word) ++ after) := by simp [whole, none]
          refine ⟨⟨c :: word, after⟩ :: runs, .word whole' (by simp) (by simp) ?_ ends later, rfl⟩
          exact List.forall_mem_cons.mpr ⟨blank, solid'⟩
      · rw [if_neg solid]
        have whole' : c :: rest = [] ++ ([c] ++ rest) := rfl
        exact ⟨⟨[c], rest⟩ :: runs, .word whole' (by simp) (by simp) (by simpa using blank)
          (by simpa using solid) h, rfl⟩

theorem Runs.words_eq (h : Runs t runs) : words t = runs.map Run.word := by
  obtain ⟨others, h', same⟩ := exists_runs t
  rw [same, h.unique h']

/-- **A blank divides the words** into those in front of it and those behind it. -/
theorem Runs.append (h : Runs t runs) {c : CodePoint} (blank : c.isBlank = true) {rest : Text}
    {others : List Run} (h' : Runs rest others) :
    Runs (t ++ c :: rest) (runs.map (fun run => ⟨run.word, run.after ++ c :: rest⟩) ++ others) := by
  induction h with
  | @blank t blank' =>
    rw [List.append_cons]
    refine h'.prepend fun d mem => ?_
    rcases List.mem_append.mp mem with early | last
    · exact blank' d early
    · rw [List.mem_singleton.mp last]
      exact blank
  | @word t lead word after runs whole blank' some solid ends _ ih =>
    refine .word (by simp [whole]) blank' some solid ?_ ih
    cases after with
    | nil => simp [startsSolid, blank]
    | cons d after => simpa [startsSolid] using ends

/-- What follows a word is a part of the text. -/
theorem Runs.suffix (h : Runs t runs) : ∀ run ∈ runs, run.after <:+ t := by
  induction h with
  | blank => simp
  | @word t lead word after runs whole blank some solid ends _ ih =>
    have last : after <:+ t := ⟨lead ++ word, by simp [whole]⟩
    exact List.forall_mem_cons.mpr ⟨last, fun run mem => (ih run mem).trans last⟩

/-! ## Lines -/

/-- What follows the first line of a text. -/
def afterLine : Text → Text
  | [] => []
  | c :: rest => if c = '\n' then rest else afterLine rest

theorem afterLine_of_not_mem (free : CodePoint.ofChar '\n' ∉ t) : t.afterLine = [] := by
  induction t with
  | nil => rfl
  | cons c rest ih =>
    rw [List.mem_cons, not_or] at free
    rw [afterLine, if_neg (Ne.symm free.1), ih free.2]

theorem afterLine_append (free : CodePoint.ofChar '\n' ∉ t) (rest : Text) :
    afterLine (t ++ CodePoint.ofChar '\n' :: rest) = rest := by
  induction t with
  | nil => simp [afterLine]
  | cons c t ih =>
    rw [List.mem_cons, not_or] at free
    rw [List.cons_append, afterLine, if_neg (Ne.symm free.1), ih free.2]

theorem lines_of_not_mem (free : CodePoint.ofChar '\n' ∉ t) :
    lines t = if t = [] then [] else [t] := by
  induction t with
  | nil => rfl
  | cons c t ih =>
    rw [List.mem_cons, not_or] at free
    rw [lines, if_neg (Ne.symm free.1), ih free.2]
    by_cases none : t = [] <;> simp [none, consHead]

theorem lines_append (free : CodePoint.ofChar '\n' ∉ t) (rest : Text) :
    lines (t ++ CodePoint.ofChar '\n' :: rest) = (t ++ [CodePoint.ofChar '\n']) :: lines rest := by
  induction t with
  | nil => simp [lines]
  | cons c t ih =>
    rw [List.mem_cons, not_or] at free
    rw [List.cons_append, lines, if_neg (Ne.symm free.1), ih free.2]
    rfl

end Text

namespace Reading

/-! ## Reading -/

/-- Words are handed out up to the first one equal to `eof`, each when its line has been read. -/
def ofRuns (eof : Option Text) (runs : List Text.Run) : Reading :=
  let kept := runs.takeWhile fun run => some run.word != eof
  { items := kept.map fun run => ⟨run.word, run.after.afterLine⟩
    unread := (runs[kept.length]?).elim [] fun run => run.after.afterLine }

/-- A line is read, and what is unread begins behind it. -/
theorem wordsFrom_cons (eof : Option Text) {line unread rest : Text} {here : List Text.Run}
    (words : line.words = here.map Text.Run.word) (left : unread.drop line.length = rest)
    (ends : ∀ run ∈ here, run.after.afterLine = rest) (later : List Text)
    (others : List Text.Run) (same : wordsFrom eof later rest = ofRuns eof others) :
    wordsFrom eof (line :: later) unread = ofRuns eof (here ++ others) := by
  obtain ⟨kept, cut⟩ : ∃ kept, kept = here.takeWhile fun run => some run.word != eof := ⟨_, rfl⟩
  have items : (line.words.takeWhile fun word => some word != eof).map
      (fun word => (⟨word, rest⟩ : Item)) =
        kept.map fun run => ⟨run.word, run.after.afterLine⟩ := by
    rw [words, List.takeWhile_map, List.map_map, cut]
    refine List.map_congr_left fun run mem => ?_
    rw [ends run (List.takeWhile_subset _ mem)]
    rfl
  have length : (line.words.takeWhile fun word => some word != eof).length = kept.length := by
    simpa using congrArg List.length items
  have total : line.words.length = here.length := by simp [words]
  simp only [wordsFrom, left, items, length, total, same, ofRuns, List.takeWhile_append, ← cut]
  by_cases stops : kept.length < here.length
  · -- the first word that is not kept is in this line
    rw [if_pos stops, if_neg (Nat.ne_of_lt stops), List.getElem?_append_left stops,
      List.getElem?_eq_getElem stops, Option.elim_some, ends _ (List.getElem_mem stops)]
  · have le : kept.length ≤ here.length := by
      rw [cut]
      exact (List.takeWhile_prefix _).length_le
    have all : kept.length = here.length := by omega
    have whole : kept = here := by
      rw [cut] at all ⊢
      exact (List.takeWhile_prefix _).eq_of_length all
    rw [if_neg stops, if_pos all, whole, List.length_append,
      List.getElem?_append_right (Nat.le_add_right _ _), Nat.add_sub_cancel_left, List.map_append]
    rfl

/-- **The words of the lines are the words of the text.** -/
theorem wordsFrom_lines (eof : Option Text) {t : Text} {runs : List Text.Run}
    (h : Text.Runs t runs) : wordsFrom eof t.lines t = ofRuns eof runs := by
  induction t using terminatedInduction (CodePoint.ofChar '\n') generalizing runs with
  | free t free =>
    have ends : ∀ run ∈ runs, run.after.afterLine = [] := fun run mem =>
      Text.afterLine_of_not_mem fun feed => free ((h.suffix run mem).subset feed)
    rw [Text.lines_of_not_mem free]
    by_cases none : t = []
    · have empty : runs = [] := h.unique (none ▸ .blank (by simp))
      simp [none, empty, wordsFrom, ofRuns]
    · rw [if_neg none]
      simpa using wordsFrom_cons eof h.words_eq List.drop_length ends [] [] rfl
  | ended l m free ih =>
    obtain ⟨here, inLine, -⟩ := Text.exists_runs l
    obtain ⟨others, behind, -⟩ := Text.exists_runs m
    obtain rfl := h.unique (inLine.append Text.isBlank_feed behind)
    have ends : ∀ run ∈ here.map fun run => (⟨run.word, run.after ++ CodePoint.ofChar '\n' :: m⟩ :
        Text.Run), run.after.afterLine = m := by
      intro run mem
      obtain ⟨first, listed, rfl⟩ := List.mem_map.mp mem
      exact Text.afterLine_append (fun feed => free ((inLine.suffix first listed).subset feed)) m
    rw [Text.lines_append free]
    refine wordsFrom_cons eof ?_ ?_ ends _ others (ih behind)
    · have line := (inLine.append Text.isBlank_feed (.blank (by simp) : Text.Runs [] [])).words_eq
      rw [line]
      simp [Function.comp_def]
    · simp

/-- Reading words in any number hands out the words of the text. -/
theorem take_ofRuns (eof : Option Text) (runs : List Text.Run) (input : Text) (count : Nat) :
    let kept := runs.takeWhile fun run => some run.word != eof
    (ofRuns eof runs).take input (some (count + 1)) = match kept[count]? with
      | some run =>
        { texts := (kept.take (count + 1)).map Text.Run.word, unread := run.after.afterLine }
      | none => (ofRuns eof runs).takeAll := by
  dsimp only
  simp only [take, ofRuns, texts, List.getElem?_map, List.map_map, Function.comp_def,
    List.map_take]
  cases (runs.takeWhile fun run => some run.word != eof)[count]? <;> rfl

/-- **Words are read line by line.** The items are the words of the text up to the first one equal
to `eof`. When a word has been taken, what is unread follows its line; when all have been taken,
what is unread follows the line of the word equal to `eof`, and nothing is unread if there is none.
-/
theorem words_taken (delimiter eof : Option Text) (size : Nat) (input : Text) :
    ∃ runs, (∀ others, Text.Runs input others ↔ others = runs) ∧
      ∃ r, inMode .whitespace delimiter eof size input = .ok r ∧
        let kept := runs.takeWhile fun run => some run.word != eof
        let all : Taken := {
          texts := kept.map Text.Run.word
          unread := (runs[kept.length]?).elim [] fun run => run.after.afterLine }
        r.take input none = all ∧
        r.take input (some 0) = { texts := [], unread := input } ∧
        ∀ count, r.take input (some (count + 1)) = match kept[count]? with
          | some run =>
            { texts := (kept.take (count + 1)).map Text.Run.word, unread := run.after.afterLine }
          | none => all := by
  obtain ⟨runs, h, -⟩ := Text.exists_runs input
  have read : words eof input = ofRuns eof runs := wordsFrom_lines eof h
  have whole : (ofRuns eof runs).takeAll = {
      texts := (runs.takeWhile fun run => some run.word != eof).map Text.Run.word
      unread := (ofRuns eof runs).unread } := by
    simp [takeAll, texts, ofRuns, Function.comp_def]
  refine ⟨runs, fun others => ⟨fun h' => h'.unique h, fun same => same ▸ h⟩, ofRuns eof runs,
    congrArg Except.ok read, whole, rfl, fun count => ?_⟩
  rw [take_ofRuns, whole]
  rfl

/-- A word that ends the input ends it in the middle of a line, the rest of which is lost. -/
example : (words (some "end") "a b\nc end d\ne").takeAll = ⟨["a", "b", "c"], "e", none⟩ := by decide

end Reading

end BatchExec
