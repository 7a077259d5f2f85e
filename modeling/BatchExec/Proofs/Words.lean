import BatchExec.CommandLine
import BatchExec.Proofs.Commands
import BatchExec.Proofs.Pieces

/-!
# Words of files

Bytes are decoded, line ends are normalized, lines are read and each is divided into words. None of
this loses, merges or alters a byte of a word: the words are what is between the blanks of the bytes
themselves.

* `weave`: items with gaps around them.
* `Text.Spaced`: words with blanks around them.
* `Text.exists_spaced`: **a text is its words and the blanks around them.**
* `Text.words_normalizeNewlines`, `Reading.texts_words`: neither line ends nor lines matter.
* `CommandLine.words_keep_bytes`: **a file is the bytes of its words and the blanks around them.**
-/

namespace BatchExec

/-- Items with gaps around them: one in front, and one behind each. -/
def weave {α : Type} (lead : List α) (items gaps : List (List α)) : List α :=
  lead ++ (List.zipWith (· ++ ·) items gaps).flatten

namespace Text

/-- Words with blanks around them: some in front, and some behind each. Between two words there is
at least one blank. -/
structure Spaced (words : List Text) (lead : Text) (gaps : List Text) : Prop where
  length : gaps.length = words.length
  /-- Gaps are blank. -/
  blank : ∀ gap ∈ lead :: gaps, ∀ c ∈ gap, c.isBlank = true
  /-- Words are apart. -/
  apart : ∀ gap ∈ gaps.dropLast, gap ≠ []
  /-- A word has characters, none of which is blank. -/
  solid : ∀ word ∈ words, word ≠ [] ∧ ∀ c ∈ word, c.isBlank = false

/-! ### The words of a text -/

/-- Whether a text goes on with a word. -/
def startsSolid (t : Text) : Bool := t.head?.any fun c => !c.isBlank

/-- A word ends in front of a blank. -/
theorem words_cons (c : CodePoint) (rest : Text) :
    words (c :: rest) =
      if c.isBlank then words rest
      else if rest.startsSolid then consHead c (words rest) else [c] :: words rest := by
  rw [words.eq_def]
  cases rest with
  | nil => rfl
  | cons next rest =>
    cases blank : next.isBlank <;> simp [startsSolid, blank]

theorem words_ne_nil {t : Text} (solid : t.startsSolid = true) : words t ≠ [] := by
  cases t with
  | nil => cases solid
  | cons c rest =>
    have visible : c.isBlank = false := by simpa [startsSolid] using solid
    rw [words_cons, visible, if_neg Bool.false_ne_true]
    split
    · exact consHead_ne_nil _ _
    · exact List.cons_ne_nil _ _

theorem Spaced.cons_blank {words gaps : List Text} {lead : Text} (spaced : Spaced words lead gaps)
    {c : CodePoint} (blank : c.isBlank = true) : Spaced words (c :: lead) gaps where
  length := spaced.length
  blank := List.forall_mem_cons.mpr ⟨List.forall_mem_cons.mpr
    ⟨blank, (List.forall_mem_cons.mp spaced.blank).1⟩, (List.forall_mem_cons.mp spaced.blank).2⟩
  apart := spaced.apart
  solid := spaced.solid

/-- A text that goes on with a word has no blanks in front. -/
theorem Spaced.lead_eq_nil {words gaps : List Text} {lead : Text} (spaced : Spaced words lead gaps)
    (solid : startsSolid (weave lead words gaps) = true) : lead = [] := by
  cases lead with
  | nil => rfl
  | cons c lead =>
    have blank := spaced.blank _ List.mem_cons_self c List.mem_cons_self
    simp [weave, startsSolid, blank] at solid

/-- A text with words goes on with the first one unless there are blanks in front. -/
theorem Spaced.lead_ne_nil {words gaps : List Text} {lead : Text} (spaced : Spaced words lead gaps)
    (some : gaps ≠ []) (hollow : ¬ startsSolid (weave lead words gaps) = true) : lead ≠ [] := by
  rintro rfl
  cases words with
  | nil => exact some (List.length_eq_zero_iff.mp spaced.length)
  | cons word words =>
    obtain ⟨gap, gaps, rfl⟩ := List.exists_cons_of_ne_nil some
    obtain ⟨long, visible⟩ := spaced.solid word List.mem_cons_self
    obtain ⟨c, word, rfl⟩ := List.exists_cons_of_ne_nil long
    have first := visible c List.mem_cons_self
    simp [weave, startsSolid, first] at hollow

/-- A character makes the word behind it longer. -/
theorem Spaced.cons_solid {word : Text} {words gaps : List Text}
    (spaced : Spaced (word :: words) [] gaps) {c : CodePoint} (visible : c.isBlank = false) :
    Spaced ((c :: word) :: words) [] gaps where
  length := spaced.length
  blank := spaced.blank
  apart := spaced.apart
  solid := by
    obtain ⟨here, later⟩ := List.forall_mem_cons.mp spaced.solid
    exact List.forall_mem_cons.mpr ⟨⟨List.cons_ne_nil _ _,
      List.forall_mem_cons.mpr ⟨visible, here.2⟩⟩, later⟩

/-- A character is a word of its own in front of blanks. -/
theorem Spaced.cons_word {words gaps : List Text} {lead : Text} (spaced : Spaced words lead gaps)
    (apart : gaps ≠ [] → lead ≠ []) {c : CodePoint} (visible : c.isBlank = false) :
    Spaced ([c] :: words) [] (lead :: gaps) where
  length := congrArg (· + 1) spaced.length
  blank := List.forall_mem_cons.mpr ⟨fun c mem => absurd mem List.not_mem_nil, spaced.blank⟩
  apart := by
    cases gaps with
    | nil => simp
    | cons gap gaps =>
      exact List.forall_mem_cons.mpr ⟨apart (List.cons_ne_nil _ _), spaced.apart⟩
  solid := List.forall_mem_cons.mpr ⟨⟨List.cons_ne_nil _ _, by simpa using visible⟩, spaced.solid⟩

/-- **A text is its words and the blanks around them.** -/
theorem exists_spaced (t : Text) :
    ∃ lead gaps, t = weave lead (words t) gaps ∧ Spaced (words t) lead gaps := by
  -- a character joins the blanks in front or the first word, or it is a word of its own
  induction t with
  | nil => exact ⟨[], [], rfl, rfl, by simp, by simp, by simp [words]⟩
  | cons c rest ih =>
    obtain ⟨lead, gaps, whole, spaced⟩ := ih
    rw [words_cons]
    split
    · rename_i blank
      exact ⟨c :: lead, gaps, congrArg (c :: ·) whole, spaced.cons_blank blank⟩
    · rename_i visible
      rw [Bool.not_eq_true] at visible
      split
      · rename_i solid
        obtain ⟨word, later, first⟩ := List.exists_cons_of_ne_nil (words_ne_nil solid)
        rw [first] at whole spaced ⊢
        obtain rfl := spaced.lead_eq_nil (whole ▸ solid)
        have length : gaps.length = later.length + 1 := spaced.length
        obtain ⟨gap, gaps, rfl⟩ := List.exists_cons_of_length_eq_add_one length
        exact ⟨[], gap :: gaps, congrArg (c :: ·) whole, spaced.cons_solid visible⟩
      · rename_i hollow
        exact ⟨[], lead :: gaps, congrArg (c :: ·) whole,
          spaced.cons_word (fun some => spaced.lead_ne_nil some (whole ▸ hollow)) visible⟩

/-! ### Line ends and lines -/

theorem isBlank_return : (CodePoint.ofChar '\r').isBlank = true := rfl

theorem isBlank_feed : (CodePoint.ofChar '\n').isBlank = true := rfl

theorem words_cons_blank {c : CodePoint} (blank : c.isBlank = true) (rest : Text) :
    words (c :: rest) = words rest := by
  rw [words_cons, if_pos blank]

theorem startsSolid_normalizeNewlines (t : Text) :
    startsSolid t.normalizeNewlines = startsSolid t := by
  fun_induction normalizeNewlines t with
  | case1 => rfl
  | case2 rest feed ih =>
    rw [ih]
    simp [startsSolid, feed, isBlank_return, isBlank_feed]
  | case3 => rfl
  | case4 => rfl

/-- **Line ends do not matter to words.** -/
theorem words_normalizeNewlines (t : Text) : words t.normalizeNewlines = words t := by
  fun_induction normalizeNewlines t with
  | case1 => rfl
  | case2 rest feed ih => rw [ih, words_cons_blank isBlank_return]
  | case3 rest single ih => rw [words_cons_blank isBlank_feed, words_cons_blank isBlank_return, ih]
  | case4 c rest other ih => rw [words_cons, words_cons, ih, startsSolid_normalizeNewlines]

theorem consHead_append (c : CodePoint) {pieces : List Text} (some : pieces ≠ [])
    (more : List Text) : consHead c pieces ++ more = consHead c (pieces ++ more) := by
  cases pieces with
  | nil => contradiction
  | cons => rfl

/-- The first line starts as the text does. -/
theorem startsSolid_of_lines {t line : Text} {later : List Text} (first : lines t = line :: later) :
    startsSolid line = startsSolid t := by
  cases t with
  | nil => cases first
  | cons c rest =>
    rw [lines] at first
    split at first
    · cases first
      rfl
    · cases more : lines rest with
      | nil =>
        rw [more] at first
        cases first
        rfl
      | cons next others =>
        rw [more] at first
        cases first
        rfl

/-- **Lines do not matter to words.** -/
theorem flatMap_words_lines (t : Text) : (lines t).flatMap words = words t := by
  induction t with
  | nil => rfl
  | cons c rest ih =>
    rw [lines]
    split
    · rename_i feed
      have blank : c.isBlank = true := by rw [feed]; exact isBlank_feed
      rw [List.flatMap_cons, ih, words_cons_blank blank, words_cons_blank blank]
      rfl
    · cases more : lines rest with
      | nil =>
        have none : rest = [] := by rw [← flatten_lines rest, more]; rfl
        rw [none]
        simp [consHead]
      | cons line later =>
        rw [more, List.flatMap_cons] at ih
        show words (c :: line) ++ later.flatMap words = _
        rw [words_cons, words_cons, startsSolid_of_lines more, ← ih]
        split
        · rfl
        · split
          · rename_i solid
            exact consHead_append c (words_ne_nil (startsSolid_of_lines more ▸ solid)) _
          · rfl

end Text

namespace Reading

theorem texts_wordsFrom (lines : List Text) (unread : Text) :
    (wordsFrom none lines unread).texts = lines.flatMap Text.words := by
  induction lines generalizing unread with
  | nil => rfl
  | cons line later ih =>
    have kept : (line.words.takeWhile fun word => some word != none) = line.words :=
      List.takeWhile_eq_self_iff.mpr fun _ _ => rfl
    simp only [wordsFrom, kept, Nat.lt_irrefl, if_false]
    rw [texts_prepend, ih, List.flatMap_cons, List.map_map]
    congr 1
    exact List.map_id _

/-- All words of an input are read if no word ends the input. -/
theorem texts_words (input : Text) : (words none input).texts = input.words := by
  rw [words, texts_wordsFrom, Text.flatMap_words_lines]

theorem error_wordsFrom (eof : Option Text) (lines : List Text) (unread : Text) :
    (wordsFrom eof lines unread).error = none := by
  fun_induction wordsFrom eof lines unread with
  | case1 => rfl
  | case2 => rfl
  | case3 _ _ _ _ _ _ _ _ ih => exact ih

end Reading

/-! ### Configurations of command lines -/

namespace Arguments

variable {a : Arguments} {environment : Environment} {config : Config}

/-- What a command line says of its input and of the command is in its configuration. -/
theorem input_of_config (accepted : a.config environment = .ok config) :
    config.inputMode = a.inputMode ∧ config.eof = a.eof.bind OptionValue.given? ∧
      a.decodedDelimiter = .ok config.delimiter ∧
      config.command = if a.command = [] then [("echo" : Text)] else a.command := by
  obtain ⟨settings, asked, accepted⟩ := ok_of_bind accepted
  obtain ⟨settings', completed, accepted⟩ := ok_of_bind (ok_of_mapError accepted)
  obtain ⟨maxArgs, -, completed⟩ := ok_of_bind (ok_of_mapError completed)
  obtain ⟨maxProcs, -, completed⟩ := ok_of_bind completed
  obtain ⟨maxArgs, -, accepted⟩ := ok_of_bind accepted
  obtain ⟨maxProcs, -, accepted⟩ := ok_of_bind accepted
  obtain ⟨timeout, -, accepted⟩ := ok_of_bind accepted
  obtain ⟨-, -, accepted⟩ := ok_of_bind accepted
  cases completed
  cases accepted
  unfold Arguments.settings at asked
  cases decoded : a.decodedDelimiter with
  | error e =>
    rw [decoded] at asked
    cases asked
  | ok delimiter =>
    rw [decoded] at asked
    cases asked
    exact ⟨rfl, rfl, rfl, rfl⟩

end Arguments

namespace Text

theorem isSurrogate_of_isBlank {c : CodePoint} (blank : c.isBlank = true) :
    c.isSurrogate = false := by
  rw [isSurrogate_eq_false_iff]
  simp only [CodePoint.isBlank, CodePoint.isWhiteSpace, Bool.or_eq_true, Bool.and_eq_true,
    decide_eq_true_eq, beq_iff_eq] at blank
  omega

theorem encodeUtf8_weave (lead : Text) (items gaps : List Text) :
    encodeUtf8 (weave lead items gaps) =
      weave (encodeUtf8 lead) (items.map encodeUtf8) (gaps.map encodeUtf8) := by
  unfold weave
  rw [encodeUtf8_append]
  congr 1
  induction items generalizing gaps with
  | nil => rfl
  | cons item items ih =>
    cases gaps with
    | nil => rfl
    | cons gap gaps =>
      simp only [List.zipWith_cons_cons, List.flatten_cons, List.map_cons, encodeUtf8_append, ih]

/-- Blanks are decoded to themselves. -/
theorem Spaced.decode_encode {words gaps : List Text} {lead : Text}
    (spaced : Spaced words lead gaps) :
    Spaced words (decodeUtf8 (encodeUtf8 lead)) ((gaps.map encodeUtf8).map decodeUtf8) := by
  have back : ∀ gap ∈ lead :: gaps, decodeUtf8 (encodeUtf8 gap) = gap := fun gap mem =>
    decodeUtf8_encodeUtf8 fun c here => isSurrogate_of_isBlank (spaced.blank gap mem c here)
  obtain ⟨first, others⟩ := List.forall_mem_cons.mp back
  have same : (gaps.map encodeUtf8).map decodeUtf8 = gaps := by
    rw [List.map_map]
    exact (List.map_congr_left others).trans (List.map_id gaps)
  rwa [first, same]

end Text

namespace CommandLine

/-- **A file is the bytes of its words and the blanks around them**, whatever its bytes are: reading
the words of a file loses, merges or alters none of them. -/
theorem words_keep_bytes {w : Surroundings} {a : Arguments} {config : Config} {path : Text}
    {bytes : List UInt8} (accepted : a.config w.environment = .ok config)
    (mode : a.inputMode = .whitespace) (endless : a.eof = none)
    (named : a.argFile = some (.given path)) (content : w.file path = .ok bytes) :
    ∃ input, inputText w a.argFile = .ok input ∧ (itemSource config input).failure = none ∧
      ∃ lead gaps, bytes = weave lead ((itemSource config input).items.map Text.encodeUtf8) gaps ∧
        Text.Spaced (itemSource config input).items (Text.decodeUtf8 lead)
          (gaps.map Text.decodeUtf8) := by
  obtain ⟨whitespace, eof, -⟩ := Arguments.input_of_config accepted
  obtain ⟨t, decoded⟩ : ∃ t, t = Text.decodeUtf8 bytes := ⟨_, rfl⟩
  have read : inputText w a.argFile = .ok t.normalizeNewlines := by
    rw [named, inputText, content, decoded]
    rfl
  have source : itemSource config t.normalizeNewlines = { items := t.words, failure := none } := by
    rw [itemSource, Config.readItems, whitespace, mode, eof, endless]
    show ItemSource.mk (Reading.words none t.normalizeNewlines).texts
      ((Reading.words none t.normalizeNewlines).error.map _) = _
    rw [Reading.texts_words, Text.words_normalizeNewlines, Reading.words, Reading.error_wordsFrom]
    rfl
  obtain ⟨lead, gaps, whole, spaced⟩ := Text.exists_spaced t
  refine ⟨_, read, by rw [source], Text.encodeUtf8 lead, gaps.map Text.encodeUtf8, ?_, ?_⟩
  · rw [source, ← Text.encodeUtf8_weave, ← whole, decoded, Text.encodeUtf8_decodeUtf8]
  · rw [source]
    exact spaced.decode_encode

/-- The surroundings of a program whose file holds a word with a byte that is no text, a no-break
space, another word and a line end of two characters. -/
def mixed : Surroundings where
  file := fun _ => .ok [0x61, 0xFF, 0xC2, 0xA0, 0x62, 0x0D, 0x0A]
  children := Pipeline.lasting

/-- What a command line asks for that names a file. -/
def fromFile : Arguments := { argFile := some (.given "f") }

/-- Both words keep their bytes. -/
theorem mixed_keeps_bytes : fromFile.config mixed.environment = .ok {} ∧
    fromFile.inputMode = .whitespace ∧ fromFile.eof = none ∧
    mixed.file "f" = .ok [0x61, 0xFF, 0xC2, 0xA0, 0x62, 0x0D, 0x0A] ∧
    ∃ input, inputText mixed fromFile.argFile = .ok input ∧
      (itemSource {} input).items.map Text.encodeUtf8 = [[0x61, 0xFF], [0x62]] ∧
      ∃ lead gaps, [0x61, 0xFF, 0xC2, 0xA0, 0x62, 0x0D, 0x0A] =
          weave lead ((itemSource {} input).items.map Text.encodeUtf8) gaps ∧
        Text.Spaced (itemSource {} input).items (Text.decodeUtf8 lead)
          (gaps.map Text.decodeUtf8) := by
  have accepted : fromFile.config mixed.environment = .ok {} := rfl
  obtain ⟨input, read, -, cut⟩ := words_keep_bytes (w := mixed) accepted rfl rfl rfl rfl
  refine ⟨accepted, rfl, rfl, rfl, input, read, ?_, cut⟩
  obtain rfl := Except.ok.inj read
  decide

end CommandLine

end BatchExec
