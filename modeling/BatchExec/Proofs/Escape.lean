import BatchExec.CommandLine
import BatchExec.Proofs.CommandWords
import Mathlib.Algebra.Group.Nat.Defs

/-!
# Escaped delimiters

A text with escapes is written in pieces: escapes and literal characters. Before the escapes are
decoded, every wide literal becomes an escape of itself; this does not change what a piece stands
for, so the text is decoded piece by piece.

* `HexNumeral`: numerals in base sixteen, digit by digit.
* `Piece`: an escape or a literal character, with its text and the character it stands for.
* `Piece.exists_widened`: a piece with its wide characters escaped is a piece for the same.
* `Piece.decode_texts`: **pieces are decoded one by one.**
* `Piece.unescape_texts`: **escapes decode compositionally, and every character is a delimiter.**
-/

namespace BatchExec

/-! ## Numerals in base sixteen -/

/-- The numerals of a number in base sixteen; leading zeros may stand in front. -/
inductive HexNumeral : Text → Nat → Prop where
  | nil : HexNumeral [] 0
  | concat {digits : Text} {n digit : Nat} {c : CodePoint} (init : HexNumeral digits n)
      (value : c.hexValue? = some digit) : HexNumeral (digits ++ [c]) (n * 16 + digit)

theorem CodePoint.val_le_of_hexValue? {c : CodePoint} {digit : Nat}
    (value : c.hexValue? = some digit) : c.val ≤ 0xFF := by
  unfold CodePoint.hexValue? at value
  split at value
  · omega
  · split at value
    · omega
    · split at value
      · omega
      · cases value

theorem CodePoint.hexValue?_digitChar :
    ∀ digit < 16, (CodePoint.ofChar digit.digitChar).hexValue? = some digit := by decide

namespace HexNumeral

variable {digits : Text} {n : Nat}

theorem narrow (numeral : HexNumeral digits n) : ∀ c ∈ digits, c.val ≤ 0xFF := by
  induction numeral with
  | nil => exact nofun
  | concat init value ih =>
    exact List.forall_mem_append.mpr
      ⟨ih, List.forall_mem_singleton.mpr (CodePoint.val_le_of_hexValue? value)⟩

/-- The digits of a numeral are read in front of further digits. -/
theorem readHex_append (numeral : HexNumeral digits n) (count start : Nat) (rest : Text) :
    Text.readHex (digits.length + count) start (digits ++ rest) =
      (Text.readHex count (start * 16 ^ digits.length + n) rest).mapError (· + digits.length) := by
  induction numeral generalizing count rest with
  | nil => cases h : Text.readHex count start rest <;> simp [h, Except.mapError]
  | @concat digits n digit c init value ih =>
    have regrouped : (start * 16 ^ digits.length + n) * 16 + digit =
        start * 16 ^ (digits.length + 1) + (n * 16 + digit) := by
      rw [Nat.add_mul, Nat.pow_succ, Nat.mul_assoc, Nat.add_assoc]
    rw [List.length_append, List.append_assoc, List.singleton_append, List.length_singleton,
      Nat.add_right_comm, Nat.add_assoc, ih (count + 1) (c :: rest), Text.readHex, value]
    dsimp only
    rw [regrouped]
    cases Text.readHex count (start * 16 ^ (digits.length + 1) + (n * 16 + digit)) rest with
    | ok result => rfl
    | error read =>
      show Except.error (read + 1 + digits.length) = Except.error (read + (digits.length + 1))
      rw [Nat.add_assoc, Nat.add_comm 1]

/-- **A numeral is read as its number.** -/
theorem readHex (numeral : HexNumeral digits n) (rest : Text) :
    Text.readHex digits.length 0 (digits ++ rest) = .ok n := by
  simpa [Text.readHex, Except.mapError] using numeral.readHex_append 0 0 rest

/-- Zeros in front change nothing. -/
theorem zeros (numeral : HexNumeral digits n) (count : Nat) :
    HexNumeral (List.replicate count (CodePoint.ofChar '0') ++ digits) n := by
  have zero : (CodePoint.ofChar '0').hexValue? = some 0 := by decide
  induction numeral with
  | nil =>
    induction count with
    | zero => exact .nil
    | succ count ih => simpa [List.replicate_succ'] using ih.concat zero
  | concat init value ih => simpa using ih.concat value

theorem of_toDigits (n : Nat) : HexNumeral ((Nat.toDigits 16 n).map CodePoint.ofChar) n := by
  induction n using Nat.strong_induction_on with
  | _ n ih =>
    rcases Nat.lt_or_ge n 16 with small | large
    · rw [Nat.toDigits_of_lt_base small]
      simpa using HexNumeral.nil.concat (CodePoint.hexValue?_digitChar n small)
    · have last := CodePoint.hexValue?_digitChar (n % 16) (Nat.mod_lt n (by decide))
      rw [Nat.toDigits_of_base_le (by decide) large, List.map_append]
      simpa [Nat.div_add_mod'] using (ih (n / 16) (by omega)).concat last

/-- **A number is written as a numeral of its own.** -/
theorem hex (width n : Nat) : HexNumeral (Text.hex width n) n := (of_toDigits n).zeros _

theorem length_hex {width : Nat} (wide : 0 < width) (fits : n < 16 ^ width) :
    (Text.hex width n).length = width := by
  have short := (Nat.length_toDigits_le_iff (by decide : 1 < 16) wide).mpr fits
  rw [Text.hex, List.length_leftpad, List.length_map, max_eq_left short]

end HexNumeral

/-! ## Pieces -/

/-- The escapes by number. -/
inductive HexForm where
  | two
  | four
  | eight
  deriving DecidableEq

namespace HexForm

/-- The letter after the backslash. -/
def letter : HexForm → CodePoint
  | two => 'x'
  | four => 'u'
  | eight => 'U'

/-- The number of digits. -/
def width : HexForm → Nat
  | two => 2
  | four => 4
  | eight => 8

end HexForm

/-- A piece of a text with escapes. -/
inductive Piece where
  /-- A character that stands for itself. -/
  | literal (c : CodePoint) (plain : c ≠ '\\')
  /-- `\n`. -/
  | lineFeed
  /-- `\t`. -/
  | tab
  /-- `\\`. -/
  | backslash
  /-- `\xXX`, `\uXXXX` or `\UXXXXXXXX`, with the number of a code point. -/
  | number (form : HexForm) (digits : Text) (c : CodePoint) (length : digits.length = form.width)
      (numeral : HexNumeral digits c.val)

namespace Piece

/-- How a piece is written. -/
def text : Piece → Text
  | literal c _ => [c]
  | lineFeed => ['\\', 'n']
  | tab => ['\\', 't']
  | backslash => ['\\', '\\']
  | number form digits _ _ _ => '\\' :: form.letter :: digits

/-- What a piece stands for. -/
def char : Piece → CodePoint
  | literal c _ => c
  | lineFeed => '\n'
  | tab => '\t'
  | backslash => '\\'
  | number _ _ c _ _ => c

/-- Whether a piece is an escape. -/
def isEscape : Piece → Bool
  | literal _ _ => false
  | lineFeed | tab | backslash | number _ _ _ _ _ => true

/-- A character by its number, in small letters. -/
def numbered (form : HexForm) (c : CodePoint) (fits : c.val < 16 ^ form.width) : Piece :=
  number form (Text.hex form.width c.val) c
    (HexNumeral.length_hex (by cases form <;> decide) fits) (HexNumeral.hex form.width c.val)

/-- How pieces are written. -/
def texts (pieces : List Piece) : Text := pieces.flatMap text

/-- What pieces stand for. -/
def chars (pieces : List Piece) : Text := pieces.map char

@[simp] theorem texts_cons (p : Piece) (pieces : List Piece) :
    texts (p :: pieces) = p.text ++ texts pieces := rfl

@[simp] theorem chars_cons (p : Piece) (pieces : List Piece) :
    chars (p :: pieces) = p.char :: chars pieces := rfl

/-- An escape takes a backslash and more. -/
theorem text_of_isEscape {p : Piece} (escape : p.isEscape = true) :
    ∃ c rest, p.text = CodePoint.ofChar '\\' :: c :: rest := by
  cases p with
  | literal => cases escape
  | lineFeed | tab | backslash | number => exact ⟨_, _, rfl⟩

/-! ### Wide characters -/

theorem flatMap_escapeWide_of_narrow {t : Text} (narrow : ∀ c ∈ t, c.val ≤ 0xFF) :
    t.flatMap Text.escapeWide = t := by
  induction t with
  | nil => rfl
  | cons c t ih =>
    obtain ⟨first, others⟩ := List.forall_mem_cons.mp narrow
    rw [List.flatMap_cons, Text.escapeWide, if_pos first, ih others, List.singleton_append]

/-- A character with its wide form escaped is a piece that stands for it. -/
theorem exists_escapeWide (c : CodePoint) (plain : c ≠ '\\') :
    ∃ q : Piece, Text.escapeWide c = q.text ∧ q.char = c := by
  unfold Text.escapeWide
  split
  · exact ⟨literal c plain, rfl, rfl⟩
  · split
    · rename_i short
      exact ⟨numbered .four c (Nat.lt_succ_of_le short), rfl, rfl⟩
    · exact ⟨numbered .eight c (c.isLt.trans (by decide)), rfl, rfl⟩

/-- **The wide characters of a piece are escaped without harm**: a piece for the same character is
left. Only a literal is changed. -/
theorem exists_widened (p : Piece) :
    ∃ q : Piece, p.text.flatMap Text.escapeWide = q.text ∧ q.char = p.char := by
  cases p with
  | literal c plain => simpa [text, char] using exists_escapeWide c plain
  | lineFeed => exact ⟨lineFeed, rfl, rfl⟩
  | tab => exact ⟨tab, rfl, rfl⟩
  | backslash => exact ⟨backslash, rfl, rfl⟩
  | number form digits c length numeral =>
    refine ⟨number form digits c length numeral, flatMap_escapeWide_of_narrow ?_, rfl⟩
    have letter : form.letter.val ≤ 0xFF := by cases form <;> decide
    exact List.forall_mem_cons.mpr ⟨by decide, List.forall_mem_cons.mpr ⟨letter, numeral.narrow⟩⟩

theorem exists_widened_texts (pieces : List Piece) :
    ∃ widened : List Piece,
      (texts pieces).flatMap Text.escapeWide = texts widened ∧ chars widened = chars pieces := by
  induction pieces with
  | nil => exact ⟨[], rfl, rfl⟩
  | cons p pieces ih =>
    obtain ⟨q, written, same⟩ := exists_widened p
    obtain ⟨widened, writtens, sames⟩ := ih
    exact ⟨q :: widened, by simp [written, writtens], by simp [same, sames]⟩

/-! ### Decoding -/

/-- What is left out is not decoded. -/
theorem decodeEscapesFrom_append (start rest : Text) (position : Nat) :
    Text.decodeEscapesFrom position start.length (start ++ rest) =
      Text.decodeEscapesFrom (position + start.length) 0 rest := by
  induction start generalizing position with
  | nil => rfl
  | cons c start ih =>
    rw [List.length_cons, List.cons_append, Text.decodeEscapesFrom, ih, Nat.add_right_comm,
      Nat.add_assoc]

theorem hexEscape_of_numeral {digits : Text} {c : CodePoint} (numeral : HexNumeral digits c.val)
    (letter : CodePoint) (rest : Text) :
    Text.hexEscape letter digits.length (digits ++ rest) = .ok ([c], digits.length + 1) := by
  rw [Text.hexEscape, numeral.readHex]
  exact dif_pos c.isLt

/-- The letter of a form leads to its digits. -/
theorem readEscape_letter (form : HexForm) (rest : Text) :
    Text.readEscape (form.letter :: rest) = Text.hexEscape form.letter form.width rest := by
  cases form <;> rfl

/-- An escape is read as its character, and all of it is taken. -/
theorem readEscape_escape {p : Piece} (escape : p.isEscape = true) (rest : Text) :
    Text.readEscape (p.text.tail ++ rest) = .ok ([p.char], p.text.tail.length) := by
  cases p with
  | literal => cases escape
  | lineFeed | tab | backslash => rfl
  | number form digits c length numeral =>
    show Text.readEscape (form.letter :: (digits ++ rest)) = _
    rw [readEscape_letter, ← length, hexEscape_of_numeral numeral]
    rfl

/-- **A piece in front is decoded as its character.** -/
theorem decode_text (p : Piece) (position : Nat) (rest : Text) :
    Text.decodeEscapesFrom position 0 (p.text ++ rest) =
      (Text.decodeEscapesFrom (position + p.text.length) 0 rest).map (p.char :: ·) := by
  cases escape : p.isEscape with
  | false =>
    cases p with
    | literal c plain => rw [text, List.singleton_append, Text.decodeEscapesFrom, if_neg plain]; rfl
    | lineFeed | tab | backslash | number => cases escape
  | true =>
    obtain ⟨c, more, written⟩ := text_of_isEscape escape
    have read := readEscape_escape escape rest
    rw [written, List.tail_cons] at read
    have moved : position + 1 + (c :: more).length =
        position + (CodePoint.ofChar '\\' :: c :: more).length := by
      rw [Nat.add_assoc, Nat.add_comm 1]
      rfl
    rw [written, List.cons_append, Text.decodeEscapesFrom, if_pos rfl, read]
    dsimp only
    rw [decodeEscapesFrom_append, moved]
    rfl

/-- **Pieces are decoded one by one.** -/
theorem decode_texts (pieces : List Piece) (position : Nat) :
    Text.decodeEscapesFrom position 0 (texts pieces) = .ok (chars pieces) := by
  induction pieces generalizing position with
  | nil => rfl
  | cons p pieces ih =>
    rw [texts_cons, decode_text, ih]
    rfl

/-- Pieces that begin with an escape are decoded. -/
theorem unescape_of_isEscape {first : Piece} (escape : first.isEscape = true)
    (rest : List Piece) : (texts (first :: rest)).unescape = .ok (chars (first :: rest)) := by
  obtain ⟨widened, written, same⟩ := exists_widened_texts (first :: rest)
  obtain ⟨c, more, start⟩ := text_of_isEscape escape
  have decoded : Text.decodeEscapesFrom 0 0 ((texts (first :: rest)).flatMap Text.escapeWide) =
      .ok (chars (first :: rest)) := by rw [written, decode_texts, same]
  rw [texts_cons, start] at decoded ⊢
  exact decoded

end Piece

/-- A text that does not begin with a backslash, or is nothing else, is left as it is. -/
theorem Text.unescape_of_plain {t : Text}
    (plain : t.head? ≠ some (CodePoint.ofChar '\\') ∨ t = ['\\']) : t.unescape = .ok t := by
  unfold Text.unescape
  split
  · rename_i c _ _
    have other : c ≠ '\\' := by
      rcases plain with head | alone
      · exact fun same => head (congrArg some same)
      · cases alone
    exact if_neg other
  · rfl

/-! ## Delimiters on the command line -/

namespace Arguments

/-- A word that is no option can be given as the delimiter. -/
theorem read_delimiter {word : Text} (plain : OptionWord.classify word = .ok .plain) :
    read ["-d", word] = .ok { delimiter := some (.given word) } := by
  have option : OptionWord.classify "-d" = .ok (.short .delimiter []) := by decide
  have classified : OptionWord.classifyAll ["-d", word] =
      .ok [("-d", .short .delimiter []), (word, .plain)] := by
    rw [OptionWord.classifyAll_cons option nofun, OptionWord.classifyAll_cons plain nofun]
    rfl
  rw [read, classified]
  rfl

/-- A delimiter that stands for one character is what items end at. -/
theorem config_delimiter {word : Text} {c : CodePoint} (single : word.unescape = .ok [c]) :
    ({ delimiter := some (.given word) } : Arguments).config [] =
      .ok { inputMode := .delimiter, delimiter := some [c] } := by
  rw [config, settings, decodedDelimiter]
  dsimp only
  rw [single]
  rfl

end Arguments

namespace Piece

/-- The words that a character is given as: the character itself, or an escape of it. -/
inductive Denotes (c : CodePoint) : Text → Prop where
  | itself : Denotes c [c]
  | escaped (p : Piece) (escape : p.isEscape = true) (same : p.char = c) : Denotes c p.text

namespace Denotes

variable {c : CodePoint} {word : Text}

theorem classify (denotes : Denotes c word) : OptionWord.classify word = .ok .plain := by
  cases denotes with
  | itself => rfl
  | escaped p escape =>
    obtain ⟨_, _, written⟩ := text_of_isEscape escape
    have backslash : CodePoint.ofChar '\\' ≠ CodePoint.ofChar '-' := by decide
    exact OptionWord.classify_of_head (by simp [written, backslash])

theorem unescape (denotes : Denotes c word) : word.unescape = .ok [c] := by
  cases denotes with
  | itself => rfl
  | escaped p escape same => simpa [texts, chars, same] using unescape_of_isEscape escape []

end Denotes

/-- **Escapes decode compositionally.** A text that begins with an escape is decoded piece by piece,
any other is left as it is, and every character can be given as the delimiter, as it is or by any
escape of it. -/
theorem unescape_texts :
    (∀ (first : Piece) (rest : List Piece), first.isEscape = true →
      (texts (first :: rest)).unescape = .ok (chars (first :: rest))) ∧
    (∀ t : Text, t.head? ≠ some (CodePoint.ofChar '\\') ∨ t = ['\\'] → t.unescape = .ok t) ∧
    ∀ (c : CodePoint) (word : Text), Denotes c word →
      ∃ a, Arguments.read ["-d", word] = .ok a ∧
        a.config [] = .ok { inputMode := .delimiter, delimiter := some [c] } := by
  refine ⟨fun _ rest escape => unescape_of_isEscape escape rest,
    fun _ plain => Text.unescape_of_plain plain, fun c word denotes => ?_⟩
  have read := Arguments.read_delimiter denotes.classify
  exact ⟨_, read, Arguments.config_delimiter denotes.unescape⟩

/-- Escapes of each kind next to literals of one, two, three and four bytes. -/
theorem unescape_mixed :
    ("\\x41Aé\\u20acü€\\\\\\U0001f600😀4\\n" : Text).unescape = .ok "AAé€ü€\\😀😀4\n" :=
  unescape_texts.1 (numbered .two 'A' (by decide))
    [literal 'A' (by decide), literal 'é' (by decide), numbered .four '€' (by decide),
      literal 'ü' (by decide), literal '€' (by decide), backslash,
      numbered .eight '😀' (by decide), literal '😀' (by decide), literal '4' (by decide), lineFeed]
    rfl

end Piece

end BatchExec
