import BatchExec.Text.Basic

/-!
# Names made by a rule

The names of ideographs and of some other characters end with the number of the character, and those
of Hangul syllables with the sounds that the syllable consists of.

* `Text.ideograph?`, `Text.syllable?`, `Text.numbered?`: the code points of such names.
-/

namespace BatchExec.Text

/-- What is left of a text after something that it begins with. -/
def after? (start t : Text) : Option Text :=
  if start.isPrefixOf t then some (t.drop start.length) else none

/-! ## Ideographs -/

/-- The first and last code points of the ranges of unified ideographs. -/
def ideographRanges : List (Nat × Nat) := [
  (0x3400, 0x4DBF), (0x4E00, 0x9FFF), (0x20000, 0x2A6DF), (0x2A700, 0x2B738), (0x2B740, 0x2B81D),
  (0x2B820, 0x2CEA1), (0x2CEB0, 0x2EBE0), (0x30000, 0x3134A)]

/-- The number that hexadecimal digits stand for. Letters among them must be capital. -/
def number? (t : Text) : Option Nat :=
  t.foldlM (fun n c => if c.toUpper = c then c.hexValue?.map (16 * n + ·) else none) 0

/-- The code point of the name of a unified ideograph, which ends with four or five hexadecimal
digits. -/
def ideograph? (name : Text) : Option Nat := do
  let digits ← after? "CJK UNIFIED IDEOGRAPH-" name
  if digits.length = 4 ∨ digits.length = 5 then
    let n ← number? digits
    if ideographRanges.any fun (first, last) => first ≤ n && n ≤ last then some n else none
  else none

/-! ## Syllables -/

/-- The sounds that a Hangul syllable may begin with. -/
def leadingSounds : List Text := [
  "G", "GG", "N", "D", "DD", "R", "M", "B", "BB", "S", "SS", "", "J", "JJ", "C", "K", "T", "P", "H"]

/-- The vowels that a Hangul syllable may have. -/
def vowels : List Text := [
  "A", "AE", "YA", "YAE", "EO", "E", "YEO", "YE", "O", "WA", "WAE", "OE", "YO", "U", "WEO", "WE",
  "WI", "YU", "EU", "YI", "I"]

/-- The sounds that a Hangul syllable may end with. -/
def trailingSounds : List Text := [
  "", "G", "GG", "GS", "N", "NJ", "NH", "D", "L", "LG", "LM", "LB", "LS", "LT", "LP", "LH", "M",
  "B", "BS", "S", "SS", "NG", "J", "C", "K", "T", "P", "H"]

/-- The first Hangul syllable. -/
def firstSyllable : Nat := 0xAC00

/-- Splits off one of the parts that a text may begin with: its place among them, and the rest, for
each that fits. -/
def splitOff (parts : List Text) (t : Text) : List (Nat × Text) :=
  parts.zipIdx.filterMap fun (part, place) => (after? part t).map (place, ·)

/-- The code point of the name of a Hangul syllable, which ends with its sounds. Syllables are
ordered by their first sound, then by their vowel, then by their last sound. -/
def syllable? (name : Text) : Option Nat := do
  let sounds ← after? "HANGUL SYLLABLE " name
  let places := (splitOff leadingSounds sounds).flatMap fun (leading, rest) =>
    (splitOff vowels rest).filterMap fun (vowel, rest) =>
      (trailingSounds.idxOf? rest).map fun trailing =>
        (leading * vowels.length + vowel) * trailingSounds.length + trailing
  places.head?.map (firstSyllable + ·)

/-! ## Numbers -/

/-- What the names of some ranges of characters begin with, before the number of the character, and
the first and last character. -/
def numberedRanges : List (Text × Nat × Nat) := [
  ("CJK COMPATIBILITY IDEOGRAPH-", 0xF900, 0xFA6D),
  ("CJK COMPATIBILITY IDEOGRAPH-", 0xFA70, 0xFAD9),
  ("KHITAN SMALL SCRIPT CHARACTER-", 0x18B00, 0x18CD5),
  ("NUSHU CHARACTER-", 0x1B170, 0x1B2FB),
  ("CJK COMPATIBILITY IDEOGRAPH-", 0x2F800, 0x2FA1D)]

/-- The code point of a name that ends with its number, without zeros in front. -/
def numbered? (name : Text) : Option Nat :=
  numberedRanges.findSome? fun (start, first, last) => do
    let digits ← after? start name
    let n ← number? digits
    if first ≤ n ∧ n ≤ last ∧ digits.head? ≠ some (CodePoint.ofChar '0') then some n else none

end BatchExec.Text
