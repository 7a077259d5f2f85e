/-!
# Texts

A text is a list of code points. Unlike a `String` it may hold the code points `U+D800` to `U+DFFF`,
which stand for undecodable input bytes and for halves of surrogate pairs.

* `Text.ofString`: the text of a string, also a coercion.
* `Text.ofNat`, `Text.ofInt`, `Text.hex`: numerals.
-/

namespace BatchExec

/-- A code point, surrogates included. -/
abbrev CodePoint := Fin 0x110000

/-- A text: its code points in order. -/
abbrev Text := List CodePoint

namespace CodePoint

/-- The code point of a character. -/
def ofChar (c : Char) : CodePoint := ⟨c.toNat, by
  have h := c.valid
  simp only [UInt32.isValidChar, Nat.isValidChar] at h
  change c.val.toNat < _
  omega⟩

instance : Coe Char CodePoint := ⟨ofChar⟩

/-- The code point of a number; numbers past the last code point wrap. -/
def ofNat (n : Nat) : CodePoint := ⟨n % 0x110000, Nat.mod_lt _ (by decide)⟩

/-- The null character. -/
def null : CodePoint := ofNat 0

/-- Whether a code point is one half of a surrogate pair. -/
def isSurrogate (c : CodePoint) : Bool := 0xD800 ≤ c.val && c.val ≤ 0xDFFF

/-- The value of an ASCII digit in base sixteen, either case. -/
def hexValue? (c : CodePoint) : Option Nat :=
  if 0x30 ≤ c.val ∧ c.val ≤ 0x39 then some (c.val - 0x30)
  else if 0x41 ≤ c.val ∧ c.val ≤ 0x46 then some (c.val - 0x41 + 10)
  else if 0x61 ≤ c.val ∧ c.val ≤ 0x66 then some (c.val - 0x61 + 10)
  else none

/-- An ASCII small letter becomes its capital letter. -/
def toUpper (c : CodePoint) : CodePoint :=
  if 0x61 ≤ c.val ∧ c.val ≤ 0x7A then ofNat (c.val - 0x20) else c

/-- An ASCII capital letter becomes its small letter. -/
def toLower (c : CodePoint) : CodePoint :=
  if 0x41 ≤ c.val ∧ c.val ≤ 0x5A then ofNat (c.val + 0x20) else c

end CodePoint

namespace Text

/-- The text of a string. -/
def ofString (s : String) : Text := s.toList.map CodePoint.ofChar

instance : Coe String Text := ⟨ofString⟩

/-- The decimal numeral of a natural number. -/
def ofNat (n : Nat) : Text := (Nat.toDigits 10 n).map CodePoint.ofChar

/-- The decimal numeral of an integer, a minus sign in front of a negative one. -/
def ofInt : Int → Text
  | .ofNat n => ofNat n
  | .negSucc n => "-" ++ ofNat (n + 1)

/-- The hexadecimal numeral of a natural number, small letters, at least `width` digits. -/
def hex (width n : Nat) : Text :=
  ((Nat.toDigits 16 n).map CodePoint.ofChar).leftpad width '0'

/-- The decimal numeral of a natural number, at least `width` digits. -/
def padded (width n : Nat) : Text :=
  (ofNat n).leftpad width '0'

/-- The texts one after another, a separator between neighbours. -/
def join (separator : Text) (parts : List Text) : Text := List.intercalate separator parts

/-- The lines one after another, a line feed behind each. -/
def unlines (lines : List Text) : Text := lines.flatMap fun line => line ++ "\n"

/-- Puts a code point in front of the first piece. -/
def consHead (c : CodePoint) : List Text → List Text
  | [] => [[c]]
  | piece :: pieces => (c :: piece) :: pieces

@[simp] theorem flatten_consHead (c : CodePoint) (pieces : List Text) :
    (consHead c pieces).flatten = c :: pieces.flatten := by
  cases pieces <;> rfl

theorem consHead_ne_nil (c : CodePoint) (pieces : List Text) : consHead c pieces ≠ [] := by
  cases pieces <;> simp [consHead]

end Text

end BatchExec
