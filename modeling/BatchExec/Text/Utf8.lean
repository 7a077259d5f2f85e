import BatchExec.Text.Basic

/-!
# UTF-8 with escaped bytes

Bytes that are not part of well-formed UTF-8 become the code points `U+DC80` to `U+DCFF`, one each,
so that every byte sequence is the encoding of a text.

* `Text.decodeUtf8`: the text of a byte sequence.
* `Text.encodeUtf8`: the bytes of a text; it undoes `Text.decodeUtf8`.
-/

namespace BatchExec.Text

/-- A continuation byte. -/
def isTail (b : UInt8) : Bool := 0x80 ≤ b && b ≤ 0xBF

/-- The payload of a continuation byte. -/
def tailBits (b : UInt8) : Nat := b.toNat - 0x80

/-- The bounds of the byte after a lead byte: they rule out overlong forms, surrogates and code
points past the last one. -/
def secondBounds (lead : UInt8) : UInt8 × UInt8 :=
  if lead = 0xE0 then (0xA0, 0xBF)
  else if lead = 0xED then (0x80, 0x9F)
  else if lead = 0xF0 then (0x90, 0xBF)
  else if lead = 0xF4 then (0x80, 0x8F)
  else (0x80, 0xBF)

/-- Whether a byte may follow a lead byte. -/
def isSecond (lead b : UInt8) : Bool := (secondBounds lead).1 ≤ b && b ≤ (secondBounds lead).2

/-- The first character of a byte sequence and its length, if the sequence starts with a well-formed
one. -/
def firstCharacter? : List UInt8 → Option (CodePoint × Nat)
  | [] => none
  | a :: rest =>
    if a ≤ 0x7F then some (CodePoint.ofNat a.toNat, 1)
    else if 0xC2 ≤ a ∧ a ≤ 0xDF then
      match rest with
      | b :: _ =>
        if isSecond a b then some (CodePoint.ofNat ((a.toNat - 0xC0) * 64 + tailBits b), 2)
        else none
      | _ => none
    else if 0xE0 ≤ a ∧ a ≤ 0xEF then
      match rest with
      | b :: c :: _ =>
        if isSecond a b && isTail c then
          some (CodePoint.ofNat (((a.toNat - 0xE0) * 64 + tailBits b) * 64 + tailBits c), 3)
        else none
      | _ => none
    else if 0xF0 ≤ a ∧ a ≤ 0xF4 then
      match rest with
      | b :: c :: d :: _ =>
        if isSecond a b && isTail c && isTail d then
          let high := ((a.toNat - 0xF0) * 64 + tailBits b) * 64 + tailBits c
          some (CodePoint.ofNat (high * 64 + tailBits d), 4)
        else none
      | _ => none
    else none

/-- Decodes after leaving out `skip` bytes, the rest of the character just read. -/
def decodeFrom : (skip : Nat) → List UInt8 → Text
  | _, [] => []
  | skip + 1, _ :: rest => decodeFrom skip rest
  | 0, b :: rest =>
    match firstCharacter? (b :: rest) with
    | some (c, length) => c :: decodeFrom (length - 1) rest
    | none => CodePoint.ofNat (0xDC00 + b.toNat) :: decodeFrom 0 rest

/-- The text of a byte sequence. -/
def decodeUtf8 (bytes : List UInt8) : Text := decodeFrom 0 bytes

/-- A continuation byte with the lowest six bits of a number. -/
def tailByte (n : Nat) : UInt8 := UInt8.ofNat (0x80 + n % 64)

/-- The bytes of a code point: the escaped byte of `U+DC80` to `U+DCFF`, else its UTF-8 form. -/
def encodeCharacter (c : CodePoint) : List UInt8 :=
  if c.val ≤ 0x7F then [UInt8.ofNat c.val]
  else if c.val ≤ 0x7FF then [UInt8.ofNat (0xC0 + c.val / 64), tailByte c.val]
  else if 0xDC80 ≤ c.val ∧ c.val ≤ 0xDCFF then [UInt8.ofNat (c.val - 0xDC00)]
  else if c.val ≤ 0xFFFF then
    [UInt8.ofNat (0xE0 + c.val / 4096), tailByte (c.val / 64), tailByte c.val]
  else [UInt8.ofNat (0xF0 + c.val / 262144), tailByte (c.val / 4096), tailByte (c.val / 64),
    tailByte c.val]

/-- The bytes of a text. -/
def encodeUtf8 (t : Text) : List UInt8 := t.flatMap encodeCharacter

/-- A text for a stream that cannot write halves of surrogate pairs: they are written as escapes. -/
def escapeSurrogates (t : Text) : Text :=
  t.flatMap fun c => if c.isSurrogate then "\\u" ++ hex 4 c.val else [c]

end BatchExec.Text
