import BatchExec.Text.CharacterName

/-!
# Backslash escapes

A text that begins with a backslash may name code points by escapes: `\n`, `\t` and their like,
octal `\0` to `\777`, `\xXX`, `\uXXXX`, `\UXXXXXXXX` and `\N` with a character name in braces. A
backslash before anything else stands for itself.

* `Text.unescape`: decodes the escapes, or tells which part of the text is at fault.
* `EscapeError.message`: the wording of the fault.
-/

namespace BatchExec

/-- What can be wrong with an escape. -/
inductive EscapeProblem where
  /-- The text ends with a lone backslash. -/
  | trailingBackslash
  /-- Too few hexadecimal digits after `\x`, `\u` or `\U`. -/
  | truncated (letter : CodePoint) (digits : Nat)
  /-- A number past the last code point. -/
  | outOfRange
  /-- An `\N` without a name in braces. -/
  | malformedName
  /-- A name that no character bears. -/
  | unknownName
  deriving DecidableEq, Repr

/-- A faulty escape: it spans the positions from `start` up to but not including `stop`. -/
structure EscapeError where
  start : Nat
  stop : Nat
  problem : EscapeProblem
  deriving DecidableEq, Repr

/-- What a problem is called. -/
def EscapeProblem.message : EscapeProblem → Text
  | .trailingBackslash => "\\ at end of string"
  | .truncated letter digits =>
    "truncated \\" ++ [letter] ++ List.replicate digits (CodePoint.ofChar 'X') ++ " escape"
  | .outOfRange => "illegal Unicode character"
  | .malformedName => "malformed \\N character escape"
  | .unknownName => "unknown Unicode character name"

/-- The wording of an escape error. An escape that is cut off is a lone backslash. -/
def EscapeError.message (e : EscapeError) : Text :=
  "'unicodeescape' codec can't decode " ++
    (if e.stop = e.start + 1 then "byte 0x5c in position " ++ Text.ofNat e.start
     else "bytes in position " ++ Text.ofNat e.start ++ "-" ++ Text.ofNat (e.stop - 1)) ++
    ": " ++ e.problem.message

namespace Text

/-- Code points past `U+00FF` as escapes, the others as they are. -/
def escapeWide (c : CodePoint) : Text :=
  if c.val ≤ 0xFF then [c]
  else if c.val ≤ 0xFFFF then "\\u" ++ hex 4 c.val
  else "\\U" ++ hex 8 c.val

/-- What an escape stands for and how many code points after the backslash it takes; or its problem
and how many code points of it were read. -/
abbrev EscapeResult := Except (EscapeProblem × Nat) (Text × Nat)

/-- The value of an octal digit. -/
def octalValue? (c : CodePoint) : Option Nat :=
  if 0x30 ≤ c.val ∧ c.val ≤ 0x37 then some (c.val - 0x30) else none

/-- Reads up to `most` octal digits: their value and number. -/
def readOctal : (most value : Nat) → Text → Nat × Nat
  | most + 1, value, c :: rest =>
    match octalValue? c with
    | some digit =>
      let (result, count) := readOctal most (value * 8 + digit) rest
      (result, count + 1)
    | none => (value, 0)
  | _, value, _ => (value, 0)

/-- Reads exactly `count` hexadecimal digits: their value, or how many there are. -/
def readHex : (count value : Nat) → Text → Except Nat Nat
  | 0, value, _ => .ok value
  | count + 1, value, c :: rest =>
    match c.hexValue? with
    | some digit => (readHex count (value * 16 + digit) rest).mapError (· + 1)
    | none => .error 0
  | _ + 1, _, [] => .error 0

/-- The escape of a number in `count` hexadecimal digits. -/
def hexEscape (letter : CodePoint) (count : Nat) (rest : Text) : EscapeResult :=
  match readHex count 0 rest with
  | .error read => .error (.truncated letter count, read + 1)
  | .ok value =>
    if h : value < 0x110000 then .ok ([⟨value, h⟩], count + 1)
    else .error (.outOfRange, count + 1)

/-- The escape of a character name, from what follows the letter. -/
def nameEscape : Text → EscapeResult
  | [] => .error (.malformedName, 1)
  | c :: rest =>
    if c.val ≠ 0x7B then .error (.malformedName, 1)
    else
      let name := rest.takeWhile fun d => d.val ≠ 0x7D
      if name.length = rest.length ∨ name = [] then .error (.malformedName, name.length + 2)
      else match named? name with
        | some result => .ok ([result], name.length + 3)
        | none => .error (.unknownName, name.length + 3)

/-- The control characters that a letter stands for. -/
def simpleEscapes : List (CodePoint × Nat) := [
  ('a', 0x07), ('b', 0x08), ('t', 0x09), ('n', 0x0A), ('v', 0x0B), ('f', 0x0C), ('r', 0x0D)]

/-- Escapes of one letter or mark. -/
def simpleEscape? (c : CodePoint) : Option Text :=
  if c = '\n' then some []
  else if c = '\\' ∨ c = '\'' ∨ c = '"' then some [c]
  else (simpleEscapes.lookup c).map fun value => [CodePoint.ofNat value]

/-- Reads the escape whose backslash is followed by a text. -/
def readEscape : Text → EscapeResult
  | [] => .error (.trailingBackslash, 0)
  | c :: rest =>
    match simpleEscape? c with
    | some result => .ok (result, 1)
    | none =>
      if (octalValue? c).isSome then
        let (value, count) := readOctal 3 0 (c :: rest)
        .ok ([CodePoint.ofNat value], count)
      else if c = 'x' then hexEscape c 2 rest
      else if c = 'u' then hexEscape c 4 rest
      else if c = 'U' then hexEscape c 8 rest
      else if c = 'N' then nameEscape rest
      else .ok (['\\', c], 1)

/-- Decodes the escapes of a text that starts at a position, the first `skip` code points left out.
-/
def decodeEscapesFrom : (position skip : Nat) → Text → Except EscapeError Text
  | _, _, [] => .ok []
  | position, skip + 1, _ :: rest => decodeEscapesFrom (position + 1) skip rest
  | position, 0, c :: rest =>
    if c = '\\' then
      match readEscape rest with
      | .error (problem, read) => .error ⟨position, position + 1 + read, problem⟩
      | .ok (result, read) => (decodeEscapesFrom (position + 1) read rest).map (result ++ ·)
    else (decodeEscapesFrom (position + 1) 0 rest).map (c :: ·)

/-- Decodes a text that begins with an escape; any other text, and a lone backslash, is returned as
it is. Wide code points are escapes of themselves, so positions count them at their escaped length.
-/
def unescape (t : Text) : Except EscapeError Text :=
  match t with
  | c :: _ :: _ => if c = '\\' then decodeEscapesFrom 0 0 (t.flatMap escapeWide) else .ok t
  | _ => .ok t

end Text

end BatchExec
