import BatchExec.Text.Blank
import BatchExec.Text.Digit

/-!
# Reading integers

An integer is a sign, which may be missing, and decimal digits of any script; single underscores may
stand between digits and white space around the whole.

* `Text.trim`: a text without the white space around it.
* `Text.toInt?`: the integer that a text denotes.
-/

namespace BatchExec.Text

/-- The greatest number of digits that an integer may be read from or shown with. -/
def maxIntegerDigits : Nat := 4300

/-- A text without the white space around it. -/
def trim (t : Text) : Text :=
  ((t.dropWhile CodePoint.isWhiteSpace).reverse.dropWhile CodePoint.isWhiteSpace).reverse

/-- The sign in front of a numeral, true for minus, and what follows it. -/
def takeSign : Text → Bool × Text
  | [] => (false, [])
  | c :: rest =>
    if c = '-' then (true, rest) else if c = '+' then (false, rest) else (false, c :: rest)

/-- The digits of a numeral in which single underscores may stand between digits. -/
def digits? : Text → Option (List Nat)
  | [] => none
  | c :: rest => do
    let digit ← c.digitValue?
    match rest with
    | [] => some [digit]
    | next :: rest' =>
      let later ← if next = '_' then digits? rest' else digits? (next :: rest')
      some (digit :: later)

/-- The number with given decimal digits. -/
def ofDigits (digits : List Nat) : Nat := digits.foldl (fun n digit => n * 10 + digit) 0

/-- The integer that a text denotes. -/
def toInt? (t : Text) : Option Int := do
  let (negative, numeral) := takeSign t.trim
  let digits ← digits? numeral
  if digits.length ≤ maxIntegerDigits then
    some (if negative then -(ofDigits digits : Int) else ofDigits digits)
  else none

end BatchExec.Text
