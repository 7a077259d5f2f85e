import BatchExec.Number.Binary
import BatchExec.Number.Integer

/-!
# Reading decimal numbers

A number is a sign, which may be missing, digits with at most one point among or around them, and
perhaps a power of ten; or an infinity or not a number by name, in either case of letters. Digits
may be of any script, with single underscores between them and white space around the whole.

* `Text.toFloat?`: the floating-point number nearest to the one that a text denotes.
-/

namespace BatchExec.Text

/-- Each digit of a script other than ASCII becomes the ASCII digit, and each white space a space.
-/
def asciiDigits (t : Text) : Text := t.map fun c =>
  if c.val < 0x7F then c
  else match c.digitValue? with
    | some digit => CodePoint.ofNat (0x30 + digit)
    | none => c

/-- Whether a code point is an ASCII digit. -/
def isDigit (c : CodePoint) : Bool := 0x30 ≤ c.val && c.val ≤ 0x39

/-- A numeral without its underscores, each of which has to stand between two digits. -/
def removeUnderscores? : (afterDigit : Bool) → Text → Option Text
  | _, [] => some []
  | afterDigit, c :: rest =>
    if c = '_' then
      if afterDigit && (rest.head?.map isDigit).getD false then removeUnderscores? false rest
      else none
    else (removeUnderscores? (isDigit c) rest).map (c :: ·)

/-- The number of a run of ASCII digits. -/
def digitsValue (digits : Text) : Nat := ofDigits (digits.map fun c => c.val - 0x30)

/-- The exponent that a mantissa is followed by; no text means zero. -/
def exponent? : Text → Option Int
  | [] => some 0
  | c :: rest =>
    if c.toLower = 'e' then
      let (negative, digits) := takeSign rest
      if digits ≠ [] ∧ digits.all isDigit then
        some (if negative then -(digitsValue digits : Int) else digitsValue digits)
      else none
    else none

/-- The floating-point number nearest to `mantissa * 10 ^ exponent`. Exponents far beyond the range
of floating-point numbers are answered without computing the power. -/
def ofDecimal (mantissa : Nat) (exponent : Int) : Float :=
  let magnitude := exponent + (Nat.toDigits 10 mantissa).length
  if mantissa = 0 ∨ magnitude < -330 then Float.ofBits 0
  else if 310 < magnitude then Binary.infinity
  else Binary.nearest ((Ratio.ofNat mantissa).scale 10 exponent)

/-- The number that an unsigned numeral denotes. -/
def unsigned? (t : Text) : Option Float :=
  let name := t.map CodePoint.toLower
  if name = "inf" ∨ name = "infinity" then some (Binary.infinity)
  else if name = "nan" then some (Float.ofBits 0x7FF8000000000000)
  else
    let whole := t.takeWhile isDigit
    let afterWhole := t.dropWhile isDigit
    let (fraction, afterMantissa) :=
      if afterWhole.head? = some (CodePoint.ofChar '.') then
        ((afterWhole.drop 1).takeWhile isDigit, (afterWhole.drop 1).dropWhile isDigit)
      else ([], afterWhole)
    if whole = [] ∧ fraction = [] then none
    else (exponent? afterMantissa).map fun exponent =>
      ofDecimal (digitsValue (whole ++ fraction)) (exponent - fraction.length)

/-- The floating-point number that a text denotes. -/
def toFloat? (t : Text) : Option Float := do
  let numeral ← removeUnderscores? false (asciiDigits t.trim)
  let (negative, unsigned) := takeSign numeral
  let value ← unsigned? unsigned
  some (if negative then Float.ofBits (value.toBits ^^^ 0x8000000000000000) else value)

end BatchExec.Text
