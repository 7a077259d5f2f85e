import BatchExec.Number.Binary
import BatchExec.Text.Basic

/-!
# Writing floating-point numbers

* `Binary.shortest`: the fewest decimal digits that read back as a number, the nearest such digits,
  a tie to the even last digit.
* `Text.ofFloat`: a number in those digits, positional for exponents from -4 to 15.
-/

namespace BatchExec

/-- A decimal number: `digits * 10 ^ exponent`. -/
structure Decimal where
  digits : Nat
  exponent : Int
  deriving DecidableEq, Repr

namespace Binary

/-- Whether a decimal reads back as a positive number: it lies between the halfway points to the two
neighbours, which count if the mantissa is even. -/
def readsBack (x : Binary) (decimal : Decimal) : Bool :=
  -- four times each number
  let lowGap := if x.mantissa = minMantissa ∧ minExponent < x.exponent then 1 else 2
  let low := (Ratio.ofNat (4 * x.mantissa - lowGap)).scale 2 x.exponent
  let high := (Ratio.ofNat (4 * x.mantissa + 2)).scale 2 x.exponent
  let value := (Ratio.ofNat (4 * decimal.digits)).scale 10 decimal.exponent
  if x.mantissa % 2 = 0 then low.le value && value.le high else low.lt value && value.lt high

/-- The exponent of the leading decimal digit of a ratio, given a guess that is at most so many too
small. -/
def leadingExponent (r : Ratio) : (tries : Nat) → (guess : Int) → Int
  | 0, guess => guess
  | tries + 1, guess =>
    if ((Ratio.ofNat 1).scale 10 (guess + 1)).le r then leadingExponent r tries (guess + 1)
    else guess

/-- The nearest decimal with a given exponent that reads back, if there is one. -/
def onGrid? (x : Binary) (exponent : Int) : Option Decimal :=
  let units := x.magnitude.scale 10 (-exponent)
  let candidates : List Decimal := [⟨units.roundToEven, exponent⟩, ⟨units.floor, exponent⟩,
    ⟨units.floor + 1, exponent⟩]
  candidates.find? fun decimal => decimal.digits ≠ 0 && x.readsBack decimal

/-- The first grid with a decimal that reads back, from `grids` of them, each ten times finer. -/
def firstOnGrid (x : Binary) : (grids : Nat) → (exponent : Int) → Decimal
  | 0, exponent => ⟨x.mantissa, exponent⟩
  | grids + 1, exponent => (x.onGrid? exponent).getD (firstOnGrid x grids (exponent - 1))

/-- The shortest decimal that reads back as a positive number. -/
def shortest (x : Binary) : Decimal :=
  let guess := (x.magnitude.log2 * 30103).fdiv 100000 - 1
  firstOnGrid x 18 (leadingExponent x.magnitude 4 guess)

end Binary

/-- A decimal without the zeros at its end. -/
def Decimal.stripZeros : (most : Nat) → Decimal → Decimal
  | 0, decimal => decimal
  | most + 1, decimal =>
    if decimal.digits % 10 = 0 ∧ decimal.digits ≠ 0 then
      stripZeros most ⟨decimal.digits / 10, decimal.exponent + 1⟩
    else decimal

namespace Text

/-- A positive decimal: positional while its leading digit counts between `10 ^ (-4)` and `10 ^ 15`,
with at least one place; else with an exponent of at least two digits. -/
def ofDecimalDigits (decimal : Decimal) : Text :=
  let digits := ofNat decimal.digits
  let leading := decimal.exponent + digits.length - 1
  if -4 ≤ leading ∧ leading < 16 then
    if leading < 0 then
      "0." ++ List.replicate (-leading - 1).toNat (CodePoint.ofChar '0') ++ digits
    else
      let places := leading.toNat + 1
      let zeros : Text := List.replicate (places - digits.length) '0'
      let whole : Text := digits.take places ++ zeros
      let fraction : Text := digits.drop places
      whole ++ "." ++ (if fraction = [] then Text.ofString "0" else fraction)
  else
    let first : Text := digits.take 1
    let fraction : Text := digits.drop 1
    let point : Text := if fraction = [] then [] else "."
    first ++ point ++ fraction ++ "e" ++
      (if leading < 0 then Text.ofString "-" else "+") ++ padded 2 leading.natAbs

/-- A floating-point number in the fewest digits that read back. -/
def ofFloat (x : Float) : Text :=
  match Binary.decode x with
  | none =>
    if x.toBits.toNat % Binary.minMantissa ≠ 0 then "nan"
    else if x.toBits.toNat / Binary.signWeight = 1 then "-inf" else "inf"
  | some b =>
    (if b.negative then Text.ofString "-" else []) ++
      (if b.mantissa = 0 then Text.ofString "0.0"
       else ofDecimalDigits (Decimal.stripZeros 20 b.shortest))

end Text

end BatchExec
