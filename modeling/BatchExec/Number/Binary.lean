import BatchExec.Number.Ratio

/-!
# Binary floating point, exactly

* `Binary.decode`: a finite number as a signed whole multiple of a power of two.
* `Binary.nearest`: the number nearest to a ratio, ties to the even neighbour.
* `Binary.minus`: a number less a ratio, rounded.
* `Binary.floor`, `Binary.ceil`: the neighbouring integers.
-/

namespace BatchExec

/-- The exact value of a finite floating-point number: `mantissa * 2 ^ exponent`, negated if
`negative`. -/
structure Binary where
  negative : Bool
  mantissa : Nat
  exponent : Int
  deriving DecidableEq, Repr

namespace Binary

/-- The least exponent. -/
def minExponent : Int := -1074

/-- The greatest exponent. -/
def maxExponent : Int := 971

/-- The least mantissa of a number that has all its digits, `2 ^ 52`. -/
def minMantissa : Nat := 0x10000000000000

/-- The number after the greatest mantissa, `2 ^ 53`. -/
def mantissaBound : Nat := 0x20000000000000

/-- The weight of the sign among the bits of a number, `2 ^ 63`. -/
def signWeight : Nat := 0x8000000000000000

/-- The least integer that is rounded to infinity: half a step above the greatest number,
`2 ^ 1024 - 2 ^ 970`. -/
def overflow : Nat := Nat.pow 2 1024 - Nat.pow 2 970

/-- Infinity. -/
def infinity : Float := Float.ofBits 0x7FF0000000000000

/-- Zero. -/
def zero : Binary := ⟨false, 0, minExponent⟩

/-- The exact value of a floating-point number, unless it is infinite or not a number. -/
def decode (x : Float) : Option Binary :=
  let bits := x.toBits.toNat
  let negative := bits / signWeight == 1
  let biased : Nat := bits / minMantissa % 2048
  let fraction : Nat := bits % minMantissa
  if biased = 2047 then none
  else if biased = 0 then some ⟨negative, fraction, minExponent⟩
  else some ⟨negative, minMantissa + fraction, (biased : Int) - 1075⟩

/-- The floating-point number with a mantissa of at most `2 ^ 53` and an exponent. -/
def encode (mantissa : Nat) (exponent : Int) : Float :=
  let (mantissa, exponent) :=
    if mantissa = mantissaBound then (minMantissa, exponent + 1) else (mantissa, exponent)
  if maxExponent < exponent then infinity
  else if mantissa < minMantissa then Float.ofBits (UInt64.ofNat mantissa)
  else
    Float.ofBits (UInt64.ofNat ((exponent + 1075).toNat * minMantissa + (mantissa - minMantissa)))

/-- The exponent with which a ratio has as many digits as a mantissa holds, unless this is less than
the least exponent. -/
def exponentOf (r : Ratio) : Int :=
  let guess : Int := max (r.log2 - 53) minExponent
  if (r.scale 2 (-guess)).floor < mantissaBound then guess else guess + 1

/-- The number nearest to a ratio that needs no more digits than a mantissa holds, a tie to the even
neighbour. -/
def rounded (r : Ratio) : Binary :=
  ⟨false, (r.scale 2 (-exponentOf r)).roundToEven, exponentOf r⟩

/-- The floating-point number nearest to a ratio, a tie to the even neighbour; infinite if the ratio
is too large. -/
def nearest (r : Ratio) : Float :=
  if r.num = 0 then Float.ofBits 0
  else
    let exact := rounded r
    encode exact.mantissa exact.exponent

/-- The absolute value as a ratio. -/
def magnitude (x : Binary) : Ratio := (Ratio.ofNat x.mantissa).scale 2 x.exponent

/-- The greatest integer that is not greater. -/
def floor (x : Binary) : Int :=
  let num : Int := x.magnitude.num
  (if x.negative then -num else num).fdiv x.magnitude.den

/-- The least integer that is not less. -/
def ceil (x : Binary) : Int := -(floor { x with negative := !x.negative })

/-- A number less a ratio, rounded; zero if nothing is left. -/
def minus (x : Binary) (r : Ratio) : Binary :=
  if x.negative then zero else rounded (x.magnitude.sub r)

end Binary

end BatchExec
