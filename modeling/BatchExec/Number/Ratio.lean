/-!
# Ratios of natural numbers

* `Ratio.scale`: a ratio times a power of a base.
* `Ratio.roundToEven`: the nearest integer, of two the even one.
-/

namespace BatchExec

/-- The ratio `num / den`. -/
structure Ratio where
  num : Nat
  den : Nat
  deriving DecidableEq, Repr

namespace Ratio

/-- A natural number as a ratio. -/
def ofNat (n : Nat) : Ratio := ⟨n, 1⟩

/-- A ratio times a power of a base. -/
def scale (r : Ratio) (base : Nat) : (exponent : Int) → Ratio
  | .ofNat n => ⟨r.num * Nat.pow base n, r.den⟩
  | .negSucc n => ⟨r.num, r.den * Nat.pow base (n + 1)⟩

/-- One ratio less another; zero if the other is not less. -/
def sub (r s : Ratio) : Ratio := ⟨r.num * s.den - s.num * r.den, r.den * s.den⟩

/-- Whether one ratio is at most another. -/
def le (r s : Ratio) : Bool := r.num * s.den ≤ s.num * r.den

/-- Whether one ratio is less than another. -/
def lt (r s : Ratio) : Bool := r.num * s.den < s.num * r.den

/-- The greatest integer that is not greater. -/
def floor (r : Ratio) : Nat := r.num / r.den

/-- The nearest integer, a tie to the even one. -/
def roundToEven (r : Ratio) : Nat :=
  let twice := 2 * (r.num % r.den)
  if twice < r.den then r.floor
  else if r.den < twice then r.floor + 1
  else r.floor + r.floor % 2

/-- The difference of the binary logarithms, each cut to an integer. -/
def log2 (r : Ratio) : Int := (r.num.log2 : Int) - r.den.log2

end Ratio

end BatchExec
