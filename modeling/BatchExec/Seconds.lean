import BatchExec.Number.Shortest
import BatchExec.Value

/-!
# Time limits

A time limit is a number of seconds in the form it was given in. Time passes in whole milliseconds.

* `Seconds.ofValue?`: the number of seconds that a value is.
* `Seconds.lastInTime`: the greatest number of milliseconds within a limit.
* `Seconds.expiry`: the first millisecond at which a limit has passed.
* `Seconds.alarm`: the same for a caller that sets an alarm for it.
* `Seconds.unbounded`: which limits are too great to be set.
-/

namespace BatchExec

/-- A number of seconds as it was given. A truth value counts as zero or one. -/
inductive Seconds where
  | int (n : Int)
  | float (x : Float)
  | bool (b : Bool)
  deriving Repr

namespace Seconds

/-- The number of seconds that a value is. -/
def ofValue? : Value → Option Seconds
  | .int n => some (.int n)
  | .float x => some (.float x)
  | .bool b => some (.bool b)
  | _ => none

/-- A number of seconds as a value. -/
def toValue : Seconds → Value
  | .int n => .int n
  | .float x => .float x
  | .bool b => .bool b

/-- A number of seconds as messages show it. -/
def shown (s : Seconds) : Text := s.toValue.shown

/-- Whether a limit is zero or less; what is not a number is neither. -/
def nonpositive : Seconds → Bool
  | .int n => n ≤ 0
  | .float x => x ≤ 0
  | .bool b => !b

/-- Whether a limit is not a number. -/
def isNaN : Seconds → Bool
  | .float x => x.isNaN
  | _ => false

/-- Whether an alarm that is set for a limit goes off at once: the limit is zero or less, or not a
number, which nothing waits for. -/
def lapsed (s : Seconds) : Bool := s.nonpositive || s.isNaN

/-- The greatest number of milliseconds within a limit; none if the limit is not finite. A thousand
times the seconds is rounded as floating-point numbers are. -/
def lastInTime (s : Seconds) : Option Int :=
  match s with
  | .int n => some (1000 * n)
  | .bool b => some (if b then 1000 else 0)
  | .float x => (Binary.decode (1000 * x)).map Binary.floor

/-- What rounding adds to a number of milliseconds is less than this: the floating-point number
nearest to `1e-9`. -/
def tolerance : Ratio := ⟨0x112E0BE826D695, Nat.pow 2 82⟩

/-- The number of milliseconds after which a limit has passed; none if it never passes. A thousand
times the seconds may be rounded up a little, which does not count. -/
def expiry (s : Seconds) : Option Nat :=
  if s.nonpositive then some 0
  else match s with
  | .int n => some (1000 * n).toNat
  | .bool b => some (if b then 1000 else 0)
  | .float x => (Binary.decode (1000 * x)).map fun ms => (ms.minus tolerance).ceil.toNat

/-- The number of milliseconds after which an alarm goes off that is set for a limit; none if it
never does. -/
def alarm (s : Seconds) : Option Nat := if s.lapsed then some 0 else s.expiry

/-- Whether something that takes so many milliseconds overruns a limit. -/
def overrunBy (s : Seconds) (ms : Nat) : Bool :=
  match s.lastInTime with
  | some last => last < ms
  | none => s.nonpositive

/-- Whether a limit is a whole number beyond all floating-point numbers. -/
def unbounded : Seconds → Bool
  | .int n => Binary.overflow ≤ n
  | _ => false

end Seconds

end BatchExec
