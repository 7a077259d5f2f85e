import BatchExec.Number.Binary
import BatchExec.Text.Basic

/-!
# Time spans

Time passes in whole milliseconds, but spans of it are measured with a clock that shows seconds in
floating point. The further a clock has run the coarser it is.

* `TimeSpan.seconds`: a span as it is measured.
* `TimeSpan.milliseconds`, `TimeSpan.shown`: the measured span as a whole number and as a text.
-/

namespace BatchExec

/-- The time from a start to an end, both in milliseconds. -/
structure TimeSpan where
  start : Nat
  stop : Nat
  deriving DecidableEq, Repr

namespace TimeSpan

/-- The span from the beginning of time. -/
def upTo (time : Nat) : TimeSpan := ⟨0, time⟩

/-- What the clock shows at a time. -/
def clock (time : Nat) : Float := Binary.nearest ⟨time, 1000⟩

/-- The difference of what the clock shows at the end and at the start. -/
def seconds (s : TimeSpan) : Float := clock s.stop - clock s.start

/-- The nearest integer to so many powers of ten times a number that is not negative, a tie to the
even one. -/
def rounded (places : Nat) (x : Float) : Nat :=
  ((Binary.decode x).map fun b => (b.magnitude.scale 10 places).roundToEven).getD 0

/-- The measured span in milliseconds. -/
def milliseconds (s : TimeSpan) : Nat := rounded 0 (s.seconds * 1000)

/-- The measured span in seconds with three places. -/
def shown (s : TimeSpan) : Text :=
  let thousandths := rounded 3 s.seconds
  Text.ofNat (thousandths / 1000) ++ "." ++ Text.padded 3 (thousandths % 1000)

end TimeSpan

end BatchExec
