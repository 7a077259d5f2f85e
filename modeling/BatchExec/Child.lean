import BatchExec.Failure
import BatchExec.Seconds

/-!
# Child processes

How a child process behaves, and what becomes of it under a time limit. Times count from the attempt
to start it, in milliseconds.

* `Behaviour`: what a child does if nobody interferes.
* `Behaviour.blockingCourse`, `Behaviour.asyncCourse`: what becomes of it.
* `Behaviour.cancelledCourse`: what becomes of it if its invocation is cancelled.
-/

namespace BatchExec

/-- What a child process does if nobody interferes. -/
structure Behaviour where
  /-- How long it lives. -/
  lifetime : Nat
  /-- The code that it exits with, unless a signal ends it. -/
  exitCode : Int := 0
  /-- The signal that ends it, if one does. -/
  signal : Option Int := none
  /-- Why it does not start, if it does not. -/
  failure : Option Failure := none
  /-- The signal that the whole program gets right after the attempt to start the child. -/
  parentSignal : Option Nat := none
  /-- Another signal that it gets right after that one. -/
  nextSignal : Option Nat := none
  /-- How long after its end its end is noticed. -/
  reapDelay : Nat := 0
  /-- Whether it cannot be killed. -/
  immortal : Bool := false
  /-- How long after it has been killed its end is noticed. -/
  killDelay : Nat := 0
  deriving Repr

/-- What becomes of a child that has started. -/
structure Course where
  /-- When its invocation is over. -/
  duration : Nat
  /-- Whether the invocation is over because of its time limit. -/
  timedOut : Bool
  /-- How often the child was told to die. -/
  kills : Nat
  /-- When the child has ended. -/
  ended : Nat
  deriving DecidableEq, Repr

namespace Behaviour

/-- The return code of a child that nobody kills: the negative signal or the exit code. -/
def returnCode (c : Behaviour) : Int :=
  match c.signal with
  | some signal => -signal
  | none => c.exitCode

/-- A command line that cannot be handed to the operating system. -/
def nullFailure : Failure := .badValue "embedded null byte"

/-- A limit that cannot be set. -/
def limitFailure : Failure := .saying "OverflowError" "int too large to convert to float"

/-- Why a child with a command line does not start, if it does not. A failure of its own comes
before a null character in the command line. -/
def spawnFailure (c : Behaviour) (argv : List Text) : Option Failure :=
  c.failure <|> if argv.any (·.contains CodePoint.null) then some nullFailure else none

/-- A child that outlives its limit is killed when the limit passes. -/
def blockingCourse (c : Behaviour) (limit : Option Seconds) : Course :=
  match limit with
  | some limit =>
    if limit.overrunBy c.lifetime then
      let expiry := (limit.expiry).getD c.lifetime
      ⟨expiry, true, 1, expiry⟩
    else ⟨c.lifetime, false, 0, c.lifetime⟩
  | none => ⟨c.lifetime, false, 0, c.lifetime⟩

/-- A child is told to die at some time unless it has ended by then, and its end is waited for until
it is noticed. -/
def killedCourse (c : Behaviour) (time : Nat) (timedOut : Bool) : Course :=
  let noticed := c.lifetime + c.reapDelay
  if c.lifetime ≤ time then ⟨noticed, timedOut, 0, c.lifetime⟩
  else if c.immortal then ⟨noticed, timedOut, 1, c.lifetime⟩
  else ⟨time + c.killDelay, timedOut, 1, time⟩

/-- Without blocking, a limit counts until the end of the child is noticed. The alarm for it may go
off before the child can end. -/
def asyncCourse (c : Behaviour) (limit : Option Seconds) : Course :=
  let noticed := c.lifetime + c.reapDelay
  match limit with
  | some limit =>
    if limit.lapsed then c.killedCourse 0 true
    else if limit.overrunBy noticed then c.killedCourse ((limit.expiry).getD noticed) true
    else ⟨noticed, false, 0, c.lifetime⟩
  | none => ⟨noticed, false, 0, c.lifetime⟩

/-- What becomes of a child whose invocation is cancelled at some time; none if the invocation is
over before. Until the limit passes the child is told to die and its end is waited for; after that
it has been told already, and nobody waits any more. A cancellation comes before all else that
happens at its time. -/
def cancelledCourse (c : Behaviour) (limit : Option Seconds) (time : Nat) : Option Course :=
  let course := c.asyncCourse limit
  if course.duration < time then none
  else if course.timedOut ∧ (limit.bind Seconds.alarm).any (· < time) then
    some { course with duration := time }
  else some (c.killedCourse time false)

end Behaviour

end BatchExec
