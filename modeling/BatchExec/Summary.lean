import BatchExec.Status

/-!
# Summary of a run

* `Summary.ofCompleted`: sorts the results of a run, which come in the order of completion, by
  batch.
-/

namespace BatchExec

/-- What a run comes to. -/
structure Summary where
  /-- The results in the order of their batches. -/
  results : List Result
  /-- The positions of the batches in the order of completion. -/
  completionOrder : List Int
  /-- Whether the run stopped before its input was used up. -/
  cancelled : Bool
  /-- The time that the run took. -/
  runtime : TimeSpan
  /-- The most commands that ran at a time. -/
  peak : Int
  deriving DecidableEq, Repr

namespace Summary

/-- Puts a result before the first one whose index is not smaller. -/
def insertByIndex (r : Result) : List Result → List Result
  | [] => [r]
  | next :: rest => if r.index ≤ next.index then r :: next :: rest else next :: insertByIndex r rest

/-- Results sorted by index; those of one index keep their order. -/
def sortByIndex (results : List Result) : List Result := results.foldr insertByIndex []

theorem insertByIndex_perm (r : Result) (results : List Result) :
    (insertByIndex r results).Perm (r :: results) := by
  induction results with
  | nil => exact .refl _
  | cons next rest ih =>
    unfold insertByIndex
    split
    · exact .refl _
    · exact (ih.cons next).trans (.swap ..)

theorem sortByIndex_perm (results : List Result) : (sortByIndex results).Perm results := by
  induction results with
  | nil => exact .refl _
  | cons r rest ih => exact (insertByIndex_perm r _).trans (ih.cons r)

/-- The summary of results in the order of completion. -/
def ofCompleted (completed : List Result) (cancelled : Bool) (runtime : TimeSpan) (peak : Int) :
    Summary where
  results := sortByIndex completed
  completionOrder := completed.map Result.index
  cancelled := cancelled
  runtime := runtime
  peak := peak

/-- The results that are a success. -/
def succeeded (s : Summary) : List Result := s.results.filter Result.success

/-- The results that are no success. -/
def failed (s : Summary) : List Result := s.results.filter fun r => !r.success

/-- Whether every result is a success. -/
def allSucceeded (s : Summary) : Bool := s.results.all Result.success

/-- The status of the run. -/
def status (s : Summary) : Status := .aggregate s.results s.cancelled

/-- The number that the process exits with. -/
def exitCode (s : Summary) : Nat := s.status.exit.code

/-- The number of results. -/
def size (s : Summary) : Nat := s.results.length

/-- The result at a position; negative positions count from the end. -/
def get? (s : Summary) (position : Int) : Option Result :=
  if position < 0 then
    if position + s.size < 0 then none else s.results[(position + s.size).toNat]?
  else s.results[position.toNat]?

/-- Positions from here on are too great to be looked for, `2 ^ 63`. -/
def positionBound : Int := 0x8000000000000000

/-- Why there is no result at a position. -/
def noResultMessage (position : Int) : Text :=
  if -positionBound ≤ position ∧ position < positionBound then "tuple index out of range"
  else "cannot fit 'int' into an index-sized integer"

end Summary

end BatchExec
