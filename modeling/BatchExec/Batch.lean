import BatchExec.Config
import BatchExec.Failure

/-!
# Batches

A batch is the group of items that goes into one command line.

* `ItemSource`: items that may end in a failure.
* `ItemSource.group`: the batches of a source, each with the number of items taken by then.
* `ItemSource.pull`: asks for batches one by one.
-/

namespace BatchExec

/-- A group of items with its position in the run. -/
structure Batch where
  index : Int
  items : List Text
  nonempty : items ≠ []
  deriving DecidableEq, Repr

namespace Batch

/-- The batch of some items, unless there are none. -/
def ofItems? (index : Int) (items : List Text) : Option Batch :=
  if h : items ≠ [] then some ⟨index, items, h⟩ else none

/-- What is said of a batch without items. -/
def emptyMessage : Text := "a batch must contain at least one token"

/-- The number of items. -/
def size (b : Batch) : Nat := b.items.length

end Batch

/-- A batch and the number of items that had been taken from the source when it was complete. -/
structure Grouped where
  batch : Batch
  taken : Nat
  deriving DecidableEq, Repr

/-- Items that are asked for one by one; after the last one the source ends, or it fails. -/
structure ItemSource where
  items : List Text
  failure : Option Failure := none
  deriving DecidableEq, Repr

namespace ItemSource

/-- Groups items of which `pending` are in the current batch already, and `room` more go into it
before the one that completes it. What is left over at the end is a batch if `closes`. -/
def groupFrom (size : Nat) (closes : Bool) :
    (index taken room : Nat) → (pending items : List Text) → List Grouped
  | index, taken, _, pending, [] =>
    if h : pending ≠ [] then if closes then [⟨⟨index, pending, h⟩, taken⟩] else [] else []
  | index, taken, 0, pending, item :: rest =>
    ⟨⟨index, pending ++ [item], by simp⟩, taken + 1⟩ ::
      groupFrom size closes (index + 1) (taken + 1) (size - 1) [] rest
  | index, taken, room + 1, pending, item :: rest =>
    groupFrom size closes index (taken + 1) room (pending ++ [item]) rest

/-- The batches of at most `size` items, in order; a shorter one stands last. Items left over when
the source fails make no batch. -/
def group (source : ItemSource) (size : Nat) : List Grouped :=
  groupFrom size source.failure.isNone 0 0 (size - 1) [] source.items

theorem flatMap_groupFrom (size index taken room : Nat) (pending items : List Text) :
    ((groupFrom size true index taken room pending items).flatMap fun g => g.batch.items) =
      pending ++ items := by
  fun_induction groupFrom size true index taken room pending items <;> simp_all

/-- No item is lost or moved. -/
theorem flatMap_group {source : ItemSource} (h : source.failure = none) (size : Nat) :
    ((source.group size).flatMap fun g => g.batch.items) = source.items := by
  simp [group, h, flatMap_groupFrom]

/-- The source that fails when it is asked for the item at a position, unless it ends before. -/
def failingAt (items : List Text) (position : Nat) (failure : Failure) : ItemSource :=
  if position ≤ items.length then ⟨items.take position, some failure⟩ else ⟨items, none⟩

/-- What asking for batches one by one gives: the batches, the number of items taken by then, and
how the source failed if it did. -/
structure Pulled where
  batches : List Grouped
  taken : Nat
  failure : Option Failure := none
  deriving DecidableEq, Repr

/-- Asks for all batches of at most `size` items, up to the end of the source or its failure. -/
def pullAll (source : ItemSource) (size : Nat) : Pulled :=
  ⟨source.group size, source.items.length, source.failure⟩

/-- Asks for so many batches of at most `size` items; for all of them if there are fewer or no
number is given. -/
def pull (source : ItemSource) (size : Nat) : Option Nat → Pulled
  | none => source.pullAll size
  | some 0 => { batches := [], taken := 0 }
  | some (count + 1) =>
    match (source.group size)[count]? with
    | some last => { batches := (source.group size).take (count + 1), taken := last.taken }
    | none => source.pullAll size

/-- Asks for batches of at most `size` items; that the size is not positive shows at the first one.
-/
def pull? (source : ItemSource) (size : Int) (count : Option Nat) : Except ConfigError Pulled :=
  if size < 1 ∧ count ≠ some 0 then .error (.maxArgsTooSmall size)
  else .ok (source.pull size.toNat count)

end ItemSource

end BatchExec
