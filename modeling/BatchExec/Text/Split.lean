import BatchExec.Text.Blank

/-!
# Splitting texts

* `Text.splitOn`: the pieces between the leftmost, non-overlapping occurrences of a separator.
* `Text.lines`: the lines, each with its line feed.
* `Text.words`: the maximal runs of code points that are not blank.
* `Text.chunks`: consecutive parts of a given size.
-/

namespace BatchExec.Text

/-- The pieces of a text between occurrences of a separator, the first `skip` code points left out:
they belong to the occurrence that was just found. -/
def splitFrom (separator : Text) : (skip : Nat) → Text → List Text
  | _, [] => [[]]
  | skip + 1, _ :: rest => splitFrom separator skip rest
  | 0, c :: rest =>
    if separator.isPrefixOf (c :: rest) then
      [] :: splitFrom separator (separator.length - 1) rest
    else consHead c (splitFrom separator 0 rest)

/-- The pieces of a text between the leftmost, non-overlapping occurrences of a separator: one more
than there are occurrences, possibly empty. -/
def splitOn (separator t : Text) : List Text := splitFrom separator 0 t

theorem splitFrom_ne_nil (separator : Text) (skip : Nat) (t : Text) :
    splitFrom separator skip t ≠ [] := by
  fun_induction splitFrom separator skip t with
  | case1 => simp
  | case2 skip c rest ih => exact ih
  | case3 => simp
  | case4 => exact consHead_ne_nil _ _

/-- The lines of a text, each ending with its line feed; the last one may lack it. -/
def lines : Text → List Text
  | [] => []
  | c :: rest => if c = '\n' then [c] :: lines rest else consHead c (lines rest)

theorem flatten_lines (t : Text) : (lines t).flatten = t := by
  induction t with
  | nil => rfl
  | cons c rest ih => by_cases h : c = CodePoint.ofChar '\n' <;> simp [lines, h, ih]

/-- The words of a text: its maximal runs of code points that are not blank. -/
def words : Text → List Text
  | [] => []
  | c :: rest =>
    if c.isBlank then words rest
    else match rest with
      | [] => [[c]]
      | next :: _ => if next.isBlank then [c] :: words rest else consHead c (words rest)

/-- What is left of the current chunk, which takes `room` more code points, and the chunks of `size`
code points after it. -/
def chunksFrom (size : Nat) : (room : Nat) → Text → Text × List Text
  | _, [] => ([], [])
  | 0, c :: rest =>
    let (chunk, later) := chunksFrom size (size - 1) rest
    ([], (c :: chunk) :: later)
  | room + 1, c :: rest =>
    let (chunk, later) := chunksFrom size room rest
    (c :: chunk, later)

/-- A text in chunks of `size` code points, the last one possibly shorter; no chunks if the size is
zero. -/
def chunks (size : Nat) (t : Text) : List Text := if size = 0 then [] else (chunksFrom size 0 t).2

theorem flatten_chunksFrom (size room : Nat) (t : Text) :
    (chunksFrom size room t).1 ++ (chunksFrom size room t).2.flatten = t := by
  fun_induction chunksFrom size room t with
  | case1 => rfl
  | case2 c rest chunk later h ih => simpa [h] using ih
  | case3 room c rest chunk later h ih => simpa [h] using ih

theorem flatten_chunks {size : Nat} (h : size ≠ 0) (t : Text) : (chunks size t).flatten = t := by
  cases t with
  | nil => simp [chunks, chunksFrom]
  | cons c rest => simpa [chunks, chunksFrom, h] using flatten_chunksFrom size (size - 1) rest

end BatchExec.Text
