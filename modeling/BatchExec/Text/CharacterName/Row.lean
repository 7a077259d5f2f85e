import BatchExec.Text.Split

/-!
# Rows of character names

Characters that follow one another often have names that begin alike. A row holds what their names
begin with, and for each of them what its name ends with.

* `NameRow.names`: the names in a row.
* `NameRow.find?`: the code point of a name in a row; `NameRow.find?_eq` says that it is the place
  of the name among the names.
-/

namespace BatchExec

/-- The names of consecutive characters. Names are in capital letters. -/
structure NameRow where
  /-- The code point of the first character. -/
  first : Nat
  /-- What all names begin with. -/
  stem : String
  /-- What each name ends with, set off by commas. -/
  endings : String
  deriving Repr

namespace NameRow

/-- What the names of a row end with. -/
def endingList (row : NameRow) : List Text := Text.splitOn ", " (Text.ofString row.endings)

/-- The names in a row. -/
def names (row : NameRow) : List Text := row.endingList.map (Text.ofString row.stem ++ ·)

/-- The code point of a name in a row. -/
def find? (row : NameRow) (name : Text) : Option Nat :=
  let stem := Text.ofString row.stem
  if stem.isPrefixOf name then
    (row.endingList.idxOf? (name.drop stem.length)).map (row.first + ·)
  else none

theorem idxOf?_map_append (stem name : Text) (endings : List Text) :
    (endings.map (stem ++ ·)).idxOf? name =
      if stem.isPrefixOf name then endings.idxOf? (name.drop stem.length) else none := by
  induction endings with
  | nil => simp
  | cons ending endings ih =>
    simp only [List.map_cons, List.idxOf?_cons, ih]
    by_cases h : stem.isPrefixOf name
    · obtain ⟨rest, rfl⟩ := List.isPrefixOf_iff_prefix.1 h
      simp
    · have differs : ¬ stem ++ ending = name := by
        rintro rfl
        simp at h
      simp [h, differs]

/-- **The code point of a name is counted by the place of the name in its row.** -/
theorem find?_eq (row : NameRow) (name : Text) :
    row.find? name = (row.names.idxOf? name).map (row.first + ·) := by
  simp only [find?, names, idxOf?_map_append]
  split <;> simp

end NameRow

end BatchExec
