import BatchExec.Failure
import BatchExec.Text.Newline
import BatchExec.Text.Split
import BatchExec.Text.Utf8

/-!
# Text files

* `readText`: the text in a file's bytes.
* `Directory.follow`: where a path leads.
* `Directory.read`: the bytes of a file in a directory, or why it cannot be opened.
-/

namespace BatchExec

/-- The text in a file: its bytes are decoded, undecodable ones kept, and its lines end with line
feeds. -/
def readText (bytes : List UInt8) : Text := (Text.decodeUtf8 bytes).normalizeNewlines

/-- A directory: names of files with their bytes, and of empty directories. -/
abbrev Directory := List (Text × Option (List UInt8))

namespace Directory

/-- A system error about a file. -/
def failureAt (code : Int) (reason path : Text) : Failure :=
  let failure := Failure.system code reason
  { failure with text := failure.text ++ ": " ++ path.quoted }

/-! ## Paths -/

/-- The greatest number of bytes in a name. -/
def maxName : Nat := 255

/-- The number of bytes at which a path is too long. -/
def pathBound : Nat := 4096

/-- The names in a path, from left to right. Empty ones and single dots lead nowhere. -/
def names (path : Text) : List Text :=
  (Text.splitOn "/" path).filter fun name => name ≠ [] ∧ name ≠ "."

/-- Where a part of a path leads. -/
inductive Place where
  /-- To a file. -/
  | file (bytes : List UInt8)
  /-- To the directory that these names lead to from the root, or from the current directory. -/
  | directory (fromRoot : Bool) (names : List Text)
  /-- To a directory above the current one, of which nothing is known. -/
  | above
  deriving DecidableEq, Repr

/-- Why a path leads nowhere. -/
inductive Obstacle where
  | missing
  | notDirectory
  | isDirectory
  | tooLong
  deriving DecidableEq, Repr

/-- The error number of an obstacle and the words for it. -/
def Obstacle.reason : Obstacle → Int × Text
  | .missing => (2, "No such file or directory")
  | .notDirectory => (20, "Not a directory")
  | .isDirectory => (21, "Is a directory")
  | .tooLong => (36, "File name too long")

/-- What every system holds, from the root. -/
def standard : Directory := [("dev", none), ("dev/null", some []), ("tmp", none)]

/-- Follows a name. -/
def step (d : Directory) (place : Place) (name : Text) : Except Obstacle Place :=
  match place with
  | .file _ => .error .notDirectory
  | .above =>
    if name = ".." then .ok .above
    else if maxName < (Text.encodeUtf8 name).length then .error .tooLong
    else .error .missing
  | .directory fromRoot parents =>
    if name = ".." then
      if parents = [] ∧ !fromRoot then .ok .above else .ok (.directory fromRoot parents.dropLast)
    else if maxName < (Text.encodeUtf8 name).length then .error .tooLong
    else
      let path := parents ++ [name]
      match (if fromRoot then standard else d).find? fun entry => names entry.1 = path with
      | some (_, some bytes) => .ok (.file bytes)
      | some (_, none) => .ok (.directory fromRoot path)
      | none => .error .missing

/-- Where a path leads. If it ends with a slash or a single dot, it leads to a directory or nowhere.
-/
def follow (d : Directory) (path : Text) : Except Obstacle Place :=
  if path = [] then .error .missing
  else if pathBound ≤ (Text.encodeUtf8 path).length then .error .tooLong
  else do
    let start := Place.directory (path.head? = some (CodePoint.ofChar '/')) []
    let place ← (names path).foldlM (step d) start
    match place with
    | .file bytes =>
      let last := (Text.splitOn "/" path).getLast?
      if last = some [] ∨ last = some "." then .error .notDirectory else .ok (.file bytes)
    | place => .ok place

/-- The bytes of a file in a directory, or why it cannot be opened. -/
def read (d : Directory) (path : Text) : Except Failure (List UInt8) :=
  if path.contains CodePoint.null then .error (.badValue "embedded null byte")
  else
    let opened : Except Obstacle (List UInt8) := match follow d path with
      | .ok (.file bytes) => .ok bytes
      | .ok _ => .error .isDirectory
      | .error obstacle => .error obstacle
    opened.mapError fun obstacle => failureAt obstacle.reason.1 obstacle.reason.2 path

end Directory

end BatchExec
