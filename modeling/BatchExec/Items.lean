import BatchExec.Config
import BatchExec.Text.Split

/-!
# Input items

Input is read piece by piece, and each item is handed out as soon as it is known to be complete.

* `Reading`: the items that reading hands out, each with the input that is unread by then.
* `Reading.words`: reads words line by line, up to a word that ends the input.
* `Reading.terminated`: reads items that end at a separator, chunk by chunk.
* `Reading.endedFrom`: the same if the input cannot be read to its end.
* `Reading.inMode`: reads as an input mode says.
* `Reading.take`: takes items one by one, and no more input than they need.
-/

namespace BatchExec

/-- An item and the input that was unread when it was handed out. -/
structure Item where
  text : Text
  unread : Text
  deriving DecidableEq, Repr

/-- Why items cannot be read. -/
inductive ItemError where
  /-- The delimiter mode lacks a delimiter. -/
  | missingDelimiter
  /-- The separator is empty. -/
  | emptySeparator
  deriving DecidableEq, Repr

/-- The wording of a reading error. -/
def ItemError.message : ItemError → Text
  | .missingDelimiter => "delimiter is required for InputMode.DELIMITER"
  | .emptySeparator => "empty separator"

/-- What reading an input gives: the items, and what is unread and perhaps wrong after them. -/
structure Reading where
  items : List Item
  unread : Text := []
  error : Option ItemError := none
  deriving DecidableEq, Repr

namespace Reading

/-- Puts items in front. -/
def prepend (items : List Item) (r : Reading) : Reading := { r with items := items ++ r.items }

/-- The items without the place where they were handed out. -/
def texts (r : Reading) : List Text := r.items.map Item.text

/-- Reads words from lines, the first of which starts the unread input. -/
def wordsFrom (eof : Option Text) : (lines : List Text) → (unread : Text) → Reading
  | [], unread => { items := [], unread }
  | line :: later, unread =>
    let rest := unread.drop line.length
    let words := line.words
    let kept := words.takeWhile fun word => some word != eof
    let items := kept.map fun word => ⟨word, rest⟩
    if kept.length < words.length then { items, unread := rest }
    else prepend items (wordsFrom eof later rest)

/-- Reads the words of an input line by line, up to the first one equal to `eof`. -/
def words (eof : Option Text) (input : Text) : Reading := wordsFrom eof input.lines input

/-- Reads the items that end in the chunks to come, after the beginning of one that is pending. -/
def terminatedFrom (separator : Text) :
    (pending : Text) → (chunks : List Text) → (unread : Text) → Reading
  | pending, [], unread =>
    { items := if pending = [] then [] else [⟨pending, unread⟩], unread }
  | pending, chunk :: later, unread =>
    let rest := unread.drop chunk.length
    if separator = [] then { items := [], unread := rest, error := some .emptySeparator }
    else
      let pieces := Text.splitOn separator (pending ++ chunk)
      let items := (pieces.dropLast.filter (· ≠ [])).map fun piece => ⟨piece, rest⟩
      prepend items (terminatedFrom separator (pieces.getLast?.getD []) later rest)

/-- Reads items that end at a separator, in chunks of `size` code points. Empty items are left out;
the last item need not end. -/
def terminated (separator : Text) (size : Nat) (input : Text) : Reading :=
  terminatedFrom separator [] (Text.chunks size input) input

/-- Reads the items that end in chunks, after the beginning of one that is pending. What has not
ended with the last chunk is no item yet. -/
def endedFrom (separator : Text) :
    (pending : Text) → (chunks : List Text) → (unread : Text) → Reading
  | _, [], unread => { items := [], unread }
  | pending, chunk :: later, unread =>
    let rest := unread.drop chunk.length
    if separator = [] then { items := [], unread := rest, error := some .emptySeparator }
    else
      let pieces := Text.splitOn separator (pending ++ chunk)
      let items := (pieces.dropLast.filter (· ≠ [])).map fun piece => ⟨piece, rest⟩
      prepend items (endedFrom separator (pieces.getLast?.getD []) later rest)

/-- The number of code points that are read at a time. -/
def chunkSize : Nat := 8192

/-- Reads an input as its mode says. -/
def inMode (mode : InputMode) (delimiter eof : Option Text) (size : Nat) (input : Text) :
    Except ItemError Reading :=
  match mode, delimiter with
  | .whitespace, _ => .ok (words eof input)
  | .null, _ => .ok (terminated [CodePoint.null] size input)
  | .delimiter, some separator => .ok (terminated separator size input)
  | .delimiter, none => .error .missingDelimiter

/-- What taking items one by one gives: the items, the input that is unread by then, and what went
wrong if something did. -/
structure Taken where
  texts : List Text
  unread : Text
  error : Option ItemError := none
  deriving DecidableEq, Repr

/-- Takes all items, up to the end of the input or the error. -/
def takeAll (r : Reading) : Taken := ⟨r.texts, r.unread, r.error⟩

/-- Takes so many items of an input; all of them if there are fewer or no number is given. -/
def take (r : Reading) (input : Text) : Option Nat → Taken
  | none => r.takeAll
  | some 0 => { texts := [], unread := input }
  | some (count + 1) =>
    match r.items[count]? with
    | some item => { texts := r.texts.take (count + 1), unread := item.unread }
    | none => r.takeAll

end Reading

/-- The items that a configuration finds in an input. -/
def Config.readItems (c : Config) (input : Text) : Except ItemError Reading :=
  Reading.inMode c.inputMode c.delimiter c.eof Reading.chunkSize input

end BatchExec
