import BatchExec.Text.CharacterName.African
import BatchExec.Text.CharacterName.Alias
import BatchExec.Text.CharacterName.American
import BatchExec.Text.CharacterName.Ancient
import BatchExec.Text.CharacterName.Brahmic
import BatchExec.Text.CharacterName.Cuneiform
import BatchExec.Text.CharacterName.EastAsian
import BatchExec.Text.CharacterName.European
import BatchExec.Text.CharacterName.Hieroglyphic
import BatchExec.Text.CharacterName.Ideographic
import BatchExec.Text.CharacterName.Indic
import BatchExec.Text.CharacterName.Latin
import BatchExec.Text.CharacterName.Mathematical
import BatchExec.Text.CharacterName.MiddleEastern
import BatchExec.Text.CharacterName.Notation
import BatchExec.Text.CharacterName.Pictographic
import BatchExec.Text.CharacterName.Punctuation
import BatchExec.Text.CharacterName.Shorthand
import BatchExec.Text.CharacterName.SoutheastAsian
import BatchExec.Text.CharacterName.Systematic

/-!
# Character names

The names of Unicode 14.0. Letters in a name may be capital or small, except in the names of unified
ideographs and Hangul syllables.

* `Text.named?`: the code point of a character name.
-/

namespace BatchExec.Text

/-- The names in tables. -/
def nameTables : List (List NameRow) := [
  latinNames, europeanNames, middleEasternNames, indicNames, brahmicNames, southeastAsianNames,
  eastAsianNames, ideographicNames, africanNames, americanNames, ancientNames, cuneiformNames,
  hieroglyphicNames, punctuationNames, mathematicalNames, notationNames, shorthandNames,
  pictographicNames, selectorNames]

/-- The code point of a name in capital letters that a table holds. -/
def tabled? (name : Text) : Option Nat :=
  nameTables.findSome? fun rows => rows.findSome? (·.find? name)

/-- The code point of an alias in capital letters. -/
def aliased? (name : Text) : Option Nat :=
  nameAliases.findSome? fun (value, row) =>
    if (splitOn ", " (ofString row)).contains name then some value else none

/-- The code point of a character name. -/
def named? (name : Text) : Option CodePoint :=
  let capital := name.map CodePoint.toUpper
  let value := ideograph? name <|> syllable? name <|> tabled? capital <|> numbered? capital <|>
    aliased? capital
  value.map CodePoint.ofNat

end BatchExec.Text
