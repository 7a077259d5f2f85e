import BatchExec.Text.Basic

/-!
# Command lines of a POSIX shell

* `Text.shellQuote`: a word as it has to be typed.
* `Text.commandLine`: a list of words as one line.
* `Text.shellWords?`: the words that a shell reads from a line.
-/

namespace BatchExec

/-- Whether a code point means itself in a shell word: ASCII letters, digits and `-_@%+=:,./`. -/
def CodePoint.isShellSafe (c : CodePoint) : Bool :=
  (0x61 ≤ c.val && c.val ≤ 0x7A) || (0x41 ≤ c.val && c.val ≤ 0x5A) ||
    (0x30 ≤ c.val && c.val ≤ 0x39) || (Text.ofString "-_@%+=:,./").contains c

/-- Whether a code point separates words on a command line. -/
def CodePoint.isShellBlank (c : CodePoint) : Bool := (Text.ofString " \t").contains c

/-- Whether a code point is more than itself to a shell if it is not quoted: it separates words or
commands, quotes, or begins an operator, an expansion, a pattern or a comment. -/
def CodePoint.isShellSpecial (c : CodePoint) : Bool :=
  (Text.ofString " \t\n'\"\\|&;<>()$`*?[#~").contains c

/-- Whether a code point is more than itself to a shell between double quotes. -/
def CodePoint.isDoubleSpecial (c : CodePoint) : Bool := (Text.ofString "\"\\$`").contains c

namespace Text

/-- A code point inside single quotes: a single quote is written between double quotes. -/
def shellQuoteChar (c : CodePoint) : Text := if c = '\'' then "'\"'\"'" else [c]

/-- A word as a shell reads it back: bare if every code point is safe, else in single quotes. -/
def shellQuote (word : Text) : Text :=
  if word = [] then "''"
  else if word.all CodePoint.isShellSafe then word
  else "'" ++ word.flatMap shellQuoteChar ++ "'"

/-- A list of words as one line. -/
def commandLine (words : List Text) : Text := join " " (words.map shellQuote)

/-- What the reader of a command line is inside of. -/
inductive ShellQuoting where
  | bare
  | escaped
  | single
  | double
  | doubleEscaped
  deriving DecidableEq, Repr

/-- Reads on with the word read so far, if one has begun. -/
def shellWordsFrom? : ShellQuoting → Option Text → Text → Option (List Text)
  | .bare, word, [] => some word.toList
  | _, _, [] => none
  | .bare, word, c :: rest =>
    if c.isShellBlank then (shellWordsFrom? .bare none rest).map (word.toList ++ ·)
    else if c = '\'' then shellWordsFrom? .single (some (word.getD [])) rest
    else if c = '"' then shellWordsFrom? .double (some (word.getD [])) rest
    else if c = '\\' then shellWordsFrom? .escaped word rest
    else if c.isShellSpecial then none
    else shellWordsFrom? .bare (some (word.getD [] ++ [c])) rest
  | .escaped, word, c :: rest =>
    if c = '\n' then shellWordsFrom? .bare word rest
    else shellWordsFrom? .bare (some (word.getD [] ++ [c])) rest
  | .single, word, c :: rest =>
    if c = '\'' then shellWordsFrom? .bare word rest
    else shellWordsFrom? .single (some (word.getD [] ++ [c])) rest
  | .double, word, c :: rest =>
    if c = '"' then shellWordsFrom? .bare word rest
    else if c = '\\' then shellWordsFrom? .doubleEscaped word rest
    else if c.isDoubleSpecial then none
    else shellWordsFrom? .double (some (word.getD [] ++ [c])) rest
  | .doubleEscaped, word, c :: rest =>
    if c = '\n' then shellWordsFrom? .double word rest
    else if c.isDoubleSpecial then shellWordsFrom? .double (some (word.getD [] ++ [c])) rest
    else shellWordsFrom? .double (some (word.getD [] ++ [('\\' : CodePoint), c])) rest

/-- The words that a shell reads from a line in which it has nothing to expand; none if a quote
stays open, or if something stands there unquoted that is more than itself. -/
def shellWords? (line : Text) : Option (List Text) := shellWordsFrom? .bare none line

end Text

end BatchExec
