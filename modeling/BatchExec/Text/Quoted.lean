import BatchExec.Text.Printable

/-!
# Quoted texts

How messages show a text: between single quotes, or double quotes if it holds a single quote and no
double one, with everything unprintable escaped.
-/

namespace BatchExec.Text

/-- One code point between `quote` marks. -/
def quotedChar (quote c : CodePoint) : Text :=
  if c = quote ∨ c = '\\' then ['\\', c]
  else if c = '\t' then "\\t"
  else if c = '\n' then "\\n"
  else if c = '\r' then "\\r"
  else if c.isPrintable then [c]
  else if c.val ≤ 0xFF then "\\x" ++ hex 2 c.val
  else if c.val ≤ 0xFFFF then "\\u" ++ hex 4 c.val
  else "\\U" ++ hex 8 c.val

/-- The mark to quote a text with. -/
def quoteMark (t : Text) : CodePoint :=
  if t.contains ('\'' : Char) && !t.contains ('"' : Char) then '"' else '\''

/-- A text in quotes. -/
def quoted (t : Text) : Text :=
  [quoteMark t] ++ t.flatMap (quotedChar (quoteMark t)) ++ [quoteMark t]

end BatchExec.Text
