import BatchExec.Text.Basic

/-!
# Line ends

A text file may end its lines with a line feed, a carriage return or both; readers see line feeds
only.
-/

namespace BatchExec.Text

/-- Every carriage return, with the line feed after it if there is one, becomes a line feed. -/
def normalizeNewlines : Text → Text
  | [] => []
  | c :: rest =>
    if c = '\r' then
      if rest.head? = some (CodePoint.ofChar '\n') then normalizeNewlines rest
      else '\n' :: normalizeNewlines rest
    else c :: normalizeNewlines rest

end BatchExec.Text
