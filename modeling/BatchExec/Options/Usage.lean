import BatchExec.Options.Table
import BatchExec.Text.Split

/-!
# Usage and help

How the command line is written, in short and at length, in lines of at most 78 columns.
-/

namespace BatchExec

namespace Usage

/-- The name of the program. -/
def program : Text := "cargs"

/-- The version of the program. -/
def version : Text := program ++ " 0.1.0\n"

/-- The columns of a line. -/
def width : Nat := 78

/-- The column in which explanations start. -/
def explanationColumn : Nat := 24

/-- Parts put on lines, as many on each as fit, one blank between neighbours. A line that is begun
holds `line`, and none is begun if it is empty. -/
def fillFrom (columns : Nat) : (line : Text) → (parts : List Text) → List Text
  | line, [] => if line = [] then [] else [line]
  | line, part :: parts =>
    if line = [] then fillFrom columns part parts
    else if line.length + 1 + part.length ≤ columns then
      fillFrom columns (line ++ " " ++ part) parts
    else line :: fillFrom columns part parts

/-- Parts put on lines, as many on each as fit. -/
def fill (columns : Nat) (parts : List Text) : List Text := fillFrom columns [] parts

/-- So many blanks. -/
def blanks (n : Nat) : Text := List.replicate n ' '

/-- Lines with so many blanks in front of all but the first. -/
def hang (indent : Nat) (lines : List Text) : Text := Text.join ("\n" ++ blanks indent) lines

/-- An option and its value, as usage shows them. -/
def usagePart (o : CommandOption) : Text :=
  o.shortName?.getD o.longName ++ (match o.placeholder? with
    | some value => " " ++ value
    | none => [])

/-- The parts of the usage that stand for options: each is optional, and `-0` and `-d` exclude each
other. -/
def optionParts : List Text :=
  CommandOption.all.filterMap fun o =>
    match o with
    | .null => some ("[" ++ usagePart .null ++ " | " ++ usagePart .delimiter ++ "]")
    | .delimiter => none
    | o => some ("[" ++ usagePart o ++ "]")

/-- How the command line is written. -/
def usage : Text :=
  let start : Text := "usage: " ++ program ++ " "
  let lines := fill (width - start.length) optionParts ++ [Text.ofString "..."]
  start ++ hang start.length lines ++ "\n"

/-- The names of an option with its value, as help shows them. -/
def helpName (o : CommandOption) : Text :=
  Text.join ", " (o.names.map fun name => match o.placeholder? with
    | some value => name ++ " " ++ value
    | none => name)

/-- An entry of the help: a name and its explanation, which starts on the next line if the name is
long. -/
def entry (name explanation : Text) : Text :=
  let lines := fill (width - explanationColumn) explanation.words
  let gap : Text :=
    if name.length + 4 ≤ explanationColumn then blanks (explanationColumn - 2 - name.length)
    else "\n" ++ blanks explanationColumn
  "  " ++ name ++ gap ++ hang explanationColumn lines ++ "\n"

/-- What the program does. -/
def description : Text := "Build and execute command lines from standard input."

/-- What the exit statuses mean. -/
def exitStatuses : Text :=
  "Exit status: 0 if all commands succeeded, 123 if any exited non-zero, 124 if any timed out, " ++
  "125 on an internal error, 126 if a command could not be executed and 127 if it was not found."

/-- The help text. -/
def help : Text :=
  usage ++ "\n" ++ description ++ "\n\npositional arguments:\n" ++
    entry "command" "Command to run, followed by its initial arguments (default: echo)." ++
    "\noptions:\n" ++ CommandOption.all.flatMap (fun o => entry (helpName o) o.explanation) ++
    "\n" ++ hang 0 (fill width exitStatuses.words) ++ "\n"

end Usage

end BatchExec
