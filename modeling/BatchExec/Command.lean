import BatchExec.Batch
import BatchExec.Text.Shell

/-!
# Commands

* `Template`: the fixed words that every command line begins with.
* `Invocation`: one command line, a template followed by the items of a batch.
-/

namespace BatchExec

/-- The fixed words of a command. -/
structure Template where
  base : List Text
  deriving DecidableEq, Repr

/-- One command line. -/
structure Invocation where
  batch : Batch
  argv : List Text
  deriving DecidableEq, Repr

namespace Template

/-- The command that runs if none is named. -/
def default : Template := ⟨["echo"]⟩

/-- The command of some words, the default one if there are none. -/
def ofWords (words : List Text) : Template := if words = [] then default else ⟨words⟩

/-- The command line of a batch. -/
def instantiate (t : Template) (b : Batch) : Invocation := ⟨b, t.base ++ b.items⟩

end Template

namespace Invocation

/-- The position of the batch in the run. -/
def index (i : Invocation) : Int := i.batch.index

/-- The program that a command line names. -/
def program (i : Invocation) : Text := i.argv.headD []

/-- A command line as it is typed into a shell. -/
def display (i : Invocation) : Text := Text.commandLine i.argv

end Invocation

end BatchExec
