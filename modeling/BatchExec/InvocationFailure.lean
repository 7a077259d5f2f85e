import BatchExec.Text.Shell
import BatchExec.Value

/-!
# Failed invocations

Why a command line has no exit status: its program did not start, or it overran its time limit.
-/

namespace BatchExec

/-- Why a command line has no exit status. -/
inductive InvocationFailure where
  /-- The program did not start. The exit code is the status that this calls for. -/
  | notStarted (reason : Text) (exitCode : Option Int) (argv : Option (List Text))
  /-- The command overran its time limit and was killed. The limit is kept as it was given. -/
  | timedOut (limit : Value) (argv : Option (List Text))
  deriving Repr

namespace InvocationFailure

/-- What happened. -/
def reason : InvocationFailure → Text
  | .notStarted reason _ _ => reason
  | .timedOut limit _ => "Command timed out after " ++ limit.inSentence ++ " seconds"

/-- The exit status that the failure calls for, if it is known. -/
def exitCode : InvocationFailure → Option Int
  | .notStarted _ exitCode _ => exitCode
  | .timedOut _ _ => none

/-- The command line, if it is known. -/
def argv : InvocationFailure → Option (List Text)
  | .notStarted _ _ argv => argv
  | .timedOut _ argv => argv

/-- The wording of a failure: what happened, the exit code and the command line. -/
def message (f : InvocationFailure) : Text :=
  let code : Text := match f.exitCode with
    | some code => " (exit code " ++ Text.ofInt code ++ ")"
    | none => []
  let command : Text := match f.argv with
    | some (word :: words) => "\ncommand: " ++ Text.commandLine (word :: words)
    | _ => []
  f.reason ++ code ++ command

end InvocationFailure

end BatchExec
