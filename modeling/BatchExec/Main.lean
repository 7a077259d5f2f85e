import BatchExec.CommandLine

/-!
# The program

* `main`: reads the command line, the environment and the input, and prints the command lines that a
  run consists of instead of running them. Every command counts as one that succeeds at once.
-/

namespace BatchExec.Rehearsal

/-- How a command behaves that is not run. -/
def child : Behaviour := { lifetime := 0 }

/-- The error number of a file that cannot be read, and the words for it. -/
def reason : IO.Error → Int × Text
  | .noFileOrDirectory .. => (2, "No such file or directory")
  | .permissionDenied .. => (13, "Permission denied")
  | _ => (21, "Is a directory")

/-- The bytes of the file of a command line, or why they cannot be read. -/
def readFile (path : String) : IO (Except Failure (List UInt8)) := do
  try
    return .ok (← IO.FS.readBinFile path).toList
  catch error =>
    let (code, words) := reason error
    return .error (Directory.failureAt code words path)

/-- The variables that the program looks at, as they are set. -/
def environment : IO Environment := do
  let mut found : Environment := []
  for name in ["CARGS_MAX_ARGS", "CARGS_MAX_PROCS"] do
    if let some value ← IO.getEnv name then
      found := found ++ [(Text.ofString name, Text.ofString value)]
  return found

/-- The surroundings of a run whose command line names a file or none. -/
def surroundings (path : Option Text) : IO Surroundings := do
  let environment ← environment
  match path with
  | none =>
    let bytes ← (← IO.getStdin).readBinToEnd
    return { environment, input := readText bytes.toList, children := fun _ => child }
  | some path =>
    let content ← readFile (String.ofList (path.map fun c => Char.ofNat c.val))
    return { environment, file := fun _ => content, children := fun _ => child }

/-- Writes a text to a stream. -/
def write (stream : IO.FS.Stream) (t : Text) : IO Unit :=
  stream.write (ByteArray.mk (Text.encodeUtf8 t).toArray)

/-- Writes what a run shows, and returns the exit status. -/
def finish (report : Report) : IO UInt32 := do
  let stdout ← IO.getStdout
  let stderr ← IO.getStderr
  write stderr report.stderr
  write stdout report.stdout
  write stdout (Text.unlines (report.attempts.map fun a => Text.commandLine a.argv))
  match report.ending with
  | .returned code | .exited code => return UInt32.ofNat code
  | .escape error => write stderr (error.message ++ "\n"); return 1
  | .failed failure => write stderr (failure.text ++ "\n"); return 1

end BatchExec.Rehearsal

/-- Rehearses the run that a command line asks for. -/
def main (words : List String) : IO UInt32 := do
  let words := words.map BatchExec.Text.ofString
  match BatchExec.Arguments.read words with
  | .error stop => BatchExec.Rehearsal.finish (BatchExec.CommandLine.endWith stop)
  | .ok arguments =>
    let surroundings ← BatchExec.Rehearsal.surroundings (arguments.argFile.bind (·.given?))
    BatchExec.Rehearsal.finish (BatchExec.CommandLine.run surroundings words)
