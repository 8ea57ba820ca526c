import LintRun.CommandLine.Run
import LintRun.FileTree.Snapshot
import LintRun.Format.Json
import LintRun.Shell.World

/-!
# The program

The program reads the arguments from the command line and one line with a snapshot of the working
directory, a JSON list, from the standard input. It then does what the arguments ask for on a
machine with these files, and writes what that leaves behind.
-/

namespace LintRun

/-- What is said when the arguments ask for nothing to do. -/
def Usage.message : Usage → String
  | .version => "lintbridge " ++ LintRun.version ++ "\n"
  | _ => "Usage: lintbridge run [OPTIONS] [PATH]\n       lintbridge list\n"

/-- The working directory of the machine. -/
def workLocation : Location := ["tmp", "work"]

/-- The machine with a snapshot in its working directory. -/
def machineWith (plantings : List Planting) : FileSystem :=
  plantings.foldl FileSystem.plant ⟨Shell.bareTree.set .emptyDirectory workLocation, workLocation⟩

/-- What the program leaves behind for its arguments and the text of a snapshot. -/
def ending (arguments : List String) (snapshot : String) : Ending :=
  match Invocation.ofArguments arguments with
  | .error usage =>
    if usage.status = 0 then { status := 0, stdout := usage.message }
    else { status := usage.status, stderr := usage.message }
  | .ok invocation =>
    match (if Text.isBlankText snapshot then some (.array []) else Json.parse snapshot) >>=
      Format.list Planting.read with
    | none => { status := statusError, stderr := "Error: " ++ Document.malformed ++ "\n" }
    | some plantings =>
      let fs := machineWith plantings
      ((invocation.execute false fs).run Shell.world fs).value

end LintRun

/-- Runs the program. -/
def main (arguments : List String) : IO UInt32 := do
  let snapshot ← (← IO.getStdin).getLine
  let ending := LintRun.ending arguments snapshot
  (← IO.getStdout).putStr ending.stdout
  (← IO.getStderr).putStr ending.stderr
  return ending.status.toUInt32
