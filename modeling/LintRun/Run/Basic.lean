import LintRun.Job
import LintRun.Dialogue.Basic
import LintRun.Tool.Output

/-!
# Running a tool

A tool is run in three steps: it is checked that the tool works, the command of the tool is run, and
its output is read. Each step can fail, and then no later one is taken.

## Main definitions

* `Job.verify`, `Job.lint` and `Job.read` are the steps.
* `Job.execute` takes them.
-/

namespace LintRun

/-- A conversation that ends with a value or a failure. -/
abbrev Attempt (α : Type) := ExceptT Failure Dialogue α

namespace Attempt

/-- Asks whether an executable is there. -/
def lookUp (executable : String) : Attempt Bool :=
  ExceptT.lift (.lookUp executable .done)

/-- Has a command run. -/
def call (c : Call) : Attempt RawOutput :=
  ExceptT.mk (.call c .done)

/-- Asks for the files to lint in a directory. -/
def listFiles (dir : Path) : Attempt (List String) :=
  ExceptT.mk (.listFiles dir .done)

/-- Asks for the canonical path of a directory. -/
def canonical (dir : Path) : Attempt (Option Path) :=
  ExceptT.lift (.canonical dir .done)

/-- Tells the observer something. -/
def notify (notice : Notice) : Attempt Unit :=
  ExceptT.lift (.notify notice (.done ()))

end Attempt

namespace Tool

/-- The failure of a tool whose executable is not there. -/
def missing (tool : Tool) : Failure :=
  .setup tool.name ("`" ++ tool.executable ++ "` was not found on PATH")

/-- The failure of a tool that did not show that it works. -/
def broken (tool : Tool) (command : String) (failure : Failure) : Failure :=
  .setup tool.name ("`" ++ command ++ "` failed: " ++ failure.message)

/-- Checks that a tool is there and shows that it works. -/
def tryOut (tool : Tool) (dir : Path) (commandPrefix : String) : Attempt Unit := do
  if !(← Attempt.lookUp tool.executable) then throw tool.missing
  let command := tool.probe commandPrefix
  tryCatch (discard (Attempt.call { command, dir, ignoresErrors := false }))
    fun failure => throw (tool.broken command failure)

/-- Checks that a tool works. The observer is told if it does not. -/
def verify (tool : Tool) (dir : Path) (commandPrefix : String) : Attempt Unit :=
  tryCatch (tool.tryOut dir commandPrefix) fun failure => do
    Attempt.notify (.setupFailed tool.name failure)
    throw failure

/-- Runs a command of a tool, of which every status is regular output. -/
def runCommand (tool : Tool) (dir : Path) (command : String) : Attempt RawOutput := do
  Attempt.notify (.commandBuilt tool.name command)
  let output ← Attempt.call { command, dir, ignoresErrors := true }
  Attempt.notify (.rawOutput tool.name output)
  return output

/-- Runs the command of a tool. A tool that has to be given files is not run if there are none. -/
def lint (tool : Tool) (settings : JobSettings) : Attempt RawOutput := do
  let command := tool.command settings.toCommandSettings
  match tool with
  | apiLinter =>
    let files ← Attempt.listFiles settings.dir
    Attempt.notify (.filesDiscovered tool.name settings.dir files)
    if files.isEmpty then
      Attempt.notify (.noFilesMatched tool.name settings.dir)
      return RawOutput.empty
    else tool.runCommand settings.dir (command files)
  | _ => tool.runCommand settings.dir (command [])

/-- Reads the output of a tool that ran in a directory. -/
def read (tool : Tool) (dir : Path) (output : RawOutput) : Attempt LintResult := do
  let canonical? ← Attempt.canonical dir
  ExceptT.mk (.done (tool.result ⟨dir, canonical?⟩ output))

end Tool

/-- Runs a tool. Whether it works is checked if `verify` says so. -/
def Job.execute (verify : Bool) (job : Job) : Attempt LintResult := do
  let tool := job.entry.tool
  if verify then tool.verify job.settings.dir job.settings.commandPrefix
  let output ← tool.lint job.settings
  tool.read job.settings.dir output

end LintRun
