import LintRun.Failure
import LintRun.Finding
import LintRun.Path

/-!
# Notices

While a tool is run, an observer is told what happens.
-/

namespace LintRun

/-- What an observer is told. The tool is named by its name for people. -/
inductive Notice where
  /-- The tool is missing or does not work. -/
  | setupFailed (tool : String) (failure : Failure)
  /-- The files to lint in a directory were found out. -/
  | filesDiscovered (tool : String) (dir : Path) (files : List String)
  /-- There are no files to lint in a directory. -/
  | noFilesMatched (tool : String) (dir : Path)
  /-- A command is about to run. -/
  | commandBuilt (tool command : String)
  /-- A command came to its end. -/
  | rawOutput (tool : String) (output : RawOutput)
  deriving DecidableEq, Repr

end LintRun
