import LintRun.Path
import LintRun.Registry
import LintRun.Tool.Command

/-!
# Jobs

A `Job` is one tool with all that has to be known to run it.
-/

namespace LintRun

/-- How a tool is to be run. -/
structure JobSettings extends Tool.CommandSettings where
  /-- The directory to run it in. -/
  dir : Path

/-- A tool with its settings. -/
structure Job where
  /-- The entry of the tool. -/
  entry : Entry
  /-- How it is to be run. -/
  settings : JobSettings

/-- The settings for a tool that nothing was said about. -/
def JobSettings.default (tool : Tool) (dir : Path) : JobSettings :=
  { extensions := tool.defaultExtensions, arguments := "", fix := false, commandPrefix := "", dir }

end LintRun
