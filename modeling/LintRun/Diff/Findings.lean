import LintRun.Diff.Parser
import LintRun.Finding
import LintRun.Path

/-!
# Findings in a diff

A formatter in check mode prints the changes it would make. Every hunk is a finding on the old
lines that it would change, and its message is the body of the hunk.
-/

namespace LintRun.Diff

/-- The last old line of a hunk: the start and the count added up, less one, both within the
bounds of a count. -/
def Hunk.lastLine (hunk : Hunk) : Nat :=
  Count.sub (Count.add hunk.oldStart hunk.oldLines) 1

/-- The finding for a hunk of the file `path`. -/
def Hunk.finding (path : String) (hunk : Hunk) : Finding :=
  Finding.spanning path hunk.oldStart hunk.lastLine ("\n".intercalate hunk.lines)

/-- The findings for the hunks of a file. -/
def FileDiff.findings (dir : Directory) (file : FileDiff) : List Finding :=
  file.hunks.map (Hunk.finding (dir.relative file.path))

/-- The findings for a diff: one for every hunk, in order. -/
def findings (dir : Directory) (text : String) : Except Error (List Finding) :=
  return (← parse text).flatMap (FileDiff.findings dir)

end LintRun.Diff
