import LintRun.Text.Quoted

/-!
# Unified diffs

A unified diff lists the changes to a set of files. A file has hunks, and a hunk has the lines it
removes, adds and keeps. The numbers in the header of a hunk say where it starts and how many
lines it covers on the old and on the new side.
-/

namespace LintRun.Diff

/-- One block of changes. -/
structure Hunk where
  /-- The first line on the old side. -/
  oldStart : Nat
  /-- The number of lines on the old side. -/
  oldLines : Nat
  /-- The number of lines on the new side. -/
  newLines : Nat
  /-- The lines of the body with their marks. -/
  lines : List String
  deriving DecidableEq, Repr

/-- The changes to one file. -/
structure FileDiff where
  /-- The path of the file. If both sides were marked, it is without its mark. -/
  path : String
  /-- The hunks in order. -/
  hunks : List Hunk
  deriving DecidableEq, Repr

/-- Why a text is no diff. Lines count from one. -/
inductive Error where
  /-- A hunk header stands in front of every file header. -/
  | orphanHunk (line : Nat)
  /-- A line looks like a hunk header and is none. -/
  | malformedHeader (line : Nat) (text : String)
  deriving DecidableEq, Repr

/-- The wording of an error. -/
def Error.message : Error → String
  | .orphanHunk line => "line " ++ toString line ++ ": hunk before any file header"
  | .malformedHeader line text =>
    "line " ++ toString line ++ ": malformed hunk header " ++ Text.quoted text

end LintRun.Diff
