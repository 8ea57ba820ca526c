import LintRun.Diff.Header
import LintRun.Text.Line

/-!
# Reading diffs

A diff is read line by line. While the counts in the header of a hunk are not used up, every line
belongs to the body of the hunk, whatever it looks like. Outside of a hunk, headers open files and
hunks, remarks go to the last hunk, and all other lines are skipped.

## Main definitions

* `Progress` is what is known after some lines.
* `Progress.step` takes one line, `Progress.run` all of them.
* `parse` reads a text.

## Design notes

The files, the hunks of a file and the lines of a hunk are kept with the latest first while they
are read, so that the hunk that grows is at the front. `Progress.files` puts them in order.

A line of a body without a hunk is refused, although the counts of a hunk are never set without one.
-/

namespace LintRun.Diff

/-- What is known after some lines of a diff. -/
structure Progress where
  /-- The files so far, with the latest file, hunk and line first. -/
  reversed : List FileDiff := []
  /-- The path of the old side, if its header was read and no new side after it. -/
  oldPath? : Option String := none
  /-- The lines of the old side that the open hunk still lacks. -/
  oldLeft : Nat := 0
  /-- The lines of the new side that the open hunk still lacks. -/
  newLeft : Nat := 0
  deriving DecidableEq, Repr

namespace Progress

/-- Whether a hunk still lacks lines. -/
def isOpen (p : Progress) : Bool :=
  p.oldLeft > 0 || p.newLeft > 0

/-- Adds a line to the latest hunk, if the latest file has one. -/
def addLine? (line : String) : List FileDiff → Option (List FileDiff)
  | { path, hunks := hunk :: hunks } :: files =>
    some ({ path, hunks := { hunk with lines := line :: hunk.lines } :: hunks } :: files)
  | _ => none

/-- Adds a line to the latest hunk, and leaves files without one as they are. -/
def addLine (line : String) (files : List FileDiff) : List FileDiff :=
  (addLine? line files).getD files

/-- Takes the line `number`, which is in the body of the open hunk. A line with a minus counts for
the old side, one with a plus for the new side, a remark for none, and any other line for both. -/
def takeBody (p : Progress) (number : Nat) (line : String) : Except Error Progress :=
  match addLine? line p.reversed with
  | none => .error (.orphanHunk number)
  | some reversed =>
    match line.toList with
    | '-' :: _ => .ok { p with reversed, oldLeft := p.oldLeft - 1 }
    | '+' :: _ => .ok { p with reversed, newLeft := p.newLeft - 1 }
    | '\\' :: _ => .ok { p with reversed }
    | _ => .ok { p with reversed, oldLeft := p.oldLeft - 1, newLeft := p.newLeft - 1 }

/-- Opens the hunk that the line `number` is the header of. -/
def openHunk (p : Progress) (number : Nat) (line : String) : Except Error Progress :=
  match HunkRange.ofChars? line.toList with
  | none => .error (.malformedHeader number line)
  | some range =>
    match p.reversed with
    | [] => .error (.orphanHunk number)
    | file :: files =>
      match range.hunk? with
      | none => .error (.malformedHeader number line)
      | some hunk =>
        .ok { p with
          reversed := { file with hunks := hunk :: file.hunks } :: files
          oldLeft := hunk.oldLines
          newLeft := hunk.newLines }

/-- Takes a line outside of a hunk. -/
def takeOuter (p : Progress) (number : Nat) (line : String) : Except Error Progress :=
  match OuterLine.ofChars line.toList with
  | .remark => .ok { p with reversed := addLine line p.reversed }
  | .oldFile rest => .ok { p with oldPath? := some (headerPath rest) }
  | .newFile rest =>
    let file := { path := newPath p.oldPath? (headerPath rest), hunks := [] }
    .ok { p with reversed := file :: p.reversed, oldPath? := none }
  | .hunk => p.openHunk number line
  | .chatter => .ok p

/-- Takes the line `number`. -/
def step (p : Progress) (number : Nat) (line : String) : Except Error Progress :=
  if p.isOpen then p.takeBody number line else p.takeOuter number line

/-- Takes all lines, the first of them with the given number. -/
def run (p : Progress) (number : Nat) : List String → Except Error Progress
  | [] => .ok p
  | line :: rest => do (← p.step number line).run (number + 1) rest

/-- A hunk with its lines in order. -/
def hunkInOrder (hunk : Hunk) : Hunk :=
  { hunk with lines := hunk.lines.reverse }

/-- A file with its hunks and their lines in order. -/
def fileInOrder (file : FileDiff) : FileDiff :=
  { file with hunks := (file.hunks.map hunkInOrder).reverse }

/-- The files in order. -/
def files (p : Progress) : List FileDiff :=
  (p.reversed.map fileInOrder).reverse

end Progress

/-- Reads a diff. -/
def parse (text : String) : Except Error (List FileDiff) :=
  return (← Progress.run {} 1 (Text.lines text)).files

end LintRun.Diff
