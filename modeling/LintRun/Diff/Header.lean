import LintRun.Count
import LintRun.Diff.Basic
import LintRun.Text.Blank
import LintRun.Text.Decimal
import LintRun.Text.Split

/-!
# Headers in a diff

Outside of a hunk a line is told apart by its first characters (`OuterLine`). A file header gives
a path, which ends at the first tab because some tools write a time behind it. A hunk header gives
two ranges.

## Main definitions

* `OuterLine.ofChars` classifies a line outside of a hunk.
* `headerPath` is the path in a file header and `newPath` the path of a file with two headers.
* `HunkRange.ofChars?` reads the form of a hunk header, `HunkRange.hunk?` its numbers.

## Design notes

The form of a hunk header admits the decimal digits of every script, its numbers are ASCII and
bounded. A line can therefore have the form of a header and still be refused.
-/

namespace LintRun.Diff

/-- What a line outside of a hunk is. -/
inductive OuterLine where
  /-- A remark on the hunk before it, such as a missing newline. -/
  | remark
  /-- The header for the old side of a file, without its mark. -/
  | oldFile (rest : List Char)
  /-- The header for the new side of a file, without its mark. -/
  | newFile (rest : List Char)
  /-- A line that has to be a hunk header. -/
  | hunk
  /-- Any other line. -/
  | chatter
  deriving DecidableEq, Repr

/-- Classifies a line outside of a hunk. -/
def OuterLine.ofChars : List Char → OuterLine
  | '\\' :: _ => .remark
  | '-' :: '-' :: '-' :: ' ' :: rest => .oldFile rest
  | '+' :: '+' :: '+' :: ' ' :: rest => .newFile rest
  | '@' :: '@' :: _ => .hunk
  | _ => .chatter

/-- The path in a file header: the text up to the first tab, without blanks at its ends. -/
def headerPath (rest : List Char) : String :=
  String.ofList (Text.strip (rest.takeWhile (· ≠ '\t')))

/-- The path that stands for a missing side. -/
def nullPath : String := "/dev/null"

/-- The path of a file whose new side is named `new`, if `old?` names its old side. A removed file
has the old path. The mark `b/` for the new side goes if the old side has the mark `a/`. -/
def newPath (old? : Option String) (new : String) : String :=
  let path := if new = nullPath then old?.getD "" else new
  match old?.map String.toList, path.toList with
  | some ('a' :: '/' :: _), 'b' :: '/' :: rest => String.ofList rest
  | _, _ => path

/-- The digits in a hunk header. A count that is left out is one. -/
structure HunkRange where
  /-- The first old line. -/
  oldStart : List Char
  /-- The number of old lines. -/
  oldCount? : Option (List Char)
  /-- The first new line. -/
  newStart : List Char
  /-- The number of new lines. -/
  newCount? : Option (List Char)
  deriving DecidableEq, Repr

/-- A start with an optional count behind a comma at the front, and the rest. -/
def range? (s : List Char) : Option ((List Char × Option (List Char)) × List Char) := do
  let (start, rest) ← Text.digits? s
  match rest with
  | ',' :: more =>
    let (count, rest) ← Text.digits? more
    return ((start, some count), rest)
  | _ => return ((start, none), rest)

/-- Reads the form of a hunk header: two ranges between the marks. Any text may follow. -/
def HunkRange.ofChars? : List Char → Option HunkRange
  | '@' :: '@' :: ' ' :: '-' :: s => do
    let ((oldStart, oldCount?), s) ← range? s
    let ' ' :: '+' :: s := s | none
    let ((newStart, newCount?), s) ← range? s
    let ' ' :: '@' :: '@' :: _ := s | none
    return { oldStart, oldCount?, newStart, newCount? }
  | _ => none

/-- Reads a count that may be left out. -/
def readCount (digits? : Option (List Char)) : Option Nat :=
  match digits? with
  | none => some 1
  | some digits => (Count.read digits).toOption

/-- The hunk with an empty body that a header opens. The start on the new side is not read. -/
def HunkRange.hunk? (range : HunkRange) : Option Hunk := do
  let oldStart ← (Count.read range.oldStart).toOption
  let oldLines ← readCount range.oldCount?
  let newLines ← readCount range.newCount?
  return { oldStart, oldLines, newLines, lines := [] }

end LintRun.Diff
