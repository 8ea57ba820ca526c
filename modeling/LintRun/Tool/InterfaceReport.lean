import LintRun.Finding
import LintRun.Format.Basic

/-!
# Reports on interface definitions

The report of `Tool.apiLinter` lists files, and for every file its problems with their positions.
All problems are errors, and paths are relative already.

## Main definitions

* `InterfaceReport.File` and `InterfaceReport.Problem` are the records of a report.
* `InterfaceReport.result` gathers the findings of a report.
-/

namespace LintRun.InterfaceReport

/-- One problem in a file. -/
structure Problem where
  /-- The text of the problem. -/
  text : String
  /-- The first line. -/
  firstLine : Nat
  /-- The last line. -/
  lastLine : Nat
  deriving DecidableEq, Repr

/-- The problems in one file. -/
structure File where
  /-- The path of the file. -/
  path : String
  /-- The problems in order. -/
  problems : List Problem
  deriving DecidableEq, Repr

section Reading

variable {V : Type} {m : Type → Type} [Refusing m] [Format V m]

/-- Reads the line of a position. -/
def readPosition (v : V) : m Nat := do
  match ← Format.fields ["line_number"] v with
  | [line] => Format.orElse 0 Format.count line
  | _ => Refusing.refuse

/-- Reads the first and the last line of a location. -/
def readLocation (v : V) : m (Nat × Nat) := do
  match ← Format.fields ["start_position", "end_position"] v with
  | [first, last] =>
    return (← Format.required readPosition first, ← Format.required readPosition last)
  | _ => Refusing.refuse

/-- Reads a problem. -/
def Problem.read (v : V) : m Problem := do
  match ← Format.fields ["message", "location"] v with
  | [text, location] =>
    let text ← Format.required Format.text text
    let (firstLine, lastLine) ← Format.required readLocation location
    return { text, firstLine, lastLine }
  | _ => Refusing.refuse

/-- Reads the problems in one file. -/
def File.read (v : V) : m File := do
  match ← Format.fields ["file_path", "problems"] v with
  | [path, problems] =>
    return {
      path := ← Format.required Format.text path
      problems := ← Format.orElse [] (Format.list Problem.read) problems }
  | _ => Refusing.refuse

/-- Reads a report. -/
def read (v : V) : m (List File) :=
  Format.list File.read v

end Reading

/-- The finding for a problem in the file `path`. -/
def Problem.finding (path : String) (problem : Problem) : Finding :=
  Finding.spanning path problem.firstLine problem.lastLine problem.text

/-- The findings for the problems in a file. -/
def File.findings (file : File) : List Finding :=
  file.problems.map (Problem.finding file.path)

/-- The result with the findings of a report. A tool that was content and found something was not
content after all. -/
def result (succeeded : Bool) (files : List File) : LintResult :=
  let error := files.flatMap File.findings
  { isSuccess := succeeded && error.isEmpty, error }

end LintRun.InterfaceReport
