import LintRun.Diff.Findings
import LintRun.Format.Document
import LintRun.ProblemLine
import LintRun.Tool.Basic
import LintRun.Tool.InterfaceReport
import LintRun.Tool.ScriptReport

/-!
# The output of tools

Every tool prints its findings in a form of its own: a document, a diff, problem lines or paths. The
form is read here into a `LintResult`, or into the failure of the tool if the text does not have the
form. The result depends on nothing but the directory and the output.

## Main definitions

* `Tool.result` reads the output of a tool.
-/

namespace LintRun.Tool

/-- The result of a run with the given findings, all of them errors. -/
def errors (isSuccess : Bool) (error : List Finding) : LintResult :=
  { isSuccess, error }

/-- The findings for a diff, or the failure of the tool that printed it. -/
def diffFindings (tool : Tool) (dir : Directory) (text : String) :
    Except Failure (List Finding) :=
  (Diff.findings dir text).mapError fun e => .parse tool.name e.message

/-- The findings on problem lines, or the failure of the tool that printed them. -/
def lineFindings (tool : Tool) (form : ProblemLine.Form) (dir : Directory) (text : String) :
    Except Failure (List Finding) :=
  (ProblemLine.findings form dir text).mapError (.parse tool.name)

/-- The message for a file that is not in shape. -/
def reshapeMessage : String :=
  "There are issues with this file's formatting, please run Prettier to fix the errors"

/-- The findings for a list of paths, one on a line. -/
def pathFindings (dir : Directory) (text : String) : List Finding :=
  (((Text.lines text).map Text.trim).filter (· ≠ "")).map fun path =>
    Finding.onLine (dir.relative path) 1 reshapeMessage

/-- Reads the output of a tool that ran in a directory. -/
def result (tool : Tool) (dir : Directory) (output : RawOutput) : Except Failure LintResult :=
  match tool with
  | apiLinter => do
    let files ← Document.orFailure tool.name
      (Document.yaml? InterfaceReport.read [] output.stdout)
    return InterfaceReport.result output.succeeded files
  | eslint => do
    let files ← Document.orFailure tool.name (Document.json? ScriptReport.read [] output.stdout)
    return ScriptReport.result dir output.succeeded files
  | flake8 => do
    return errors output.succeeded (← tool.lineFindings .coded dir output.stdout)
  | black =>
    if output.succeeded then return LintResult.empty
    else return errors false (← tool.diffFindings dir output.stdout)
  | gofmt => do
    let findings ← tool.diffFindings dir output.stdout
    return errors (output.succeeded && findings.isEmpty) findings
  | prettier =>
    if output.succeeded then return LintResult.empty
    else return errors false (pathFindings dir output.stdout)
  | swiftFormat => do
    return errors output.succeeded (← tool.lineFindings .levelled dir output.stderr)

end LintRun.Tool
