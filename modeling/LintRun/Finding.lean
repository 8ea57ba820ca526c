/-!
# Findings and results

Every tool reports problems in its own form. A `Finding` is one problem in the common form, a
`LintResult` holds the findings of one run of a tool by severity, and a `RawOutput` is what the
tool printed.

## Main definitions

* `Finding.spanning` and `Finding.onLine` build findings with lines in order.
* `LintResult.push` adds a finding under a severity.
-/

namespace LintRun

/-- How severe a finding is. -/
inductive Severity where
  | warning
  | error
  deriving DecidableEq, Repr

/-- The word for a severity. -/
def Severity.text : Severity → String
  | .warning => "warning"
  | .error => "error"

/-- One problem in one file. -/
structure Finding where
  /-- The file, relative to the directory that was linted. -/
  path : String
  /-- The first line of the problem. -/
  firstLine : Nat
  /-- The last line of the problem. -/
  lastLine : Nat
  /-- What is wrong. -/
  message : String
  deriving DecidableEq, Repr

namespace Finding

/-- A finding on the given lines. Lines count from one, and the last line is not before the
first. -/
def spanning (path : String) (first last : Nat) (message : String) : Finding :=
  ⟨path, max first 1, max last (max first 1), message⟩

/-- A finding on a single line. -/
def onLine (path : String) (line : Nat) (message : String) : Finding :=
  spanning path line line message

end Finding

/-- The result of one run of a tool. -/
structure LintResult where
  /-- Whether the tool was content. -/
  isSuccess : Bool := true
  /-- The findings of severity `Severity.warning`. -/
  warning : List Finding := []
  /-- The findings of severity `Severity.error`. -/
  error : List Finding := []
  deriving DecidableEq, Repr

namespace LintResult

/-- The result of a run that found nothing. -/
def empty : LintResult := {}

/-- Adds a finding behind those of its severity. -/
def push (result : LintResult) (severity : Severity) (finding : Finding) : LintResult :=
  match severity with
  | .warning => { result with warning := result.warning ++ [finding] }
  | .error => { result with error := result.error ++ [finding] }

/-- The number of findings of either severity. -/
def findingCount (result : LintResult) : Nat :=
  result.warning.length + result.error.length

/-- Whether there is a finding of severity `Severity.error`. -/
def hasErrors (result : LintResult) : Bool :=
  !result.error.isEmpty

end LintResult

/-- What a command left behind: its exit status and its two output streams. -/
structure RawOutput where
  /-- The exit status, `-1` if a signal ended the command. -/
  status : Int
  /-- The standard output. -/
  stdout : String
  /-- The standard error output. -/
  stderr : String
  deriving DecidableEq, Repr

namespace RawOutput

/-- The output of a command that did nothing. -/
def empty : RawOutput := ⟨0, "", ""⟩

/-- Whether the command ended with status zero. -/
def succeeded (output : RawOutput) : Bool :=
  output.status == 0

end RawOutput

end LintRun
