import LintRun.Report.Json
import LintRun.Text.Style

/-!
# Reports for people

A report lists every tool with a mark for its status, and below it the findings, errors in front of
warnings. A summary follows.

## Main definitions

* `Report.pretty` is the text of a report.
-/

namespace LintRun

open Text (Style)

/-- Where a finding is: its path and its lines. -/
def Finding.location (finding : Finding) : String :=
  let lines :=
    if finding.firstLine = finding.lastLine then toString finding.firstLine
    else toString finding.firstLine ++ "-" ++ toString finding.lastLine
  finding.path ++ ":" ++ lines

/-- The first line of the message of a finding. -/
def Finding.summary (finding : Finding) : String :=
  (Text.lines finding.message).headD ""

/-- The style for a severity. -/
def Severity.style : Severity → Style
  | .error => Text.red
  | .warning => Text.yellow

/-- The line for a finding. -/
def Finding.line (shown : Bool) (severity : Severity) (finding : Finding) : String :=
  "      " ++ Text.dimmed.paint shown finding.location ++ " " ++
    severity.style.paint shown severity.text ++ " " ++ finding.summary ++ "\n"

/-- The mark for a status. -/
def Status.mark (shown : Bool) : Status → String
  | .passed => Text.green.paint shown "✓"
  | .failed => Text.red.paint shown "✗"
  | .error => Text.boldRed.paint shown "!"

namespace Outcome

/-- The name of a tool with its category. -/
def label (outcome : Outcome) : String :=
  outcome.entry.tool.name ++ " (" ++ outcome.entry.category.text ++ ")"

/-- The number of findings behind the name of a tool, if there are any. -/
def tally (shown : Bool) (outcome : Outcome) : String :=
  match outcome.result with
  | .ok result =>
    if result.findingCount > 0 then
      " " ++ Text.dimmed.paint shown (toString result.findingCount ++ " finding(s)")
    else ""
  | .error _ => ""

/-- The lines below the name of a tool. -/
def details (shown : Bool) (outcome : Outcome) : String :=
  match outcome.result with
  | .ok result =>
    String.join (result.error.map (Finding.line shown .error)) ++
      String.join (result.warning.map (Finding.line shown .warning))
  | .error failure => "      " ++ Text.red.paint shown failure.message ++ "\n"

/-- The lines for an outcome. -/
def pretty (shown : Bool) (outcome : Outcome) : String :=
  "  " ++ outcome.status.mark shown ++ " " ++ outcome.label ++ outcome.tally shown ++ "\n" ++
    outcome.details shown ++ "\n"

end Outcome

namespace Report

/-- The lines in front of the outcomes. -/
def header (shown : Bool) (path : String) : String :=
  "\n  " ++ Text.title.paint shown "lintbridge" ++ " v" ++ version ++ "\n\n  " ++
    Text.dimmed.paint shown "Linting: " ++ path ++ "\n\n"

/-- The number of tools that were content. -/
def passedCount (report : Report) : Nat :=
  (report.outcomes.filter (·.status = .passed)).length

/-- The line behind the outcomes. -/
def footer (shown : Bool) (report : Report) : String :=
  let word :=
    if report.passed then Text.boldGreen.paint shown "✓ PASS"
    else Text.boldRed.paint shown "✗ FAIL"
  "  " ++ word ++ " " ++ toString report.passedCount ++ "/" ++
    toString report.outcomes.length ++ " adapters passed\n"

/-- The text of a report on a path, with or without styles. -/
def pretty (report : Report) (shown : Bool) (path : String) : String :=
  if report.outcomes.isEmpty then
    header shown path ++ "  " ++ Text.yellow.paint shown "No adapters selected" ++ "\n\n"
  else
    header shown path ++ String.join (report.outcomes.map (Outcome.pretty shown)) ++
      report.footer shown ++ "\n"

end Report

end LintRun
