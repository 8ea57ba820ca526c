import LintRun.Json.Printer
import LintRun.Run.Report

/-!
# Reports as JSON

A report is one object. Every outcome in it has the number of its findings and its result, or else
its failure.
-/

namespace LintRun

/-- The version that reports name. -/
def version : String := "0.1.0"

/-- A finding as a JSON value. -/
def Finding.toJson (finding : Finding) : Json :=
  .object [
    ("path", .string finding.path),
    ("firstLine", .int finding.firstLine),
    ("lastLine", .int finding.lastLine),
    ("message", .string finding.message)]

/-- A list of findings as a JSON value. -/
def Finding.listToJson (findings : List Finding) : Json :=
  .array (findings.map Finding.toJson)

/-- A result as a JSON value. -/
def LintResult.toJson (result : LintResult) : Json :=
  .object [
    ("isSuccess", .bool result.isSuccess),
    ("warning", Finding.listToJson result.warning),
    ("error", Finding.listToJson result.error)]

/-- A failure as a JSON value. -/
def Failure.toJson (failure : Failure) : Json :=
  .object [("kind", .string failure.kind), ("message", .string failure.message)]

/-- The members for the result of an outcome, or for its failure. -/
def Outcome.resultMembers (outcome : Outcome) : List (String × Json) :=
  match outcome.result with
  | .ok result => [("findings", .int result.findingCount), ("result", result.toJson)]
  | .error failure => [("error", failure.toJson)]

/-- An outcome as a JSON value. -/
def Outcome.toJson (outcome : Outcome) : Json :=
  .object ([
    ("id", .string outcome.entry.id),
    ("name", .string outcome.entry.tool.name),
    ("category", .string outcome.entry.category.text),
    ("status", .string outcome.status.text)] ++ outcome.resultMembers)

namespace Report

/-- A report on a path as a JSON value. -/
def toJson (report : Report) (path : String) : Json :=
  .object [
    ("version", .string version),
    ("path", .string path),
    ("passed", .bool report.passed),
    ("adapters", .array (report.outcomes.map Outcome.toJson))]

/-- The text of a report on a path as JSON. -/
def json (report : Report) (path : String) : String :=
  (report.toJson path).render 0 ++ "\n"

end Report

end LintRun
