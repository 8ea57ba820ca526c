import LintRun.Run.Basic
import LintRun.Dialogue.Schedule

/-!
# Running a list of tools

Tools that check and do not change files are run together. Those that check and change files
follow one by one, and then those that format, one by one too. A tool that fails does not stop the
others. The outcomes are listed in the order of the jobs, those that check in front.

## Main definitions

* `Outcome` is what came of one tool, and `Report` what came of all.
* `run` runs a list of tools.
-/

namespace LintRun

/-- How a tool did. -/
inductive Status where
  /-- The tool was content. -/
  | passed
  /-- The tool was not content. -/
  | failed
  /-- The tool gave no result. -/
  | error
  deriving DecidableEq, Repr

/-- The word for a status. -/
def Status.text : Status → String
  | passed => "passed"
  | failed => "failed"
  | error => "error"

/-- What came of one tool. -/
structure Outcome where
  /-- The entry of the tool. -/
  entry : Entry
  /-- The result, or why there is none. -/
  result : Except Failure LintResult

/-- How the tool did. -/
def Outcome.status (outcome : Outcome) : Status :=
  match outcome.result with
  | .ok result => if result.isSuccess then .passed else .failed
  | .error _ => .error

/-- What came of a list of tools. -/
structure Report where
  /-- The outcomes in order. -/
  outcomes : List Outcome

namespace Report

/-- Whether all tools were content. -/
def passed (report : Report) : Bool :=
  report.outcomes.all (·.status = .passed)

/-- Whether a tool gave no result. -/
def hasErrors (report : Report) : Bool :=
  report.outcomes.any (·.status = .error)

end Report

/-- Runs one tool. -/
def Job.outcome (verify : Bool) (job : Job) : Dialogue Outcome := do
  return { entry := job.entry, result := ← (job.execute verify).run }

/-- Runs one tool, and keeps its place. -/
def placedOutcome (verify : Bool) (job : Job × Nat) : Dialogue (Outcome × Nat) := do
  return (← job.1.outcome verify, job.2)

/-- Runs a list of tools. The schedule is for those that run together. -/
def run (schedule : List Nat) (verify : Bool) (jobs : List Job) : Dialogue Report := do
  let (checks, formats) := jobs.zipIdx.partition (·.1.entry.category = .check)
  let (alone, batch) := checks.partition (·.1.settings.fix)
  let reported ← Dialogue.together schedule (batch.map (placedOutcome verify))
  let fixed ← Dialogue.oneByOne (alone.map (placedOutcome verify))
  let checked := (reported ++ fixed).mergeSort fun a b => a.2 ≤ b.2
  let formatted ← Dialogue.oneByOne (formats.map fun job => job.1.outcome verify)
  return ⟨checked.map Prod.fst ++ formatted⟩

end LintRun
