/-!
# Failures

A run of a tool that gives no result ends in a `Failure`. The constructors are the causes, `kind`
is the short name of a cause in reports, and `message` its wording.
-/

namespace LintRun

/-- Why a tool gave no result. -/
inductive Failure where
  /-- The tool is missing or does not answer. -/
  | setup (tool reason : String)
  /-- A command that had to succeed ended with another status than zero. -/
  | process (command : String) (status : Int) (stderr : String)
  /-- A command could not be started. -/
  | spawn (command reason : String)
  /-- The files to lint could not be found out. -/
  | discovery (dir reason : String)
  /-- The output of the tool is not in the form it should have. -/
  | parse (tool reason : String)
  deriving DecidableEq, Repr

namespace Failure

/-- The short name of the cause. A command that failed and one that did not start share it. -/
def kind : Failure → String
  | setup .. => "setup"
  | process .. => "process"
  | spawn .. => "process"
  | discovery .. => "discovery"
  | parse .. => "parse"

/-- The wording of the failure. -/
def message : Failure → String
  | setup tool reason => tool ++ " is not installed: " ++ reason
  | process command status stderr =>
    "command `" ++ command ++ "` failed with status " ++ toString status ++ ": " ++ stderr
  | spawn command reason => "failed to spawn `" ++ command ++ "`: " ++ reason
  | discovery dir reason => "could not discover files in " ++ dir ++ ": " ++ reason
  | parse tool reason => "could not parse " ++ tool ++ " output: " ++ reason

end Failure

end LintRun
