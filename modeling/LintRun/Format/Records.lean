import LintRun.Finding
import LintRun.Format.Basic

/-!
# Findings and results in documents

Findings, results and raw outputs as records. No field of these has a default.
-/

namespace LintRun

variable {V : Type} {m : Type → Type} [Refusing m] [Format V m]

/-- Reads a finding. -/
def Finding.read (v : V) : m Finding := do
  match ← Format.fields ["path", "firstLine", "lastLine", "message"] v with
  | [path, firstLine, lastLine, message] =>
    return {
      path := ← Format.required Format.text path
      firstLine := ← Format.required Format.count firstLine
      lastLine := ← Format.required Format.count lastLine
      message := ← Format.required Format.text message }
  | _ => Refusing.refuse

/-- Reads a result. -/
def LintResult.read (v : V) : m LintResult := do
  match ← Format.fields ["isSuccess", "warning", "error"] v with
  | [isSuccess, warning, error] =>
    return {
      isSuccess := ← Format.required Format.flag isSuccess
      warning := ← Format.required (Format.list Finding.read) warning
      error := ← Format.required (Format.list Finding.read) error }
  | _ => Refusing.refuse

/-- The smallest exit status. -/
def minStatus : Int := -2147483648

/-- The largest exit status. -/
def maxStatus : Int := 2147483647

/-- Reads a raw output. -/
def RawOutput.read (v : V) : m RawOutput := do
  match ← Format.fields ["status", "stdout", "stderr"] v with
  | [status, stdout, stderr] =>
    return {
      status := ← Format.required (Format.integer minStatus maxStatus) status
      stdout := ← Format.required Format.text stdout
      stderr := ← Format.required Format.text stderr }
  | _ => Refusing.refuse

end LintRun
