import LintRun.Proofs.Except
import LintRun.Tool.Output

/-!
# When tools are content

A tool is content if its status is zero and its output has no errors. Some tools are content with
errors, too, as long as the status is zero.

## Main definitions

* `Tool.toleratesErrors` says which tools these are.

## Main statements

* `Tool.isSuccess_of_result`: when a tool is content.
-/

namespace LintRun.Tool

variable {tool : Tool} {dir : Directory} {output : RawOutput} {result : LintResult}

/-- Whether a tool is content with errors in its output if its status is zero. -/
def toleratesErrors : Tool → Bool
  | eslint => true
  | flake8 => true
  | swiftFormat => true
  | _ => false

theorem isSuccess_of_result (h : tool.result dir output = .ok result) :
    result.isSuccess = (output.succeeded && (result.error.isEmpty || tool.toleratesErrors)) := by
  cases tool with
  | apiLinter | eslint | flake8 | gofmt | swiftFormat =>
    obtain ⟨_, -, hresult⟩ := bind_eq_ok_iff.1 h
    cases hresult
    simp [InterfaceReport.result, ScriptReport.result, errors, toleratesErrors]
  | black =>
    -- The output is not read if the status is zero, so that there are no errors to tolerate.
    rw [Tool.result] at h
    by_cases hsucceeded : output.succeeded
    · rw [if_pos hsucceeded] at h
      cases h
      rw [hsucceeded]
      rfl
    · rw [if_neg hsucceeded] at h
      obtain ⟨_, -, hresult⟩ := bind_eq_ok_iff.1 h
      cases hresult
      simp [hsucceeded, errors]
  | prettier =>
    rw [Tool.result] at h
    by_cases hsucceeded : output.succeeded
    · rw [if_pos hsucceeded] at h
      cases h
      rw [hsucceeded]
      rfl
    · rw [if_neg hsucceeded] at h
      cases h
      simp [hsucceeded, errors]

theorem isSuccess_iff (h : tool.result dir output = .ok result) :
    result.isSuccess ↔ output.status = 0 ∧ (result.error = [] ∨ tool.toleratesErrors) := by
  rw [isSuccess_of_result h]
  simp [RawOutput.succeeded]

end LintRun.Tool
