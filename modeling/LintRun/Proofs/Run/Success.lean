import LintRun.Proofs.Run.Protocol
import LintRun.Proofs.Tool.Result

/-!
# Runs that pass

Every result in a report was read from some output of its tool. So what holds of all results of a
tool holds of the results in reports. In particular, a tool that does not tolerate errors has none
in a report that passed.

## Main statements

* `exists_output_of_mem_outcomes`: the results in a report are read from outputs.
* `Tool.isSuccess_iff_and_error_of_passed`: when a tool is content, alone and in a run.
-/

namespace LintRun

/-- Behind the check of its tool, a job goes on as it does without one. -/
theorem Job.execute_true (job : Job) : job.execute true =
    (job.entry.tool.verify job.settings.dir job.settings.commandPrefix >>= fun _ =>
      job.execute false) := rfl

theorem Job.exists_output_of_endsWith {verify : Bool} {job : Job} {log : List Exchange}
    {result : LintResult} (h : (job.execute verify).EndsWith log (.ok result)) :
    ∃ dir output, job.entry.tool.result dir output = .ok result := by
  have hunchecked : ∃ rest, (job.execute false).EndsWith rest (.ok result) := by
    cases verify with
    | false => exact ⟨log, h⟩
    | true =>
      rw [execute_true] at h
      rcases h.of_bind with ⟨_, -, hfailure⟩ | ⟨_, _, rest, -, -, hrest⟩
      · cases hfailure
      · exact ⟨rest, hrest⟩
  obtain ⟨rest, hrest⟩ := hunchecked
  have hlints : Attempt.EndsWith (job.entry.tool.lint job.settings >>= fun output =>
      job.entry.tool.read job.settings.dir output) rest (.ok result) := hrest
  rcases hlints.of_bind with ⟨_, -, hfailure⟩ | ⟨_, output, _, -, -, hread⟩
  · cases hfailure
  · obtain ⟨canonical?, -, hresult⟩ := reads_of_endsWith hread
    exact ⟨_, output, hresult.symm⟩

section Run

variable {σ : Type} {world : World σ} {schedule : List Nat} {verify : Bool} {jobs : List Job}
  {s : σ} {outcome : Outcome} {result : LintResult}

/-- A result in a report was read from an output of its tool. -/
theorem exists_output_of_mem_outcomes
    (hmem : outcome ∈ ((run schedule verify jobs).run world s).value.outcomes)
    (hresult : outcome.result = .ok result) :
    ∃ dir output, outcome.entry.tool.result dir output = .ok result := by
  obtain ⟨log, -, -, hrun⟩ := exists_log_in_world world schedule verify jobs s
  obtain ⟨job, hends⟩ := exists_of_mem_forall₂ hrun.endsWith.flip hmem
  obtain ⟨hentry, hexecute⟩ := Job.execute_of_outcome hends
  rw [hresult] at hexecute
  rw [hentry]
  exact Job.exists_output_of_endsWith hexecute

end Run

theorem Outcome.exists_isSuccess_of_passed {outcome : Outcome} (h : outcome.status = .passed) :
    ∃ result, outcome.result = .ok result ∧ result.isSuccess := by
  unfold status at h
  split at h
  · next result hresult =>
    refine ⟨result, hresult, ?_⟩
    by_contra hcontent
    rw [if_neg hcontent] at h
    cases h
  · cases h

/-- A tool is content exactly if its status is zero and its output has no errors, but errors do not
count for the tools that tolerate them. In a run that passed, every tool is content, and those that
do not tolerate errors have none. -/
theorem Tool.isSuccess_iff_and_error_of_passed (tool : Tool) :
    (∀ (dir : Directory) (output : RawOutput) (result : LintResult),
      tool.result dir output = .ok result →
        (result.isSuccess ↔ output.status = 0 ∧ (result.error = [] ∨ tool.toleratesErrors))) ∧
    ∀ {σ : Type} (world : World σ) (schedule : List Nat) (verify : Bool) (jobs : List Job) (s : σ),
      let report := ((run schedule verify jobs).run world s).value
      report.passed → ∀ outcome ∈ report.outcomes, outcome.entry.tool = tool →
        ∃ result, outcome.result = .ok result ∧ result.isSuccess ∧
          (tool.toleratesErrors = false → result.error = []) := by
  refine ⟨fun _ _ _ h => isSuccess_iff h, ?_⟩
  rintro σ world schedule verify jobs s report hpassed outcome hmem rfl
  have hstatus : outcome.status = .passed := by
    simpa using List.all_eq_true.1 hpassed outcome hmem
  obtain ⟨result, hresult, hcontent⟩ := outcome.exists_isSuccess_of_passed hstatus
  refine ⟨result, hresult, hcontent, fun htolerates => ?_⟩
  obtain ⟨dir, output, hread⟩ := exists_output_of_mem_outcomes hmem hresult
  exact ((isSuccess_iff hread).1 hcontent).2.resolve_right (by simp [htolerates])

/-- A diff is an error whatever the status is, and a run without one passes. -/
theorem Tool.isSuccess_and_passed_gofmt :
    let dir : Directory := ⟨⟨"."⟩, none⟩
    let output : RawOutput := ⟨0, "--- x.go\n+++ x.go\n@@ -1 +1 @@\n-a\n+b", ""⟩
    let result : LintResult := { isSuccess := false, error := [⟨"x.go", 1, 1, "-a\n+b"⟩] }
    let world : World Unit :=
      { lookUp := fun _ => pure true
        call := fun _ => pure (.ok .empty)
        listFiles := fun _ => pure (.ok [])
        canonical := fun _ => pure none }
    let entry : Entry := ⟨"gofmt", .format, .gofmt, none⟩
    let report := ((run [] true [⟨entry, JobSettings.default .gofmt ⟨"."⟩⟩]).run world ()).value
    gofmt.result dir output = .ok result ∧
      (result.isSuccess ↔ output.status = 0 ∧ (result.error = [] ∨ gofmt.toleratesErrors)) ∧
      report.passed ∧ ∀ outcome ∈ report.outcomes, outcome.entry.tool = gofmt →
        ∃ result, outcome.result = .ok result ∧ result.error = [] := by
  intro dir output result world entry report
  have hread : gofmt.result dir output = .ok result := by decide +kernel
  have hpassed : report.passed := by decide +kernel
  obtain ⟨hsuccess, hrun⟩ := isSuccess_iff_and_error_of_passed gofmt
  refine ⟨hread, hsuccess _ _ _ hread, hpassed, fun outcome hmem htool => ?_⟩
  obtain ⟨result, hresult, -, herror⟩ := hrun world [] true _ () hpassed outcome hmem htool
  exact ⟨result, hresult, herror rfl⟩

/-- All tools that tolerate errors may be content with some, and a run may pass with them. -/
theorem Tool.isSuccess_with_errors :
    let dir : Directory := ⟨⟨"."⟩, none⟩
    let document := "[\x7b\"filePath\":\"a.js\",\"messages\":" ++
      "[\x7b\"message\":\"m\",\"severity\":2\x7d]\x7d]"
    let line : RawOutput := ⟨0, "a.py:1:1: E501 line too long", ""⟩
    let world : World Unit :=
      { lookUp := fun _ => pure true
        call := fun _ => pure (.ok line)
        listFiles := fun _ => pure (.ok [])
        canonical := fun _ => pure none }
    let entry : Entry := ⟨"flake8", .check, .flake8, none⟩
    let report := ((run [] false [⟨entry, JobSettings.default .flake8 ⟨"."⟩⟩]).run world ()).value
    let result : LintResult := { error := [⟨"a.py", 1, 1, "line too long (E501)"⟩] }
    ¬ (result.isSuccess ↔ line.status = 0 ∧ result.error = []) ∧
      flake8.result dir line = .ok result ∧
      eslint.result dir ⟨0, document, ""⟩ = .ok { error := [⟨"a.js", 1, 1, "m"⟩] } ∧
      swiftFormat.result dir ⟨0, "", "a.swift:1:1: error: m"⟩ =
        .ok { error := [⟨"a.swift", 1, 1, "m"⟩] } ∧
      report.passed ∧ report.outcomes.map Outcome.result = [.ok result] := by
  intro dir document line world entry report result
  refine ⟨by decide, ?_, ?_, ?_, ?_, ?_⟩
  all_goals decide +kernel

end LintRun
