import LintRun.Proofs.Tool.Reports
import LintRun.Proofs.Tool.Trim

/-!
# Blank output

A tool that has nothing to say may still print line breaks and other blanks. There is nothing to
read in them, in whatever form the tool prints its findings otherwise: a document of blanks stands
for an empty report, blank lines are chatter in a diff and no problems, and a trimmed blank line is
no path. What the tool prints elsewhere does not matter.

## Main statements

* `Diff.Progress.run_of_allBlank`: blank lines do not change what is known of a diff.
* `Tool.result_of_allBlank`: what is read from a blank output.
-/

namespace LintRun

open Text (AllBlank)

theorem Text.allBlank_of_mem_lines {s line : String} (h : AllBlank s.toList)
    (hline : line ∈ lines s) : AllBlank line.toList := by
  obtain ⟨chars, hchars, rfl⟩ := List.mem_map.1 hline
  rw [String.toList_ofList]
  exact fun c hc => h c (mem_of_mem_splitLines hchars hc)

theorem Text.isBlankText_of_allBlank {s : String} (h : AllBlank s.toList) : isBlankText s = true :=
  List.all_eq_true.2 h

/-! ## Forms of output -/

/-- As long as no hunk is open, blank lines are chatter. -/
theorem Diff.Progress.run_of_allBlank {p : Progress} (hclosed : p.isOpen = false) (number : Nat)
    {lines : List String} (hlines : ∀ line ∈ lines, AllBlank line.toList) :
    p.run number lines = .ok p := by
  induction lines generalizing number with
  | nil => rfl
  | cons line rest ih =>
    obtain ⟨hline, hrest⟩ := List.forall_mem_cons.1 hlines
    have hstep : p.step number line = .ok p := by
      rw [step, hclosed, if_neg Bool.false_ne_true, takeOuter, OuterLine.ofChars_of_allBlank hline]
    rw [run, hstep]
    exact ih (number + 1) hrest

section Forms

variable {text : String} (hblank : AllBlank text.toList) (dir : Directory)

include hblank

theorem Document.json?_of_allBlank {α : Type} (read : Json → Option α) (default : α) :
    json? read default text = some default :=
  if_pos (Text.isBlankText_of_allBlank hblank)

theorem Document.yaml?_of_allBlank {α : Type} (read : Yaml.Node → Yaml.Resolving α) (default : α) :
    yaml? read default text = some default :=
  if_pos (Text.isBlankText_of_allBlank hblank)

theorem Diff.findings_of_allBlank : findings dir text = .ok [] := by
  have hrun : Progress.run {} 1 (Text.lines text) = .ok {} :=
    Progress.run_of_allBlank rfl 1 fun _ => Text.allBlank_of_mem_lines hblank
  rw [findings, parse, hrun]
  rfl

theorem ProblemLine.findings_of_allBlank (form : Form) : findings form dir text = .ok [] :=
  ofLines_of_allBlank fun _ => Text.allBlank_of_mem_lines hblank

theorem Tool.pathFindings_of_allBlank : pathFindings dir text = [] := by
  rw [pathFindings, List.map_eq_nil_iff, List.filter_eq_nil_iff, List.forall_mem_map]
  intro line hline
  have hline := Text.allBlank_of_mem_lines hblank hline
  rw [Text.trim_of_isBlankText (Text.isBlankText_of_allBlank hline)]
  decide

end Forms

/-! ## Outputs -/

namespace Tool

/-- From a blank output no findings are read, and the tool is content exactly if its status is
zero. -/
theorem result_of_allBlank (tool : Tool) (dir : Directory) {output : RawOutput}
    (hblank : AllBlank (tool.stream output).toList) :
    tool.result dir output =
      .ok { isSuccess := output.status == 0, warning := [], error := [] } := by
  cases tool with
  | apiLinter =>
    rw [result_apiLinter_eq_ok_iff]
    refine ⟨[], Document.yaml?_of_allBlank hblank _ _, ?_⟩
    rw [← RawOutput.succeeded]
    cases output.succeeded <;> rfl
  | eslint =>
    rw [result_eslint_eq_ok_iff]
    exact ⟨[], Document.json?_of_allBlank hblank _ _, rfl⟩
  | flake8 =>
    have hstdout : AllBlank output.stdout.toList := hblank
    rw [result, lineFindings, ProblemLine.findings_of_allBlank hstdout]
    rfl
  | swiftFormat =>
    have hstderr : AllBlank output.stderr.toList := hblank
    rw [result, lineFindings, ProblemLine.findings_of_allBlank hstderr]
    rfl
  | gofmt =>
    have hstdout : AllBlank output.stdout.toList := hblank
    rw [result, diffFindings, Diff.findings_of_allBlank hstdout, ← RawOutput.succeeded]
    cases output.succeeded <;> rfl
  | black =>
    have hstdout : AllBlank output.stdout.toList := hblank
    rw [result, diffFindings, Diff.findings_of_allBlank hstdout, ← RawOutput.succeeded]
    cases output.succeeded <;> rfl
  | prettier =>
    have hstdout : AllBlank output.stdout.toList := hblank
    rw [result, pathFindings_of_allBlank hstdout, ← RawOutput.succeeded]
    cases output.succeeded <;> rfl

/-- Line breaks, and spaces and separators beyond ASCII, do not count as output, and neither does
what is printed where the tool prints no findings. -/
theorem result_of_allBlank_separators :
    let dir : Directory := ⟨⟨"/repo"⟩, some ⟨"/repo"⟩⟩
    let spaces := "\u0085\u00a0\r\n \u2028\t\u3000\n"
    gofmt.result dir ⟨0, spaces, "go: downloading"⟩ = .ok ⟨true, [], []⟩ ∧
      swiftFormat.result dir ⟨1, "Running", spaces⟩ = .ok ⟨false, [], []⟩ := by
  intro dir spaces
  have hspaces : AllBlank spaces.toList := List.all_eq_true.1 (by decide)
  exact ⟨result_of_allBlank gofmt dir hspaces, result_of_allBlank swiftFormat dir hspaces⟩

end Tool

end LintRun
