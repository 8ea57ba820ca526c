import LintRun.Proofs.Diff.Span
import LintRun.Proofs.Format
import LintRun.Proofs.Tool.Reports
import LintRun.Proofs.Tool.Result

/-!
# Findings with normal lines

Tools print line numbers as they like: zero for a file as a whole, the end in front of the start, or
numbers up to the largest one. The lines of a finding are counted from one, they are in order and
within the bound, whatever was printed. This holds for every kind of output, so that nothing that
works on results has to check it again.

## Main definitions

* `Finding.IsNormal` holds of findings with such lines.

## Main statements

* `Finding.IsAbout.isNormal`: the finding that is made for two counts is normal.
* `ScriptReport.File.hasCounts_of_canReturn_read` and
  `InterfaceReport.File.hasCounts_of_canReturn_read`: the numbers in a report are counts.
* `Tool.result_normal`: what is read from an output is normal.
-/

namespace LintRun

open MonadAttach (CanReturn)
open LawfulMonadAttach (canReturn_bind_imp' eq_of_canReturn_pure)

/-! ## Findings -/

/-- The lines of a finding are line numbers in order, and within the bound. -/
structure Finding.IsNormal (finding : Finding) : Prop where
  one_le_firstLine : 1 ≤ finding.firstLine
  firstLine_le_lastLine : finding.firstLine ≤ finding.lastLine
  lastLine_le : finding.lastLine ≤ Count.max

theorem Finding.IsAbout.isNormal {finding : Finding} {path message : String} {first last : Nat}
    (h : finding.IsAbout path first last message) (hfirst : first ≤ Count.max)
    (hlast : last ≤ Count.max) : finding.IsNormal := by
  obtain ⟨-, hfirstLine, hlastLine, -⟩ := h
  refine ⟨?_, ?_, ?_⟩
  · rw [hfirstLine]
    exact Nat.le_max_left 1 first
  · rw [hlastLine]
    exact Nat.le_max_left _ last
  · have hone : 1 ≤ Count.max := by decide
    rw [hlastLine, hfirstLine]
    exact Nat.max_le.2 ⟨Nat.max_le.2 ⟨hone, hfirst⟩, hlast⟩

/-- All findings of a result are normal. -/
def LintResult.IsNormal (result : LintResult) : Prop :=
  ∀ finding ∈ result.warning ++ result.error, finding.IsNormal

/-! ## Diffs and problem lines -/

/-- The lines of a hunk were read, or added up within the bound. -/
theorem Diff.isNormal_of_findings {dir : Directory} {text : String} {found : List Finding}
    (h : findings dir text = .ok found) : ∀ finding ∈ found, finding.IsNormal := by
  obtain ⟨files, hfiles, rfl⟩ := findings_eq_ok_iff.1 h
  rw [flatMap_findings_eq_map, List.forall_mem_map]
  intro placed hplaced
  obtain ⟨header, -, hheader⟩ :=
    haveHeaders_of_parse hfiles placed.2 (mem_hunksOf_of_mem_placedHunks hplaced)
  have hlast : placed.2.lastLine ≤ Count.max :=
    (Nat.sub_le _ 1).trans (Nat.min_le_right _ Count.max)
  exact (Finding.isAbout_spanning _ _ _ _).isNormal hheader.isCounted.oldStart_le hlast

namespace ProblemLine

variable {form : Form} {dir : Directory} {lines : List String} {found : List Finding}

theorem isNormal_of_ofOutputLine {line : String} {finding : Finding}
    (h : ofOutputLine form dir line = .ok (some finding)) : finding.IsNormal := by
  rw [ofOutputLine] at h
  split at h
  · cases h
  · split at h
    · next number hnumber =>
      have hcount : number ≤ Count.max := (Count.read_eq_ok_iff.1 hnumber).2.2
      cases h
      exact (Finding.isAbout_spanning _ _ _ _).isNormal hcount hcount
    · cases h

theorem isNormal_of_ofLines (h : ofLines form dir lines = .ok found) :
    ∀ finding ∈ found, finding.IsNormal := by
  induction lines generalizing found with
  | nil =>
    cases h
    exact List.forall_mem_nil _
  | cons line rest ih =>
    obtain ⟨finding?, hline, h⟩ := bind_eq_ok_iff.1 h
    obtain ⟨others, hrest, h⟩ := bind_eq_ok_iff.1 h
    cases h
    rw [List.forall_mem_append]
    refine ⟨fun finding hmem => ?_, ih hrest⟩
    rw [Option.mem_toList.1 hmem] at hline
    exact isNormal_of_ofOutputLine hline

end ProblemLine

/-! ## Reports -/

/-- The line numbers of a message are counts. -/
structure ScriptReport.Message.HasCounts (message : Message) : Prop where
  line_le : message.line ≤ Count.max
  lastLine_le : message.lastLine ≤ Count.max

/-- The line numbers of a problem are counts. -/
structure InterfaceReport.Problem.HasCounts (problem : Problem) : Prop where
  firstLine_le : problem.firstLine ≤ Count.max
  lastLine_le : problem.lastLine ≤ Count.max

section Reading

variable {V : Type} {m : Type → Type} [Refusing m] [LawfulMonad m] [MonadAttach m]
  [LawfulMonadAttach m] [Format V m] [LawfulFormat V m] {v : V}

namespace ScriptReport

theorem Message.hasCounts_of_canReturn_read {message : Message}
    (h : CanReturn (read v : m Message) message) : message.HasCounts := by
  obtain ⟨fields, -, h⟩ := canReturn_bind_imp' h
  split at h
  · obtain ⟨rule?, -, h⟩ := canReturn_bind_imp' h
    obtain ⟨text, -, h⟩ := canReturn_bind_imp' h
    obtain ⟨line, hline, h⟩ := canReturn_bind_imp' h
    obtain ⟨endLine?, hendLine, h⟩ := canReturn_bind_imp' h
    obtain ⟨severity, -, h⟩ := canReturn_bind_imp' h
    obtain rfl := eq_of_canReturn_pure h
    have hle : line ≤ Count.max := Format.le_max_of_canReturn_orElse_count hline
    refine ⟨hle, ?_⟩
    cases endLine? with
    | none => exact hle
    | some endLine =>
      rcases Format.canReturn_orElse hendLine with hnone | ⟨value, hvalue⟩
      · cases hnone
      · obtain ⟨number, hnumber⟩ := Format.canReturn_option hvalue
        exact Format.le_max_of_canReturn_count hnumber
  · exact absurd h (LawfulFormat.not_canReturn_refuse V)

theorem File.hasCounts_of_canReturn_read {file : File} (h : CanReturn (read v : m File) file) :
    ∀ message ∈ file.messages, message.HasCounts := by
  obtain ⟨fields, -, h⟩ := canReturn_bind_imp' h
  split at h
  · obtain ⟨path, -, h⟩ := canReturn_bind_imp' h
    obtain ⟨messages, hmessages, h⟩ := canReturn_bind_imp' h
    obtain rfl := eq_of_canReturn_pure h
    intro message hmem
    obtain ⟨item, hitem⟩ := Format.canReturn_orElse_list hmessages hmem
    exact Message.hasCounts_of_canReturn_read hitem
  · exact absurd h (LawfulFormat.not_canReturn_refuse V)

end ScriptReport

namespace InterfaceReport

theorem le_max_of_canReturn_readPosition {line : Nat}
    (h : CanReturn (readPosition v : m Nat) line) : line ≤ Count.max := by
  obtain ⟨fields, -, h⟩ := canReturn_bind_imp' h
  split at h
  · exact Format.le_max_of_canReturn_orElse_count h
  · exact absurd h (LawfulFormat.not_canReturn_refuse V)

theorem le_max_of_canReturn_readLocation {lines : Nat × Nat}
    (h : CanReturn (readLocation v : m (Nat × Nat)) lines) :
    lines.1 ≤ Count.max ∧ lines.2 ≤ Count.max := by
  obtain ⟨fields, -, h⟩ := canReturn_bind_imp' h
  split at h
  · obtain ⟨first, hfirst, h⟩ := canReturn_bind_imp' h
    obtain ⟨last, hlast, h⟩ := canReturn_bind_imp' h
    obtain rfl := eq_of_canReturn_pure h
    obtain ⟨start, hstart⟩ := Format.canReturn_required hfirst
    obtain ⟨stop, hstop⟩ := Format.canReturn_required hlast
    exact ⟨le_max_of_canReturn_readPosition hstart, le_max_of_canReturn_readPosition hstop⟩
  · exact absurd h (LawfulFormat.not_canReturn_refuse V)

theorem Problem.hasCounts_of_canReturn_read {problem : Problem}
    (h : CanReturn (read v : m Problem) problem) : problem.HasCounts := by
  obtain ⟨fields, -, h⟩ := canReturn_bind_imp' h
  split at h
  · obtain ⟨text, -, h⟩ := canReturn_bind_imp' h
    obtain ⟨lines, hlines, h⟩ := canReturn_bind_imp' h
    obtain rfl := eq_of_canReturn_pure h
    obtain ⟨location, hlocation⟩ := Format.canReturn_required hlines
    obtain ⟨hfirst, hlast⟩ := le_max_of_canReturn_readLocation hlocation
    exact ⟨hfirst, hlast⟩
  · exact absurd h (LawfulFormat.not_canReturn_refuse V)

theorem File.hasCounts_of_canReturn_read {file : File} (h : CanReturn (read v : m File) file) :
    ∀ problem ∈ file.problems, problem.HasCounts := by
  obtain ⟨fields, -, h⟩ := canReturn_bind_imp' h
  split at h
  · obtain ⟨path, -, h⟩ := canReturn_bind_imp' h
    obtain ⟨problems, hproblems, h⟩ := canReturn_bind_imp' h
    obtain rfl := eq_of_canReturn_pure h
    intro problem hmem
    obtain ⟨item, hitem⟩ := Format.canReturn_orElse_list hproblems hmem
    exact Problem.hasCounts_of_canReturn_read hitem
  · exact absurd h (LawfulFormat.not_canReturn_refuse V)

end InterfaceReport

end Reading

/-- Findings are normal if they are made of entries with counts. -/
theorem isNormal_of_forall₂ {α : Type} {R : α → Finding → Prop} {l : List α} {found : List Finding}
    (h : List.Forall₂ R l found)
    (himp : ∀ a ∈ l, ∀ finding, R a finding → finding.IsNormal) :
    ∀ finding ∈ found, finding.IsNormal := by
  intro finding hmem
  obtain ⟨a, ha⟩ := exists_of_mem_forall₂ (forall₂_imp_of_mem h himp).flip hmem
  exact ha

theorem ScriptReport.HasMessages.isNormal {dir : Directory} {placed : List (String × Message)}
    {found : LintResult} (h : HasMessages dir placed found)
    (hcounts : ∀ entry ∈ placed, entry.2.HasCounts) : found.IsNormal := by
  have himp : ∀ entry ∈ placed, ∀ finding, IsFor dir entry finding → finding.IsNormal := by
    intro entry hentry finding hfor
    exact hfor.isNormal (hcounts entry hentry).line_le (hcounts entry hentry).lastLine_le
  rw [LintResult.IsNormal, List.forall_mem_append]
  constructor
  · exact isNormal_of_forall₂ h.warning fun entry hentry =>
      himp entry (List.mem_of_mem_filter hentry)
  · exact isNormal_of_forall₂ h.error fun entry hentry =>
      himp entry (List.mem_of_mem_filter hentry)

theorem InterfaceReport.HasProblems.isNormal {placed : List (String × Problem)}
    {found : LintResult} (h : HasProblems placed found)
    (hcounts : ∀ entry ∈ placed, entry.2.HasCounts) : found.IsNormal := by
  rw [LintResult.IsNormal, h.warning]
  refine isNormal_of_forall₂ h.error fun entry hentry finding hfor => ?_
  exact hfor.isNormal (hcounts entry hentry).firstLine_le (hcounts entry hentry).lastLine_le

/-! ## Outputs -/

namespace Tool

variable {tool : Tool} {dir : Directory} {output : RawOutput} {found : LintResult}

theorem isNormal_of_result_eslint (h : eslint.result dir output = .ok found) : found.IsNormal := by
  obtain ⟨files, hfiles, rfl⟩ := result_eslint_eq_ok_iff.1 h
  refine (ScriptReport.hasMessages_result dir output.succeeded files).isNormal ?_
  rintro entry hentry
  obtain ⟨file, hfile, hentry⟩ := List.mem_flatMap.1 hentry
  obtain ⟨message, hmessage, rfl⟩ := List.mem_map.1 hentry
  obtain ⟨v, hread⟩ := Document.canReturn_of_mem_json? hfiles hfile
  exact ScriptReport.File.hasCounts_of_canReturn_read hread message hmessage

theorem isNormal_of_result_apiLinter (h : apiLinter.result dir output = .ok found) :
    found.IsNormal := by
  obtain ⟨files, hfiles, rfl⟩ := result_apiLinter_eq_ok_iff.1 h
  refine (InterfaceReport.hasProblems_result output.succeeded files).isNormal ?_
  rintro entry hentry
  obtain ⟨file, hfile, hentry⟩ := List.mem_flatMap.1 hentry
  obtain ⟨problem, hproblem, rfl⟩ := List.mem_map.1 hentry
  obtain ⟨node, hread⟩ := Document.canReturn_of_mem_yaml? hfiles hfile
  exact InterfaceReport.File.hasCounts_of_canReturn_read hread problem hproblem

theorem isNormal_errors_iff {isSuccess : Bool} {findings : List Finding} :
    (errors isSuccess findings).IsNormal ↔ ∀ finding ∈ findings, finding.IsNormal :=
  Iff.rfl

theorem isNormal_of_diffFindings {text : String} {findings : List Finding}
    (h : tool.diffFindings dir text = .ok findings) : ∀ finding ∈ findings, finding.IsNormal :=
  Diff.isNormal_of_findings (mapError_eq_ok_iff.1 h)

theorem isNormal_of_lineFindings {form : ProblemLine.Form} {text : String}
    {findings : List Finding} (h : tool.lineFindings form dir text = .ok findings) :
    ∀ finding ∈ findings, finding.IsNormal :=
  ProblemLine.isNormal_of_ofLines (mapError_eq_ok_iff.1 h)

theorem isNormal_pathFindings (dir : Directory) (text : String) :
    ∀ finding ∈ pathFindings dir text, finding.IsNormal := by
  rw [pathFindings, List.forall_mem_map]
  exact fun path _ => (Finding.isAbout_spanning _ 1 1 _).isNormal (by decide) (by decide)

theorem isNormal_empty : LintResult.empty.IsNormal :=
  List.forall_mem_nil _

theorem isNormal_of_result (h : tool.result dir output = .ok found) : found.IsNormal := by
  cases tool with
  | apiLinter => exact isNormal_of_result_apiLinter h
  | eslint => exact isNormal_of_result_eslint h
  | flake8 | swiftFormat =>
    obtain ⟨findings, hfindings, h⟩ := bind_eq_ok_iff.1 h
    cases h
    exact isNormal_errors_iff.2 (isNormal_of_lineFindings hfindings)
  | gofmt =>
    obtain ⟨findings, hfindings, h⟩ := bind_eq_ok_iff.1 h
    cases h
    exact isNormal_errors_iff.2 (isNormal_of_diffFindings hfindings)
  | black =>
    rw [result] at h
    split at h
    · cases h
      exact isNormal_empty
    · obtain ⟨findings, hfindings, h⟩ := bind_eq_ok_iff.1 h
      cases h
      exact isNormal_errors_iff.2 (isNormal_of_diffFindings hfindings)
  | prettier =>
    rw [result] at h
    split at h
    · cases h
      exact isNormal_empty
    · cases h
      exact isNormal_errors_iff.2 (isNormal_pathFindings dir output.stdout)

/-- All other tools report errors only. -/
theorem warning_of_result (htool : tool ≠ eslint) (h : tool.result dir output = .ok found) :
    found.warning = [] := by
  cases tool with
  | eslint => exact absurd rfl htool
  | apiLinter | flake8 | gofmt | swiftFormat =>
    obtain ⟨_, -, h⟩ := bind_eq_ok_iff.1 h
    cases h
    rfl
  | black =>
    rw [result] at h
    split at h
    · cases h
      rfl
    · obtain ⟨_, -, h⟩ := bind_eq_ok_iff.1 h
      cases h
      rfl
  | prettier =>
    rw [result] at h
    split at h <;> cases h <;> rfl

/-- Whatever a tool prints, the lines of all findings are line numbers in order and within the
bound, only one tool has warnings, a tool that failed is not content, and one that did not fail is
content if it has no errors. -/
theorem result_normal (h : tool.result dir output = .ok found) :
    (∀ finding ∈ found.warning ++ found.error, 1 ≤ finding.firstLine ∧
      finding.firstLine ≤ finding.lastLine ∧ finding.lastLine ≤ Count.max) ∧
    (tool ≠ eslint → found.warning = []) ∧
    (output.status ≠ 0 → found.isSuccess = false) ∧
    (output.status = 0 → found.error = [] → found.isSuccess = true) := by
  refine ⟨fun finding hmem => ?_, fun htool => warning_of_result htool h, fun hstatus => ?_,
    fun hstatus herror => ?_⟩
  · obtain ⟨hone, horder, hlast⟩ := isNormal_of_result h finding hmem
    exact ⟨hone, horder, hlast⟩
  · rw [← Bool.not_eq_true]
    exact fun hcontent => hstatus ((isSuccess_iff h).1 hcontent).1
  · exact (isSuccess_iff h).2 ⟨hstatus, .inl herror⟩

/-- A warning on the largest line with an end in front of it, and a hunk that covers no line. -/
theorem result_normal_at_bounds :
    let dir : Directory := ⟨⟨"/repo"⟩, none⟩
    let report : RawOutput :=
      ⟨0, "[\x7b\"filePath\":\"/repo/a.js\",\"messages\":[\x7b\"message\":\"m\"," ++
        "\"severity\":1,\"line\":18446744073709551615,\"endLine\":3\x7d]\x7d]", ""⟩
    let diff : RawOutput := ⟨123, "--- a.py\n+++ a.py\n@@ -0,0 +1 @@\n+x\n", ""⟩
    let warned : LintResult := { warning := [⟨"a.js", Count.max, Count.max, "m"⟩] }
    let refused : LintResult := { isSuccess := false, error := [⟨"a.py", 1, 1, "+x"⟩] }
    eslint.result dir report = .ok warned ∧ warned.isSuccess = true ∧
      (∀ finding ∈ warned.warning ++ warned.error, 1 ≤ finding.firstLine ∧
        finding.firstLine ≤ finding.lastLine ∧ finding.lastLine ≤ Count.max) ∧
      black.result dir diff = .ok refused ∧ refused.warning = [] ∧ refused.isSuccess = false := by
  intro dir report diff warned refused
  have hwarned : eslint.result dir report = .ok warned := by decide +kernel
  have hrefused : black.result dir diff = .ok refused := by decide +kernel
  obtain ⟨hlines, -, -, hcontent⟩ := result_normal hwarned
  obtain ⟨-, hwarning, hfailed, -⟩ := result_normal hrefused
  exact ⟨hwarned, hcontent rfl rfl, hlines, hrefused, hwarning (by decide), hfailed (by decide)⟩

end Tool

end LintRun
