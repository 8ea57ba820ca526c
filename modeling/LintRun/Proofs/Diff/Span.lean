import LintRun.Proofs.Diff.Truncation

/-!
# The lines of a finding

The finding for a hunk is on the old lines that the hunk covers, with the first line and the last
line within the bounds of a line number. Its last line is one too small if the hunk goes up to the
largest count: the sum of start and count stops at the bound before one is taken off it.

## Main definitions

* `Hunk.lastCovered` is the last line that a hunk covers, as an integer.
* `Hunk.IsCoveredBy` says that a finding is on the lines of a hunk.

## Main statements

* `Progress.haveHeaders_of_step` and `Progress.haveHeaders_of_run`: every hunk was opened by a line.
* `Hunk.isCoveredBy_finding_iff`: which hunks are covered by their findings.
* `findings_report_hunks`: the findings in a diff, hunk by hunk.
-/

namespace LintRun

/-- The number of lines that a finding is on. -/
def Finding.lineCount (finding : Finding) : Nat :=
  finding.lastLine + 1 - finding.firstLine

namespace Diff

/-! ## Hunks and their headers -/

/-- Each of the hunks was opened by one of the lines. -/
def HaveHeaders (hunks : List Hunk) (lines : List String) : Prop :=
  ∀ hunk ∈ hunks, ∃ header ∈ lines, hunk.HasHeader header

section HaveHeaders

variable {hunks : List Hunk} {hunk : Hunk} {lines : List String} {line : String}

theorem HaveHeaders.skip (h : HaveHeaders hunks lines) (line : String) :
    HaveHeaders hunks (lines ++ [line]) := by
  intro hunk hmem
  obtain ⟨header, hheader, hopened⟩ := h hunk hmem
  exact ⟨header, List.mem_append_left _ hheader, hopened⟩

theorem haveHeaders_append_last_iff :
    HaveHeaders (hunks ++ [hunk]) lines ↔
      HaveHeaders hunks lines ∧ ∃ header ∈ lines, hunk.HasHeader header := by
  rw [HaveHeaders, List.forall_mem_append, List.forall_mem_singleton]
  rfl

/-- The body of a hunk does not matter to its header. -/
theorem HaveHeaders.grow (h : HaveHeaders (hunks ++ [hunk]) lines) (more : List String) :
    HaveHeaders (hunks ++ [{ hunk with lines := hunk.lines ++ more }]) lines := by
  rw [haveHeaders_append_last_iff] at h ⊢
  exact h

theorem HaveHeaders.open (h : HaveHeaders hunks lines) (hheader : hunk.HasHeader line) :
    HaveHeaders (hunks ++ [hunk]) (lines ++ [line]) :=
  haveHeaders_append_last_iff.2 ⟨h.skip line, line, by simp, hheader⟩

end HaveHeaders

namespace Progress

variable {taken lines : List String} {line : String} {number : Nat} {p q : Progress}
  {files files' : List FileDiff}

theorem Next.haveHeaders (hnext : Next line files files') (h : HaveHeaders (hunksOf files) taken) :
    HaveHeaders (hunksOf files') (taken ++ [line]) := by
  cases hnext with
  | skip => exact h.skip line
  | remark =>
    rw [hunksOf_append_last, ← List.append_assoc] at h ⊢
    exact (h.grow [line]).skip line
  | file path =>
    rw [hunksOf_append_last, List.append_nil]
    exact h.skip line

/-- A line opens a hunk only if it is its header. -/
theorem haveHeaders_of_step (h : HaveHeaders (hunksOf p.files) taken) (hp : Accounted taken p)
    (hstep : p.step number line = .ok q) : HaveHeaders (hunksOf q.files) (taken ++ [line]) := by
  cases hp with
  | closed =>
    rw [files_ofFiles] at h
    rcases step_cases hstep with ⟨files', left?, rfl, -, hnext⟩ |
      ⟨front, path, hunks, hunk, rfl, hheader, -, rfl⟩
    · rw [files_ofFiles]
      exact hnext.haveHeaders h
    · rw [atHunk, files_ofFiles, hunksOf_append_last, ← List.append_assoc]
      rw [hunksOf_append_last] at h
      exact h.open hheader
  | opened hlacks =>
    rw [step_atHunk hlacks] at hstep
    obtain rfl := Except.ok.inj hstep
    rw [atHunk, files_ofFiles, hunksOf_append_last, ← List.append_assoc] at h ⊢
    exact (h.grow [line]).skip line

theorem haveHeaders_of_run (h : HaveHeaders (hunksOf p.files) taken) (hp : Accounted taken p)
    (hrun : p.run number lines = .ok q) : HaveHeaders (hunksOf q.files) (taken ++ lines) := by
  induction lines generalizing taken p number with
  | nil =>
    obtain rfl := Except.ok.inj hrun
    rwa [List.append_nil]
  | cons line rest ih =>
    obtain ⟨next, hstep, hrest⟩ := bind_eq_ok_iff.1 hrun
    rw [List.append_cons]
    exact ih (haveHeaders_of_step h hp hstep) (hp.step hstep) hrest

end Progress

/-- Every hunk of a diff was opened by a line of the text. -/
theorem haveHeaders_of_parse {text : String} {files : List FileDiff} (h : parse text = .ok files) :
    HaveHeaders (hunksOf files) (Text.lines text) := by
  obtain ⟨p, hrun, rfl⟩ := parse_eq_ok_iff_run.1 h
  have hstart : HaveHeaders (hunksOf (Progress.ofFiles [] none 0 0).files) [] := by
    rintro hunk ⟨⟩
  exact Progress.haveHeaders_of_run hstart (Progress.accounted_of_run rfl) hrun

/-! ## Lines that are covered -/

namespace Hunk

variable {hunk : Hunk}

/-- The start and the count of a hunk are within the bound. -/
structure IsCounted (hunk : Hunk) : Prop where
  oldStart_le : hunk.oldStart ≤ Count.max
  oldLines_le : hunk.oldLines ≤ Count.max

theorem HasHeader.isCounted {line : String} (h : hunk.HasHeader line) : hunk.IsCounted := by
  obtain ⟨range, -, ⟨hstart, hcount, -⟩, hopened⟩ := h
  obtain ⟨holdStart, holdLines, -⟩ := Hunk.mk.inj hopened
  refine ⟨?_, ?_⟩
  · rw [holdStart]
    exact hstart.le_max
  · rw [holdLines]
    cases hcount? : range.oldCount? with
    | none => decide
    | some count => exact (hcount count hcount?).le_max

/-- The last line that a hunk covers. A hunk that covers no line ends in front of its start. -/
def lastCovered (hunk : Hunk) : ℤ :=
  hunk.oldStart + hunk.oldLines - 1

/-- A finding is on the lines that a hunk covers, as far as they are within the bounds. -/
structure IsCoveredBy (hunk : Hunk) (finding : Finding) : Prop where
  firstLine : finding.firstLine = max 1 hunk.oldStart
  lastLine : (finding.lastLine : ℤ) =
    min (Count.max : ℤ) (max (finding.firstLine : ℤ) hunk.lastCovered)

/-- The start and the count can be added up within the bound, or the hunk starts at the bound. -/
def IsSummable (hunk : Hunk) : Prop :=
  hunk.oldStart + hunk.oldLines ≤ Count.max ∨ hunk.oldStart = Count.max

variable (path : String)

theorem firstLine_finding (hunk : Hunk) :
    (hunk.finding path).firstLine = max 1 hunk.oldStart :=
  Nat.max_comm hunk.oldStart 1

theorem lastLine_finding (hunk : Hunk) :
    (hunk.finding path).lastLine =
      max (min (hunk.oldStart + hunk.oldLines) Count.max - 1) (max 1 hunk.oldStart) :=
  congrArg (max _) (Nat.max_comm hunk.oldStart 1)

theorem isCoveredBy_finding_iff (h : hunk.IsCounted) :
    hunk.IsCoveredBy (hunk.finding path) ↔ hunk.IsSummable := by
  obtain ⟨hstart, hlines⟩ := h
  have hlast := lastLine_finding path hunk
  have hfirst := firstLine_finding path hunk
  constructor
  · rintro ⟨-, hcovered⟩
    rw [hlast, hfirst, lastCovered] at hcovered
    rw [IsSummable]
    simp only [Count.max] at *
    omega
  · intro hsum
    refine ⟨hfirst, ?_⟩
    rw [hlast, hfirst, lastCovered]
    simp only [IsSummable, Count.max] at *
    omega

/-- Otherwise the finding ends one line in front of the largest line number. -/
theorem lastLine_finding_of_not_isSummable (h : hunk.IsCounted) (hsum : ¬hunk.IsSummable) :
    (hunk.finding path).lastLine + 1 = Count.max ∧ (Count.max : ℤ) ≤ hunk.lastCovered := by
  obtain ⟨hstart, hlines⟩ := h
  rw [lastLine_finding, lastCovered]
  simp only [IsSummable, Count.max] at *
  omega

/-- A finding on lines that can be numbered has as many lines as the hunk covers. -/
theorem lineCount_finding_iff (h : hunk.IsCounted) (hstart : 1 ≤ hunk.oldStart)
    (hlines : 1 ≤ hunk.oldLines) (hlast : hunk.lastCovered ≤ Count.max) :
    (hunk.finding path).lineCount = hunk.oldLines ↔ hunk.IsSummable := by
  obtain ⟨hstart', hlines'⟩ := h
  rw [Finding.lineCount, lastLine_finding, firstLine_finding]
  rw [lastCovered] at hlast
  simp only [IsSummable, Count.max] at *
  omega

end Hunk

/-! ## The findings in a diff -/

/-- All hunks in order, each with the path of its file. -/
def placedHunks (files : List FileDiff) : List (String × Hunk) :=
  files.flatMap fun file => file.hunks.map fun hunk => (file.path, hunk)

theorem mem_hunksOf_of_mem_placedHunks {files : List FileDiff} {placed : String × Hunk}
    (h : placed ∈ placedHunks files) : placed.2 ∈ hunksOf files := by
  obtain ⟨file, hfile, hplaced⟩ := List.mem_flatMap.1 h
  obtain ⟨hunk, hhunk, rfl⟩ := List.mem_map.1 hplaced
  exact List.mem_flatMap.2 ⟨file, hfile, hhunk⟩

theorem flatMap_findings_eq_map (dir : Directory) (files : List FileDiff) :
    files.flatMap (FileDiff.findings dir) =
      (placedHunks files).map fun placed => placed.2.finding (dir.relative placed.1) := by
  rw [placedHunks, List.map_flatMap]
  refine List.flatMap_congr fun file _ => ?_
  rw [List.map_map]
  rfl

/-- What a finding says of a hunk in the file with the name `path`. -/
structure Hunk.IsReportedAs (hunk : Hunk) (path : String) (finding : Finding) : Prop where
  path_eq : finding.path = path
  message_eq : finding.message = "\n".intercalate hunk.lines
  firstLine_eq : finding.firstLine = max 1 hunk.oldStart
  isCoveredBy_iff : hunk.IsCoveredBy finding ↔ hunk.IsSummable
  /-- Where the sum is not within the bound, the last line is missing. -/
  short : ¬hunk.IsSummable →
    finding.lastLine + 1 = Count.max ∧ (Count.max : ℤ) ≤ hunk.lastCovered
  lineCount_iff : 1 ≤ hunk.oldStart → 1 ≤ hunk.oldLines → hunk.lastCovered ≤ Count.max →
    (finding.lineCount = hunk.oldLines ↔ hunk.IsSummable)

theorem Hunk.IsCounted.isReportedAs {hunk : Hunk} (h : hunk.IsCounted) (path : String) :
    hunk.IsReportedAs path (hunk.finding path) where
  path_eq := rfl
  message_eq := rfl
  firstLine_eq := firstLine_finding path hunk
  isCoveredBy_iff := isCoveredBy_finding_iff path h
  short := lastLine_finding_of_not_isSummable path h
  lineCount_iff := lineCount_finding_iff path h

/-- A diff has one finding for each hunk, in order. It is on the lines that the hunk covers, as far
as they are within the bounds, if the start and the count can be added up within the bound. If they
cannot, the last line is missing, also where all lines that the hunk covers have numbers. -/
theorem findings_report_hunks {text : String} {files : List FileDiff}
    (h : parse text = .ok files) (dir : Directory) : ∃ found, findings dir text = .ok found ∧
      List.Forall₂ (fun placed finding => placed.2.IsCounted ∧
        placed.2.IsReportedAs (dir.relative placed.1) finding) (placedHunks files) found := by
  refine ⟨_, findings_eq_ok_iff.2 ⟨files, h, rfl⟩, ?_⟩
  rw [flatMap_findings_eq_map, List.forall₂_map_right_iff, List.forall₂_same]
  intro placed hplaced
  obtain ⟨header, -, hheader⟩ :=
    haveHeaders_of_parse h placed.2 (mem_hunksOf_of_mem_placedHunks hplaced)
  exact ⟨hheader.isCounted, hheader.isCounted.isReportedAs _⟩

/-- A hunk without old lines, a hunk up to the line in front of the largest number, and a hunk up to
the largest number, of which the finding has the first line only. -/
theorem findings_report_hunks_at_bound :
    let dir : Directory := ⟨⟨"."⟩, none⟩
    let text := "--- a.py\n+++ ./a.py\n@@ -0,0 +1 @@\n+x\n@@ -18446744073709551613,2 +2 @@\n" ++
      "-y\n-z\n+z\n@@ -18446744073709551614,2 +3 @@\n-u\n"
    let first : Hunk := ⟨0, 0, 1, ["+x"]⟩
    let second : Hunk := ⟨18446744073709551613, 2, 1, ["-y", "-z", "+z"]⟩
    let third : Hunk := ⟨18446744073709551614, 2, 1, ["-u"]⟩
    parse text = .ok [⟨"./a.py", [first, second, third]⟩] ∧
      ∃ x y z, findings dir text = .ok [x, y, z] ∧ first.IsCoveredBy x ∧ second.IsCoveredBy y ∧
        ¬third.IsCoveredBy z ∧ z.lastLine + 1 = Count.max ∧ z.lineCount ≠ 2 := by
  intro dir text first second third
  have hparse : parse text = .ok [⟨"./a.py", [first, second, third]⟩] := by decide +kernel
  obtain ⟨found, hfound, hreported⟩ := findings_report_hunks hparse dir
  obtain _ | @⟨_, x, _, _, ⟨-, hx⟩, _ | @⟨_, y, _, _, ⟨-, hy⟩,
    _ | @⟨_, z, _, _, ⟨-, hz⟩, _ | _⟩⟩⟩ := hreported
  have hfirst : first.IsSummable := .inl (by decide)
  have hsecond : second.IsSummable := .inl (by decide)
  have hthird : ¬third.IsSummable := by
    rintro (h | h)
    · exact absurd h (by decide)
    · exact absurd h (by decide)
  refine ⟨hparse, x, y, z, hfound, hx.isCoveredBy_iff.2 hfirst, hy.isCoveredBy_iff.2 hsecond,
    fun h => hthird (hz.isCoveredBy_iff.1 h), (hz.short hthird).1, fun h => hthird ?_⟩
  exact (hz.lineCount_iff (by decide) (by decide) (by decide)).1 h

/-- The two last lines that have numbers: the finding is on the first of them. -/
theorem findings_miss_last_line :
    let dir : Directory := ⟨⟨"."⟩, none⟩
    let text := "--- a\n+++ a\n@@ -18446744073709551614,2 +1 @@\n"
    let hunk : Hunk := ⟨18446744073709551614, 2, 1, []⟩
    let finding : Finding := ⟨"a", 18446744073709551614, 18446744073709551614, ""⟩
    parse text = .ok [⟨"a", [hunk]⟩] ∧ findings dir text = .ok [finding] ∧
      1 ≤ hunk.oldStart ∧ 1 ≤ hunk.oldLines ∧ hunk.lastCovered ≤ Count.max ∧
      ¬hunk.IsCoveredBy finding ∧ finding.lineCount ≠ hunk.oldLines := by
  intro dir text hunk finding
  refine ⟨by decide +kernel, by decide +kernel, by decide, by decide, by decide, ?_, by decide⟩
  rintro ⟨-, hlast⟩
  exact absurd hlast (by decide)

end Diff

end LintRun
