import LintRun.Proofs.Diff.Form

/-!
# What a line does

A line in a hunk that lacks lines goes to its body. Any other line opens a hunk, or it does to the
files one of the things in `Progress.Next`: it is skipped, it is a remark on the last hunk, or it
opens a file. A run fails at the line whose step fails.

## Main statements

* `Progress.step_cases`: what a line outside of the hunks can do.
* `Progress.run_atHunk`: lines of a hunk that lacks lines.
* `Progress.run_eq_error_iff`: the error of a run is that of a step behind lines that were taken.
-/

namespace LintRun.Diff

/-! ## Marks -/

theorem OuterLine.ofChars_eq_hunk_iff {s : List Char} :
    ofChars s = .hunk ↔ "@@".toList <+: s := by
  constructor
  · intro h
    unfold ofChars at h
    split at h
    case h_4 rest => exact ⟨rest, rfl⟩
    all_goals cases h
  · rintro ⟨rest, rfl⟩
    rfl

theorem OuterLine.ofChars_eq_newFile_iff {s rest : List Char} :
    ofChars s = .newFile rest ↔ s = "+++ ".toList ++ rest := by
  constructor
  · intro h
    unfold ofChars at h
    split at h
    case h_3 => rw [OuterLine.newFile.inj h]; rfl
    all_goals cases h
  · rintro rfl
    rfl

theorem OuterLine.ofChars_eq_oldFile_iff {s rest : List Char} :
    ofChars s = .oldFile rest ↔ s = "--- ".toList ++ rest := by
  constructor
  · intro h
    unfold ofChars at h
    split at h
    case h_2 => rw [OuterLine.oldFile.inj h]; rfl
    all_goals cases h
  · rintro rfl
    rfl

theorem HunkRange.IsFormOf.starts_marked {range : HunkRange} {line : String}
    (h : range.IsFormOf line) : "@@".toList <+: line.toList := by
  obtain ⟨tail, hline⟩ := h.front
  rw [HunkRange.text_append] at hline
  have hmark : "@@".toList <+: "@@ -".toList := by decide
  exact hline ▸ hmark.trans (List.prefix_append _ _)

namespace Progress

variable {line path : String} {number : Nat} {p q : Progress} {files front : List FileDiff}
  {hunks : List Hunk} {hunk : Hunk} {oldPath? : Option String}

/-! ## Lines outside of the hunks -/

/-- What a line outside of the hunks does to the files, if it opens no hunk. -/
inductive Next (line : String) : List FileDiff → List FileDiff → Prop where
  | skip {files : List FileDiff} (hmark : ¬"+++ ".toList <+: line.toList) : Next line files files
  | remark {front : List FileDiff} {path : String} {hunks : List Hunk} {hunk : Hunk}
      (hmark : ¬"+++ ".toList <+: line.toList) :
      Next line (front ++ [⟨path, hunks ++ [hunk]⟩])
        (front ++ [⟨path, hunks ++ [{ hunk with lines := hunk.lines ++ [line] }]⟩])
  | file {files : List FileDiff} (path : String) (hmark : "+++ ".toList <+: line.toList) :
      Next line files (files ++ [⟨path, []⟩])

/-- A remark goes to the last hunk of the last file, if there is one. -/
theorem exists_next_of_remark (files : List FileDiff) (oldPath? : Option String)
    (hmark : ¬"+++ ".toList <+: line.toList) : ∃ files', Next line files files' ∧
      { ofFiles files oldPath? 0 0 with
        reversed := addLine line (ofFiles files oldPath? 0 0).reversed } =
        ofFiles files' oldPath? 0 0 := by
  rcases List.eq_nil_or_concat' files with rfl | ⟨front, ⟨path, hunks⟩, rfl⟩
  · exact ⟨[], .skip hmark, rfl⟩
  rcases List.eq_nil_or_concat' hunks with rfl | ⟨hunks, hunk, rfl⟩
  · refine ⟨_, .skip hmark, ?_⟩
    simp [addLine, addLine?, ofFiles, fileInOrder]
  · refine ⟨_, .remark hmark, ?_⟩
    rw [addLine_ofFiles]
    rfl

/-- A line outside of the hunks opens a hunk of the last file, or it leaves the hunks closed. -/
theorem step_cases (hstep : (ofFiles files oldPath? 0 0).step number line = .ok q) :
    (∃ files' left?, q = ofFiles files' left? 0 0 ∧ (∀ hunk : Hunk, ¬hunk.HasHeader line) ∧
      Next line files files') ∨
    ∃ front path hunks hunk, files = front ++ [⟨path, hunks⟩] ∧ hunk.HasHeader line ∧
      hunk.lines = [] ∧ q = atHunk front path hunks hunk oldPath? := by
  rw [step, if_neg (by simp [isOpen, ofFiles]), takeOuter] at hstep
  have hheader : OuterLine.ofChars line.toList ≠ .hunk →
      ∀ hunk : Hunk, ¬hunk.HasHeader line := by
    rintro hne hunk ⟨range, hform, -⟩
    exact hne (OuterLine.ofChars_eq_hunk_iff.2 hform.starts_marked)
  have hfile : (∀ rest, OuterLine.ofChars line.toList ≠ .newFile rest) →
      ¬"+++ ".toList <+: line.toList := by
    rintro hne ⟨rest, hline⟩
    exact hne rest (OuterLine.ofChars_eq_newFile_iff.2 hline.symm)
  cases hkind : OuterLine.ofChars line.toList with
  | remark =>
    rw [hkind] at hstep hheader hfile
    obtain rfl := Except.ok.inj hstep
    obtain ⟨files', hnext, heq⟩ := exists_next_of_remark files oldPath? (hfile (by simp))
    exact .inl ⟨files', oldPath?, heq, hheader (by simp), hnext⟩
  | oldFile rest =>
    rw [hkind] at hstep hheader hfile
    obtain rfl := Except.ok.inj hstep
    exact .inl ⟨files, _, rfl, hheader (by simp), .skip (hfile (by simp))⟩
  | newFile rest =>
    have hline := OuterLine.ofChars_eq_newFile_iff.1 hkind
    rw [hkind] at hstep hheader
    obtain rfl := Except.ok.inj hstep
    refine .inl ⟨files ++ [⟨newPath oldPath? (headerPath rest), []⟩], none, ?_,
      hheader (by simp), .file _ ⟨rest, hline.symm⟩⟩
    simp [ofFiles, fileInOrder]
  | hunk =>
    rw [hkind] at hstep
    obtain ⟨front, path, hunks, hunk, rfl, hopened, hlines, rfl⟩ := exists_of_openHunk hstep
    refine .inr ⟨front, path, hunks, hunk, rfl, Hunk.isOpenedBy_iff_hasHeader.1 hopened, hlines, ?_⟩
    simp [atHunk, hlines]
  | chatter =>
    rw [hkind] at hstep hheader hfile
    obtain rfl := Except.ok.inj hstep
    exact .inl ⟨files, oldPath?, rfl, hheader (by simp), .skip (hfile (by simp))⟩

/-! ## Lines of a hunk -/

/-- A hunk whose counts are used up lacks nothing. -/
theorem atHunk_eq_ofFiles (h : ¬hunk.Lacks) :
    atHunk front path hunks hunk oldPath? =
      ofFiles (front ++ [⟨path, hunks ++ [hunk]⟩]) oldPath? 0 0 := by
  rw [Hunk.Lacks, not_or, not_lt, not_lt] at h
  rw [atHunk, Nat.sub_eq_zero_of_le h.1, Nat.sub_eq_zero_of_le h.2]

/-- As long as a hunk lacks lines, all lines go to its body. -/
theorem run_atHunk (lines : List String) (hunk : Hunk) (number : Nat)
    (hlacks : ∀ j < lines.length, Hunk.Lacks { hunk with lines := hunk.lines ++ lines.take j }) :
    (atHunk front path hunks hunk oldPath?).run number lines =
      .ok (atHunk front path hunks { hunk with lines := hunk.lines ++ lines } oldPath?) := by
  induction lines generalizing hunk number with
  | nil => simp [run]
  | cons line rest ih =>
    have hfirst : hunk.Lacks := by simpa using hlacks 0 (by simp)
    have hrest := ih { hunk with lines := hunk.lines ++ [line] } (number + 1) fun j hj => by
      simpa using hlacks (j + 1) (by simpa using hj)
    simp only [run, step_atHunk hfirst, bind, Except.bind]
    simpa using hrest

/-! ## Runs that fail -/

/-- What is read of some lines is read of the first of them. -/
theorem run_append_eq_ok_iff {lines rest : List String} :
    p.run number (lines ++ rest) = .ok q ↔ ∃ r, p.run number lines = .ok r ∧
      r.run (number + lines.length) rest = .ok q := by
  rw [run_append]
  exact bind_eq_ok_iff

theorem run_eq_error_iff {lines : List String} {e : Error} :
    p.run number lines = .error e ↔ ∃ before line rest r, lines = before ++ line :: rest ∧
      p.run number before = .ok r ∧ r.step (number + before.length) line = .error e := by
  constructor
  · intro h
    induction lines generalizing p number with
    | nil => cases h
    | cons line rest ih =>
      rcases bind_eq_error_iff.1 h with hstep | ⟨r, hstep, hrest⟩
      · exact ⟨[], line, rest, p, rfl, rfl, hstep⟩
      · obtain ⟨before, other, behind, s, rfl, hbefore, hother⟩ := ih hrest
        refine ⟨line :: before, other, behind, s, rfl, ?_, ?_⟩
        · exact bind_eq_ok_iff.2 ⟨r, hstep, hbefore⟩
        · rwa [List.length_cons, Nat.add_comm before.length, ← Nat.add_assoc]
  · rintro ⟨before, line, rest, r, rfl, hbefore, hstep⟩
    rw [run_append, hbefore]
    simp only [Except.bind, run]
    exact bind_eq_error_iff.2 (.inl hstep)

end Progress

end LintRun.Diff
