import LintRun.Proofs.Diff.Header

/-!
# Progress through a diff

`Diff.Progress` keeps what was read with the latest first. `Progress.ofFiles` is the same state
seen from the front: the files in order, with the latest hunk at the end. The lemmas say what a
line, and then what a run over printed lines, does to this view.

## Main statements

* `Progress.run_body`: while the counts of a hunk agree with the lines ahead, these lines become
  its body, and both counts are used up behind them.
* `Progress.run_hunks` and `Progress.run_files`: printed hunks and files are added in order.
-/

namespace LintRun.Diff.Progress

/-- The progress with the given files in order. -/
def ofFiles (files : List FileDiff) (oldPath? : Option String) (oldLeft newLeft : Nat) :
    Progress where
  reversed := (files.map fileInOrder).reverse
  oldPath? := oldPath?
  oldLeft := oldLeft
  newLeft := newLeft

theorem fileInOrder_fileInOrder (file : FileDiff) : fileInOrder (fileInOrder file) = file := by
  simp [fileInOrder, hunkInOrder, Function.comp_def]

@[simp]
theorem files_ofFiles (files : List FileDiff) (oldPath? : Option String) (oldLeft newLeft : Nat) :
    (ofFiles files oldPath? oldLeft newLeft).files = files := by
  simp [Progress.files, ofFiles, Function.comp_def, fileInOrder_fileInOrder]

/-- Lines behind other lines are taken with the progress made there. -/
theorem run_append (p : Progress) (number : Nat) (front rest : List String) :
    p.run number (front ++ rest) =
      (p.run number front).bind fun q => q.run (number + front.length) rest := by
  induction front generalizing p number with
  | nil => rfl
  | cons line front ih =>
    cases hstep : p.step number line with
    | error e => simp [run, hstep, bind, Except.bind]
    | ok q =>
      have hrest := ih q (number + 1)
      rw [Nat.add_assoc, Nat.add_comm 1] at hrest
      simpa [run, hstep, bind, Except.bind] using hrest

section Body

variable {files : List FileDiff} {path : String} {hunks : List Hunk} {hunk : Hunk}
  {oldPath? : Option String} {oldLeft newLeft : Nat} {line : String}

/-- A line is added to the latest hunk, which is the last one. -/
theorem addLine?_ofFiles :
    addLine? line (ofFiles (files ++ [⟨path, hunks ++ [hunk]⟩]) oldPath? oldLeft newLeft).reversed =
      some (ofFiles (files ++ [⟨path, hunks ++ [{ hunk with lines := hunk.lines ++ [line] }]⟩])
        oldPath? oldLeft newLeft).reversed := by
  simp [addLine?, ofFiles, fileInOrder, hunkInOrder]

theorem addLine_ofFiles :
    addLine line (ofFiles (files ++ [⟨path, hunks ++ [hunk]⟩]) oldPath? oldLeft newLeft).reversed =
      (ofFiles (files ++ [⟨path, hunks ++ [{ hunk with lines := hunk.lines ++ [line] }]⟩]) oldPath?
        oldLeft newLeft).reversed := by
  rw [addLine, addLine?_ofFiles, Option.getD_some]

/-- A line of a body counts for the sides that it covers. -/
theorem takeBody_of_some {p : Progress} {reversed : List FileDiff}
    (h : addLine? line p.reversed = some reversed) (number : Nat) :
    p.takeBody number line = .ok { p with
      reversed
      oldLeft := p.oldLeft - (coversOld line).toNat
      newLeft := p.newLeft - (coversNew line).toNat } := by
  rw [takeBody, h]
  dsimp only
  split
  · next rest hline => simp [coversOld, coversNew, hline]
  · next rest hline => simp [coversOld, coversNew, hline]
  · next rest hline => simp [coversOld, coversNew, hline]
  · next hminus hplus hremark =>
    have hne : ∀ c, (∀ rest, line.toList = c :: rest → False) → line.toList.head? ≠ some c := by
      intro c hc hhead
      obtain ⟨rest, hline⟩ := List.head?_eq_some_iff.1 hhead
      exact hc rest hline
    simp [coversOld, coversNew, hne _ hminus, hne _ hplus, hne _ hremark]

theorem takeBody_of_none {p : Progress} (h : addLine? line p.reversed = none) (number : Nat) :
    p.takeBody number line = .error (.orphanHunk number) := by
  rw [takeBody, h]

theorem step_of_isOpen {p : Progress} (h : p.isOpen = true) (number : Nat) (line : String) :
    p.step number line = p.takeBody number line :=
  if_pos h

/-- A line taken while a hunk is open is added to it, and counts for the sides that it covers. -/
theorem step_of_open (number : Nat) (hopen : 0 < oldLeft ∨ 0 < newLeft) :
    (ofFiles (files ++ [⟨path, hunks ++ [hunk]⟩]) oldPath? oldLeft newLeft).step number line =
      .ok (ofFiles (files ++ [⟨path, hunks ++ [{ hunk with lines := hunk.lines ++ [line] }]⟩])
        oldPath? (oldLeft - (coversOld line).toNat) (newLeft - (coversNew line).toNat)) := by
  have hisOpen : (ofFiles (files ++ [⟨path, hunks ++ [hunk]⟩]) oldPath? oldLeft newLeft).isOpen =
      true := by
    simpa [isOpen, ofFiles] using hopen
  rw [step_of_isOpen hisOpen, takeBody_of_some addLine?_ofFiles]
  rfl

/-- A line taken outside of a hunk that covers neither side is a remark on the latest hunk. -/
theorem step_of_remark (number : Nat) (hold : coversOld line = false)
    (hnew : coversNew line = false) :
    (ofFiles (files ++ [⟨path, hunks ++ [hunk]⟩]) oldPath? 0 0).step number line =
      .ok (ofFiles (files ++ [⟨path, hunks ++ [{ hunk with lines := hunk.lines ++ [line] }]⟩])
        oldPath? 0 0) := by
  -- Only a remark covers neither side.
  have hremark : line.toList.head? = some '\\' := by
    by_contra hne
    simp_all [coversOld, coversNew]
  obtain ⟨rest, hline⟩ := List.head?_eq_some_iff.1 hremark
  have houter : OuterLine.ofChars line.toList = .remark := by rw [hline]; rfl
  rw [step, if_neg (by simp [isOpen, ofFiles]), takeOuter, houter]
  simp only [addLine_ofFiles]
  rfl

/-- Lines that use up the counts of a hunk, and remarks behind them, are its body. -/
theorem run_body (hunk : Hunk) {lines : List String} (number : Nat)
    (hold : lines.countP coversOld = oldLeft) (hnew : lines.countP coversNew = newLeft) :
    (ofFiles (files ++ [⟨path, hunks ++ [hunk]⟩]) oldPath? oldLeft newLeft).run number lines =
      .ok (ofFiles (files ++ [⟨path, hunks ++ [{ hunk with lines := hunk.lines ++ lines }]⟩])
        oldPath? 0 0) := by
  induction lines generalizing hunk oldLeft newLeft number with
  | nil =>
    rw [List.countP_nil] at hold hnew
    subst hold hnew
    simp [run]
  | cons line rest ih =>
    rw [List.countP_cons] at hold hnew
    have hrest := ih { hunk with lines := hunk.lines ++ [line] } (number + 1) rfl rfl
    have hstep : (ofFiles (files ++ [⟨path, hunks ++ [hunk]⟩]) oldPath? oldLeft newLeft).step
        number line = .ok (ofFiles (files ++
          [⟨path, hunks ++ [{ hunk with lines := hunk.lines ++ [line] }]⟩]) oldPath?
            (rest.countP coversOld) (rest.countP coversNew)) := by
      by_cases hopen : 0 < oldLeft ∨ 0 < newLeft
      · rw [step_of_open number hopen]
        congr 2
        · cases h : coversOld line <;> simp [h] at hold ⊢ <;> omega
        · cases h : coversNew line <;> simp [h] at hnew ⊢ <;> omega
      · obtain ⟨rfl, rfl⟩ : oldLeft = 0 ∧ newLeft = 0 := by omega
        have hold0 : coversOld line = false := by
          by_contra h
          simp [h] at hold
        have hnew0 : coversNew line = false := by
          by_contra h
          simp [h] at hnew
        rw [step_of_remark number hold0 hnew0]
        congr 2
        · simpa [hold0] using hold.symm
        · simpa [hnew0] using hnew.symm
    simp only [run, hstep, bind, Except.bind]
    simpa using hrest

end Body

/-- Chatter is skipped. -/
theorem step_of_chatter {p : Progress} {line : String} (number : Nat) (hp : p.isOpen = false)
    (h : IsChatter line) : p.step number line = .ok p := by
  have houter : OuterLine.ofChars line.toList = .chatter := by
    unfold OuterLine.ofChars
    split
    · next rest hline => exact absurd ⟨rest, hline.symm⟩ (h "\\" (by simp))
    · next rest hline => exact absurd ⟨rest, hline.symm⟩ (h "--- " (by simp))
    · next rest hline => exact absurd ⟨rest, hline.symm⟩ (h "+++ " (by simp))
    · next rest hline => exact absurd ⟨rest, hline.symm⟩ (h "@@" (by simp))
    · rfl
  rw [step, if_neg (by simp [hp]), takeOuter, houter]

/-- Lines of chatter are skipped. -/
theorem run_of_chatter {p : Progress} {lines : List String} (number : Nat)
    (hp : p.isOpen = false) (h : ∀ line ∈ lines, IsChatter line) :
    p.run number lines = .ok p := by
  induction lines generalizing number with
  | nil => rfl
  | cons line rest ih =>
    rw [run, step_of_chatter number hp (h line (by simp))]
    exact ih (number + 1) (fun line hline => h line (List.mem_cons_of_mem _ hline))

/-- The headers of a file open it. -/
theorem run_headers {path old new : String} {between : List String} {files : List FileDiff}
    {oldPath? : Option String} (number : Nat) (hpath : IsHeaderPath path)
    (hheaders : FileHeaders path old new) (hbetween : ∀ line ∈ between, IsChatter line) :
    (ofFiles files oldPath? 0 0).run number (old :: (between ++ [new])) =
      .ok (ofFiles (files ++ [⟨path, []⟩]) none 0 0) := by
  obtain ⟨oldRest, newRest, hold, hnew, hnewPath⟩ := hheaders.exists_rest hpath
  have hclosed : ∀ old?, (ofFiles files old? 0 0).isOpen = false := fun _ => rfl
  have hfirst : (ofFiles files oldPath? 0 0).step number old =
      .ok (ofFiles files (some (headerPath oldRest)) 0 0) := by
    rw [step, if_neg (by simp [hclosed]), takeOuter, hold]
    rfl
  have hlast : ∀ number, (ofFiles files (some (headerPath oldRest)) 0 0).step number new =
      .ok (ofFiles (files ++ [⟨path, []⟩]) none 0 0) := by
    intro number
    rw [step, if_neg (by simp [hclosed]), takeOuter, hnew]
    simp [ofFiles, hnewPath, fileInOrder]
  simp only [run, hfirst, bind, Except.bind]
  rw [run_append, run_of_chatter _ (hclosed _) hbetween]
  simp only [Except.bind, run, hlast, bind]

/-- The body of a new hunk is empty. -/
theorem lines_of_hunk? {range : HunkRange} {hunk : Hunk} (h : range.hunk? = some hunk) :
    hunk.lines = [] := by
  obtain ⟨oldStart, -, h⟩ := Option.bind_eq_some_iff.1 h
  obtain ⟨oldLines, -, h⟩ := Option.bind_eq_some_iff.1 h
  obtain ⟨newLines, -, h⟩ := Option.bind_eq_some_iff.1 h
  cases h
  rfl

/-- A hunk header opens its hunk. -/
theorem step_of_hunkHeader {hunk : Hunk} {header : String} {files : List FileDiff} {path : String}
    {hunks : List Hunk} {oldPath? : Option String} (number : Nat) (hhunk : hunk.IsPrintable)
    (hheader : HunkHeader hunk header) :
    (ofFiles (files ++ [⟨path, hunks⟩]) oldPath? 0 0).step number header =
      .ok (ofFiles (files ++ [⟨path, hunks ++ [{ hunk with lines := [] }]⟩]) oldPath?
        hunk.oldLines hunk.newLines) := by
  obtain ⟨range, hrange, hnumbers⟩ := hheader.exists_range hhunk
  rw [step, if_neg (by simp [isOpen, ofFiles]), takeOuter, hheader.ofChars_eq]
  simp [openHunk, hrange, hnumbers, ofFiles, fileInOrder, hunkInOrder]

/-- Printed hunks are added to the latest file. -/
theorem run_hunks {printed : List Hunk} {lines : List String} (h : PrintsHunks printed lines)
    {files : List FileDiff} {path : String} (hunks : List Hunk) {oldPath? : Option String}
    (number : Nat) (hprinted : ∀ hunk ∈ printed, hunk.IsPrintable) :
    (ofFiles (files ++ [⟨path, hunks⟩]) oldPath? 0 0).run number lines =
      .ok (ofFiles (files ++ [⟨path, hunks ++ printed⟩]) oldPath? 0 0) := by
  induction h generalizing hunks number with
  | nil => simp [run]
  | chatter hline h ih =>
    rw [run, step_of_chatter number rfl hline]
    exact ih hunks (number + 1) hprinted
  | @hunk hunk header rest lines hheader h ih =>
    have hhunk := hprinted hunk (by simp)
    have hrest := ih (hunks ++ [hunk]) (number + 1 + hunk.lines.length)
      fun hunk hmem => hprinted hunk (List.mem_cons_of_mem _ hmem)
    simp only [run, step_of_hunkHeader number hhunk hheader, bind, Except.bind]
    rw [run_append, run_body { hunk with lines := [] } (number + 1) hhunk.countP_coversOld
      hhunk.countP_coversNew]
    simpa [Except.bind] using hrest

/-- Printed files are added behind the others. -/
theorem run_files {printed : List FileDiff} {lines : List String} (h : PrintsFiles printed lines)
    (files : List FileDiff) (oldPath? : Option String) (number : Nat)
    (hprinted : ∀ file ∈ printed, file.IsPrintable) : ∃ left?,
    (ofFiles files oldPath? 0 0).run number lines = .ok (ofFiles (files ++ printed) left? 0 0) := by
  induction h generalizing files oldPath? number with
  | nil => exact ⟨oldPath?, by simp [run]⟩
  | chatter hline h ih =>
    obtain ⟨left?, hrest⟩ := ih files oldPath? (number + 1) hprinted
    refine ⟨left?, ?_⟩
    rw [run, step_of_chatter number rfl hline]
    exact hrest
  | @file file old new between hunkLines rest lines hheaders hbetween hhunks h ih =>
    have hfile := hprinted file (by simp)
    have hlines : old :: (between ++ new :: (hunkLines ++ lines)) =
        (old :: (between ++ [new])) ++ (hunkLines ++ lines) := by simp
    obtain ⟨left?, hrest⟩ := ih (files ++ [file]) none
      (number + (old :: (between ++ [new])).length + hunkLines.length)
      fun file hmem => hprinted file (List.mem_cons_of_mem _ hmem)
    refine ⟨left?, ?_⟩
    rw [hlines, run_append, run_headers number hfile.path hheaders hbetween]
    simp only [Except.bind]
    rw [run_append, run_hunks hhunks [] _ hfile.hunks]
    simpa [Except.bind] using hrest

end LintRun.Diff.Progress
