import LintRun.Proofs.Diff.Truncation

/-!
# Diffs behind each other

A diff whose last line and last hunk are finished can be followed by another one that begins with
the headers of a file. Nothing of the first one is left that the second could depend on: its files
come first, and an error in the second one is that of the second one alone, further down.

## Main definitions

* `IsFinished` says that a text is read as some files and that nothing of it is open.
* `BeginsFile` says that a text begins with the headers of a file.
* `Progress.onTop` puts files below those that are read.

## Main statements

* `Progress.run_onTop`: the files below make no difference to a run.
* `IsFinished.parse_append`: what is read of a text behind a finished one.
* `IsFinished.join`: finished texts behind each other are finished.
-/

namespace LintRun.Diff

/-- The same error, with lines counted from further up. -/
def Error.moved (count : Nat) : Error → Error
  | .orphanHunk line => .orphanHunk (line + count)
  | .malformedHeader line text => .malformedHeader (line + count) text

/-- A text that is read as the given files, whose last line is ended and whose last hunk lacks
nothing. -/
structure IsFinished (text : String) (files : List FileDiff) : Prop where
  parse_eq : parse text = .ok files
  ends : text = "" ∨ text.toList.getLast? = some '\n'
  filled : ∀ hunk, (hunksOf files).getLast? = some hunk → ¬hunk.Lacks

/-- The first two lines of a text have the marks of the headers of a file. -/
def BeginsFile (text : String) : Prop :=
  ∃ old new rest, Text.lines text = ("--- " ++ old) :: ("+++ " ++ new) :: rest

namespace Progress

variable {p q : Progress} {files : List FileDiff} {line : String} {taken : List String}
  {number : Nat} {oldPath? : Option String}

/-! ## Files below -/

/-- The same progress, with more files in front. -/
def onTop (p : Progress) (base : List FileDiff) : Progress :=
  { p with reversed := p.reversed ++ base }

theorem addLine?_append (hne : files ≠ []) (line : String) (base : List FileDiff) :
    addLine? line (files ++ base) = (addLine? line files).map (· ++ base) := by
  match files with
  | [] => exact absurd rfl hne
  | ⟨path, []⟩ :: rest => rfl
  | ⟨path, hunk :: hunks⟩ :: rest => rfl

theorem addLine_append (hne : files ≠ []) (line : String) (base : List FileDiff) :
    addLine line (files ++ base) = addLine line files ++ base := by
  rw [addLine, addLine, addLine?_append hne]
  cases addLine? line files <;> rfl

theorem takeBody_onTop (hne : p.reversed ≠ []) (base : List FileDiff) (number count : Nat)
    (line : String) : (p.onTop base).takeBody (number + count) line =
      ((p.takeBody number line).map (·.onTop base)).mapError (Error.moved count) := by
  have hadd := addLine?_append hne line base
  cases hfiles : addLine? line p.reversed with
  | none =>
    rw [hfiles] at hadd
    rw [takeBody_of_none hadd, takeBody_of_none hfiles]
    rfl
  | some files =>
    rw [hfiles] at hadd
    rw [takeBody_of_some hadd, takeBody_of_some hfiles]
    rfl

theorem openHunk_onTop (hne : p.reversed ≠ []) (base : List FileDiff) (number count : Nat)
    (line : String) : (p.onTop base).openHunk (number + count) line =
      ((p.openHunk number line).map (·.onTop base)).mapError (Error.moved count) := by
  obtain ⟨file, files, hfiles⟩ := List.exists_cons_of_ne_nil hne
  rw [openHunk, openHunk]
  cases HunkRange.ofChars? line.toList with
  | none => rfl
  | some range =>
    simp only [onTop, hfiles, List.cons_append]
    cases range.hunk? with
    | none => rfl
    | some hunk => rfl

/-- A line does the same to the latest file, whatever files are below it. -/
theorem step_onTop (hne : p.reversed ≠ []) (base : List FileDiff) (number count : Nat)
    (line : String) : (p.onTop base).step (number + count) line =
      ((p.step number line).map (·.onTop base)).mapError (Error.moved count) := by
  have hopen : (p.onTop base).isOpen = p.isOpen := rfl
  rw [step, step, hopen]
  split
  · exact takeBody_onTop hne base number count line
  · rw [takeOuter, takeOuter]
    cases OuterLine.ofChars line.toList with
    | remark =>
      simp only [onTop, addLine_append hne]
      rfl
    | oldFile rest => rfl
    | newFile rest => rfl
    | hunk => exact openHunk_onTop hne base number count line
    | chatter => rfl

/-- A file that was read stays. -/
theorem Accounted.reversed_ne_nil_of_step (h : Accounted taken p) (hne : p.reversed ≠ [])
    (hstep : p.step number line = .ok q) : q.reversed ≠ [] := by
  have hstart := h.isStart_of_step hstep
  intro hnil
  have hfiles : q.files = [] := by rw [Progress.files, hnil]; rfl
  rw [hfiles] at hstart
  generalize hfront : p.files = front at hstart
  cases hstart
  exact hne (by simpa [Progress.files] using hfront)

/-- The files below make no difference to a run. -/
theorem Accounted.run_onTop (h : Accounted taken p) (hne : p.reversed ≠ [])
    (base : List FileDiff) (number count : Nat) (lines : List String) :
    (p.onTop base).run (number + count) lines =
      ((p.run number lines).map (·.onTop base)).mapError (Error.moved count) := by
  -- By induction on the lines: the files never run out, so the ones below are never the latest.
  induction lines generalizing taken p number with
  | nil => rfl
  | cons line rest ih =>
    rw [Progress.run, Progress.run, step_onTop hne]
    cases hstep : p.step number line with
    | error e => rfl
    | ok q =>
      have hrest := ih (h.step hstep) (h.reversed_ne_nil_of_step hne hstep) (number + 1)
      rw [Nat.add_right_comm] at hrest
      exact hrest

/-! ## Headers of a file -/

theorem step_oldFile (old : String) : (ofFiles files oldPath? 0 0).step number ("--- " ++ old) =
    .ok (ofFiles files (some (headerPath old.toList)) 0 0) := by
  have hkind : OuterLine.ofChars ("--- " ++ old).toList = .oldFile old.toList :=
    OuterLine.ofChars_eq_oldFile_iff.2 String.toList_append
  rw [step, if_neg (by simp [isOpen, ofFiles]), takeOuter, hkind]
  rfl

theorem step_newFile (new : String) : (ofFiles files oldPath? 0 0).step number ("+++ " ++ new) =
    .ok (ofFiles (files ++ [⟨newPath oldPath? (headerPath new.toList), []⟩]) none 0 0) := by
  have hkind : OuterLine.ofChars ("+++ " ++ new).toList = .newFile new.toList :=
    OuterLine.ofChars_eq_newFile_iff.2 String.toList_append
  rw [step, if_neg (by simp [isOpen, ofFiles]), takeOuter, hkind]
  simp [ofFiles, fileInOrder]

/-- Two headers open a file, whatever was in front of them. -/
theorem run_headerPair (files : List FileDiff) (oldPath? : Option String) (number : Nat)
    (old new : String) (rest : List String) :
    (ofFiles files oldPath? 0 0).run number (("--- " ++ old) :: ("+++ " ++ new) :: rest) =
      (ofFiles (files ++ [⟨newPath (some (headerPath old.toList)) (headerPath new.toList), []⟩])
        none 0 0).run (number + 2) rest := by
  simp only [run, step_oldFile, step_newFile, bind, Except.bind]

/-- Behind closed hunks, a diff that begins with the headers of a file is read as if it stood
alone. -/
theorem run_behind (files : List FileDiff) (oldPath? : Option String) (old new : String)
    (rest : List String) (count : Nat) :
    let lines := ("--- " ++ old) :: ("+++ " ++ new) :: rest
    (ofFiles files oldPath? 0 0).run (1 + count) lines =
      ((run {} 1 lines).map (·.onTop (ofFiles files none 0 0).reversed)).mapError
        (Error.moved count) := by
  intro lines
  let file : FileDiff := ⟨newPath (some (headerPath old.toList)) (headerPath new.toList), []⟩
  have halone : run {} 1 lines = (ofFiles [file] none 0 0).run 3 rest :=
    run_headerPair [] none 1 old new rest
  have hfile : Accounted (lines.take 2) (ofFiles [file] none 0 0) := by
    refine accounted_of_run ?_
    exact (run_headerPair [] none 1 old new []).trans rfl
  have honTop : ofFiles (files ++ [file]) none 0 0 =
      (ofFiles [file] none 0 0).onTop (ofFiles files none 0 0).reversed := by
    simp [ofFiles, onTop, fileInOrder, file]
  -- The part has a file of its own from its headers on, and `run_onTop` asks for one.
  rw [halone, ← hfile.run_onTop (by simp [ofFiles]), ← honTop, run_headerPair, Nat.add_right_comm]

theorem files_onTop (p : Progress) (files : List FileDiff) (oldPath? : Option String) :
    (p.onTop (ofFiles files oldPath? 0 0).reversed).files = files ++ p.files := by
  simp [Progress.files, onTop, ofFiles, Function.comp_def, fileInOrder_fileInOrder]

end Progress

/-! ## Texts -/

theorem BeginsFile.ne_empty {text : String} (h : BeginsFile text) : text ≠ "" := by
  rintro rfl
  obtain ⟨old, new, rest, hlines⟩ := h
  cases hlines

namespace IsFinished

variable {front text : String} {files more : List FileDiff}

/-- Behind a finished text no hunk is open. -/
theorem exists_run (h : IsFinished front files) : ∃ left?,
    Progress.run {} 1 (Text.lines front) = .ok (Progress.ofFiles files left? 0 0) := by
  obtain ⟨p, hrun, rfl⟩ := parse_eq_ok_iff_run.1 h.parse_eq
  have hfilled := h.filled
  cases Progress.accounted_of_run hrun with
  | @closed files left? =>
    rw [Progress.files_ofFiles]
    exact ⟨left?, hrun⟩
  | @opened front path header hunks hunk left? read hlacks =>
    -- A hunk that lacks lines would be the last one.
    rw [Progress.atHunk, Progress.files_ofFiles, hunksOf_append_last, ← List.append_assoc]
      at hfilled
    exact absurd hlacks (hfilled hunk List.getLast?_concat)

theorem parse_append (h : IsFinished front files) (htext : BeginsFile text) :
    parse (front ++ text) = ((parse text).map (files ++ ·)).mapError
      (Error.moved (Text.lines front).length) := by
  obtain ⟨left?, hrun⟩ := h.exists_run
  obtain ⟨old, new, rest, hlines⟩ := htext
  have hbehind := Progress.run_behind files left? old new rest (Text.lines front).length
  rw [← hlines] at hbehind
  rw [parse, parse, Text.lines_append h.ends, Progress.run_append, hrun]
  simp only [Except.bind, hbehind]
  cases Progress.run {} 1 (Text.lines text) with
  | error e => rfl
  | ok p => exact congrArg Except.ok (Progress.files_onTop p files none)

theorem findings_append (h : IsFinished front files) (htext : BeginsFile text) (dir : Directory) :
    findings dir (front ++ text) =
      ((findings dir text).map (files.flatMap (FileDiff.findings dir) ++ ·)).mapError
        (Error.moved (Text.lines front).length) := by
  rw [findings, findings, h.parse_append htext]
  cases parse text with
  | error e => rfl
  | ok more => exact congrArg Except.ok List.flatMap_append

theorem append (h : IsFinished front files) (htext : BeginsFile text)
    (h' : IsFinished text more) : IsFinished (front ++ text) (files ++ more) := by
  refine ⟨?_, .inr ?_, ?_⟩
  · rw [h.parse_append htext, h'.parse_eq]
    rfl
  · rw [String.toList_append, List.getLast?_append, h'.ends.resolve_left htext.ne_empty]
    rfl
  · intro hunk hlast
    rw [hunksOf, List.flatMap_append, List.getLast?_append] at hlast
    cases hmore : (hunksOf more).getLast? with
    | none =>
      rw [hunksOf] at hmore
      rw [hmore] at hlast
      exact h.filled hunk hlast
    | some last =>
      have hfilled := h'.filled last hmore
      rw [hunksOf] at hmore
      rw [hmore] at hlast
      obtain rfl : last = hunk := Option.some.inj hlast
      exact hfilled

theorem findings_append_eq_ok (h : IsFinished front files) (htext : BeginsFile text)
    {dir : Directory} {found found' : List Finding} (hfound : findings dir front = .ok found)
    (hfound' : findings dir text = .ok found') :
    findings dir (front ++ text) = .ok (found ++ found') := by
  obtain ⟨files', hfiles', rfl⟩ := findings_eq_ok_iff.1 hfound
  obtain rfl : files = files' := Except.ok.inj (h.parse_eq.symm.trans hfiles')
  rw [h.findings_append htext, hfound']
  rfl

/-- The findings of parts behind each other are those of the parts. The last part need not be
finished. -/
theorem findings_join (h : IsFinished front files) {dir : Directory} {parts : List String}
    {last : String} {found : List (List Finding)}
    (hparts : ∀ part ∈ parts, BeginsFile part ∧ ∃ more, IsFinished part more)
    (hlast : BeginsFile last)
    (hfound : List.Forall₂ (fun part found => findings dir part = .ok found)
      (front :: (parts ++ [last])) found) :
    findings dir (front ++ String.join (parts ++ [last])) = .ok found.flatten := by
  induction parts generalizing front files found with
  | nil =>
    cases hfound with
    | @cons _ first _ found hfirst hfound =>
      cases hfound with
      | @cons _ second _ found hsecond hfound =>
        cases hfound
        simpa using h.findings_append_eq_ok hlast hfirst hsecond
  | cons part parts ih =>
    cases hfound with
    | @cons _ first _ found hfirst hfound =>
      cases hfound with
      | @cons _ second _ found hsecond hfound =>
        obtain ⟨⟨hbegins, more, hmore⟩, hparts⟩ := List.forall_mem_cons.1 hparts
        have hjoined := h.findings_append_eq_ok hbegins hfirst hsecond
        have hrest := ih (h.append hbegins hmore) hparts (.cons hjoined hfound)
        rw [List.cons_append, String.join_cons, ← String.append_assoc, hrest]
        simp

end IsFinished

/-- A diff behind a finished one is read as if it stood alone, and so are all the parts of a diff
that begin with the headers of a file, in whatever order they stand. -/
theorem parse_behind_finished {front : String} {files : List FileDiff}
    (hfront : IsFinished front files) :
    (∀ text, BeginsFile text →
      (∀ more, parse text = .ok more → parse (front ++ text) = .ok (files ++ more)) ∧
      ∀ e, parse text = .error e →
        parse (front ++ text) = .error (e.moved (Text.lines front).length)) ∧
    ∀ dir parts last found, (∀ part ∈ parts, BeginsFile part ∧ ∃ more, IsFinished part more) →
      BeginsFile last →
      List.Forall₂ (fun part found => findings dir part = .ok found)
        (front :: (parts ++ [last])) found →
      findings dir (front ++ String.join (parts ++ [last])) = .ok found.flatten := by
  refine ⟨fun text htext => ⟨fun more hmore => ?_, fun e herror => ?_⟩, ?_⟩
  · rw [hfront.parse_append htext, hmore]
    rfl
  · rw [hfront.parse_append htext, herror]
    rfl
  · intro dir parts last found hparts hlast hfound
    exact hfront.findings_join hparts hlast hfound

/-- The first part ends with a remark and a header for an old side that nothing follows. Neither
matters to the next part, and an error there is found eight lines further down. -/
theorem parse_behind_finished_of_dangling :
    let front := "noise\n--- a/x.go\n+++ b/x.go\n@@ -1 +1 @@\n-x\n+y\n\\ No newline\n--- a/y.go\n"
    let part := "--- z.go\n+++ b/z.go\n@@ -7,2 +7 @@\n-p\n q\n"
    let last := "--- x.go\n+++ x.go\n@@ -3 +3 @@\n-r\n"
    let refused := "--- z.go\n+++ b/z.go\n@@ bad\n"
    let files : List FileDiff := [⟨"x.go", [⟨1, 1, 1, ["-x", "+y", "\\ No newline"]⟩]⟩]
    let more : List FileDiff := [⟨"b/z.go", [⟨7, 2, 1, ["-p", " q"]⟩]⟩]
    IsFinished front files ∧ BeginsFile part ∧ parse (front ++ part) = .ok (files ++ more) ∧
      parse (front ++ refused) = .error (.malformedHeader 11 "@@ bad") ∧
      findings ⟨⟨"."⟩, none⟩ (front ++ String.join [part, last]) =
        .ok [⟨"x.go", 1, 1, "-x\n+y\n\\ No newline"⟩, ⟨"b/z.go", 7, 8, "-p\n q"⟩,
          ⟨"x.go", 3, 3, "-r"⟩] := by
  intro front part last refused files more
  have hfront : IsFinished front files := by
    refine ⟨by decide +kernel, .inr (by decide), ?_⟩
    rintro _ ⟨⟩
    simp [Hunk.Lacks, coversOld, coversNew]
  have hpart : IsFinished part more := by
    refine ⟨by decide +kernel, .inr (by decide), ?_⟩
    rintro _ ⟨⟩
    simp [Hunk.Lacks, coversOld, coversNew]
  have hbegins : BeginsFile part :=
    ⟨"z.go", "b/z.go", ["@@ -7,2 +7 @@", "-p", " q"], by decide +kernel⟩
  have hlast : BeginsFile last := ⟨"x.go", "x.go", ["@@ -3 +3 @@", "-r"], by decide +kernel⟩
  have hrefused : BeginsFile refused := ⟨"z.go", "b/z.go", ["@@ bad"], by decide +kernel⟩
  obtain ⟨htexts, hparts⟩ := parse_behind_finished hfront
  refine ⟨hfront, hbegins, (htexts part hbegins).1 more hpart.parse_eq, ?_, ?_⟩
  · have hlines : (Text.lines front).length = 8 := by decide +kernel
    rw [(htexts refused hrefused).2 (.malformedHeader 3 "@@ bad") (by decide +kernel), hlines]
    rfl
  · refine (hparts ⟨⟨"."⟩, none⟩ [part] last [[⟨"x.go", 1, 1, "-x\n+y\n\\ No newline"⟩],
      [⟨"b/z.go", 7, 8, "-p\n q"⟩], [⟨"x.go", 3, 3, "-r"⟩]] ?_ hlast
      (.cons ?_ (.cons ?_ (.cons ?_ .nil)))).trans rfl
    · rw [List.forall_mem_singleton]
      exact ⟨hbegins, more, hpart⟩
    all_goals decide +kernel

end LintRun.Diff
