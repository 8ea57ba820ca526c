import LintRun.Proofs.Diff.Progress
import LintRun.Proofs.List

/-!
# Reading printed diffs back

A diff that was printed from files is read as these files. The lines of the printed diff may reach
the reader with one carriage return less, so it is first shown that what is read for printed lines
prints the same files.

## Main statements

* `parse_eq_of_printsFiles`: reading undoes printing.
-/

namespace LintRun.Diff

/-! ## What is read for printed lines -/

/-- The body of a printable hunk is read as it is. -/
theorem Hunk.IsPrintable.eq_of_forall₂ {hunk : Hunk} (h : hunk.IsPrintable) {read : List String}
    (hread : List.Forall₂ Text.IsReadAs hunk.lines read) : read = hunk.lines := by
  have hends := h.getLast?_ne
  generalize hunk.lines = lines at hends hread
  induction hread with
  | nil => rfl
  | @cons line read lines rest hline _ ih =>
    have hlineEq := hline.eq_of_getLast?_ne (hends line (by simp))
    have hrestEq := ih (fun line hmem => hends line (List.mem_cons_of_mem _ hmem))
    rw [hlineEq, hrestEq]

/-- The headers of a file are read as headers of the same file. -/
theorem FileHeaders.of_isReadAs {path old new oldRead newRead : String}
    (h : FileHeaders path old new) (hpath : IsHeaderPath path)
    (hold : Text.IsReadAs old oldRead) (hnew : Text.IsReadAs new newRead) :
    FileHeaders path oldRead newRead := by
  cases h with
  | plain holdPath hnull hmarks holdLine hnewLine =>
    exact .plain holdPath hnull hmarks
      (holdLine.of_isReadAs (holdPath.getLast?_append_ne (by decide)) hold)
      (hnewLine.of_isReadAs (hpath.getLast?_append_ne (by decide)) hnew)
  | marked holdLine hnewLine =>
    exact .marked (holdLine.of_isReadAs (hpath.getLast?_append_ne (by decide)) hold)
      (hnewLine.of_isReadAs (hpath.getLast?_append_ne (by decide)) hnew)

/-- What is read for lines of chatter is chatter. -/
theorem isChatter_of_forall₂ {lines read : List String} (h : ∀ line ∈ lines, IsChatter line)
    (hread : List.Forall₂ Text.IsReadAs lines read) : ∀ line ∈ read, IsChatter line := by
  induction hread with
  | nil => simp
  | @cons line read lines rest hline _ ih =>
    intro other hmem
    rcases List.mem_cons.1 hmem with rfl | hmem
    · exact (h line (by simp)).of_isReadAs hline
    · exact ih (fun line hmem => h line (List.mem_cons_of_mem _ hmem)) other hmem

/-- What is read for printed hunks prints the same hunks. -/
theorem PrintsHunks.of_forall₂ {hunks : List Hunk} {lines read : List String}
    (h : PrintsHunks hunks lines) (hhunks : ∀ hunk ∈ hunks, hunk.IsPrintable)
    (hread : List.Forall₂ Text.IsReadAs lines read) : PrintsHunks hunks read := by
  induction h generalizing read with
  | nil =>
    cases hread
    exact .nil
  | chatter hline h ih =>
    cases hread with
    | cons hlineRead hrest => exact .chatter (hline.of_isReadAs hlineRead) (ih hhunks hrest)
  | @hunk hunk header rest lines hheader h ih =>
    cases hread with
    | cons hheaderRead hread =>
      obtain ⟨body, more, rfl, hbody, hmore⟩ := exists_of_forall₂_append hread
      rw [(hhunks hunk (by simp)).eq_of_forall₂ hbody]
      exact .hunk (hheader.of_isReadAs hheaderRead)
        (ih (fun hunk hmem => hhunks hunk (List.mem_cons_of_mem _ hmem)) hmore)

/-- What is read for printed files prints the same files. -/
theorem PrintsFiles.of_forall₂ {files : List FileDiff} {lines read : List String}
    (h : PrintsFiles files lines) (hfiles : ∀ file ∈ files, file.IsPrintable)
    (hread : List.Forall₂ Text.IsReadAs lines read) : PrintsFiles files read := by
  induction h generalizing read with
  | nil =>
    cases hread
    exact .nil
  | chatter hline h ih =>
    cases hread with
    | cons hlineRead hrest => exact .chatter (hline.of_isReadAs hlineRead) (ih hfiles hrest)
  | @file file old new between hunkLines rest lines hheaders hbetween hhunks h ih =>
    have hfile := hfiles file (by simp)
    cases hread with
    | cons holdRead hread =>
      obtain ⟨betweenRead, tail, rfl, hbetweenRead, htail⟩ := exists_of_forall₂_append hread
      cases htail with
      | cons hnewRead htail =>
        obtain ⟨hunksRead, more, rfl, hhunksRead, hmore⟩ := exists_of_forall₂_append htail
        exact .file (hheaders.of_isReadAs hfile.path holdRead hnewRead)
          (isChatter_of_forall₂ hbetween hbetweenRead) (hhunks.of_forall₂ hfile.hunks hhunksRead)
          (ih (fun file hmem => hfiles file (List.mem_cons_of_mem _ hmem)) hmore)

/-! ## Reading and printing -/

/-- Reading undoes printing: a text whose lines print some files is read as these files, in
whichever of the ways they are printed, and however the lines are ended. -/
theorem parse_eq_of_printsFiles {files : List FileDiff} {lines : List String} {text : String}
    (hfiles : ∀ file ∈ files, file.IsPrintable) (hprints : PrintsFiles files lines)
    (htext : Text.Written lines text) : parse text = .ok files := by
  have hread := hprints.of_forall₂ hfiles htext.forall₂_lines
  obtain ⟨left?, hrun⟩ := Progress.run_files hread [] none 1 hfiles
  have hstart : ({} : Progress) = Progress.ofFiles [] none 0 0 := rfl
  rw [parse, hstart, hrun]
  simp [bind, Except.bind, pure, Except.pure]

/-- A marked file whose body looks like headers, with chatter in front and line ends of all
kinds. -/
theorem parse_marked_rules :
    let file : FileDiff :=
      ⟨"a.md", [⟨1, 2, 1, ["--- old rule", "+++ new rule", "-@@ -1 +1 @@", "\\ No newline"]⟩]⟩
    let lines : List String :=
      ["index 1..2", "--- a/a.md", "+++ b/a.md\t2020-01-01", "@@ -1,2 +7 @@ Rules",
        "--- old rule", "+++ new rule", "-@@ -1 +1 @@", "\\ No newline"]
    let text : String :=
      "index 1..2" ++ "\n" ++ ("--- a/a.md" ++ "\r\n" ++ ("+++ b/a.md\t2020-01-01" ++ "\n" ++
        ("@@ -1,2 +7 @@ Rules" ++ "\n" ++ ("--- old rule" ++ "\r\n" ++ ("+++ new rule" ++ "\n" ++
          ("-@@ -1 +1 @@" ++ "\n" ++ "\\ No newline"))))))
    (∀ file' ∈ [file], file'.IsPrintable) ∧ PrintsFiles [file] lines ∧ Text.Written lines text ∧
      parse text = .ok [file] := by
  intro file lines text
  have hhunk : ∀ hunk ∈ file.hunks, hunk.IsPrintable := by
    intro hunk hmem
    rw [List.mem_singleton.1 hmem]
    constructor <;> decide +kernel
  have hfiles : ∀ file' ∈ [file], file'.IsPrintable := by
    intro file' hmem
    rw [List.mem_singleton.1 hmem]
    exact ⟨⟨by decide +kernel, by decide +kernel⟩, hhunk⟩
  have hheaders : FileHeaders "a.md" "--- a/a.md" "+++ b/a.md\t2020-01-01" :=
    .marked .plain (.stamped "2020-01-01")
  have hheader : HunkHeader ⟨1, 2, 1, ["--- old rule", "+++ new rule", "-@@ -1 +1 @@",
      "\\ No newline"]⟩ "@@ -1,2 +7 @@ Rules" :=
    @HunkHeader.mk _ (toString 7) _ _ " Rules" .counted (by decide)
      (fun c hc => Text.isDecimal_of_isDigit (Count.isDigit_of_mem_toString hc)) (.single rfl)
  have hprints : PrintsFiles [file] lines :=
    .chatter (by unfold IsChatter; decide +kernel)
      (@PrintsFiles.file file _ _ [] _ _ [] hheaders (by simp)
        (@PrintsHunks.hunk _ _ _ [] hheader .nil) .nil)
  have htext : Text.Written lines text := by
    refine .newline (by decide) (.returned (by decide) (.newline (by decide) ?_))
    refine .newline (by decide) (.returned (by decide) (.newline (by decide) ?_))
    exact .newline (by decide) (.unended (by decide) (by decide))
  exact ⟨hfiles, hprints, htext, parse_eq_of_printsFiles hfiles hprints htext⟩

end LintRun.Diff
