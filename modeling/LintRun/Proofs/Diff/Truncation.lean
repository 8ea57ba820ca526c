import LintRun.Diff.Findings
import LintRun.Proofs.Diff.Faults

/-!
# Truncated diffs

A diff that breaks off is read as far as it goes. Lines that come later add to what was read, and
take nothing of it back: the path of a file and the numbers of a hunk stay as they are once they are
read. An error is there as soon as its line is.

## Main definitions

* `IsStart` relates lists that agree up to the last entry of the first one.
* `Hunk.IsStartOf` and `FileDiff.IsStartOf` relate what was read of a hunk or a file to all of it.

## Main statements

* `Progress.Accounted.isStart_of_step` and `Progress.Accounted.isStart_of_run`: one line, and more
  lines, add to the files.
* `parse_firstLines`: what is read of the first lines of a text.
-/

namespace LintRun

/-- Two lists agree up to the last entry of the first one, which is related to the entry in its
place. -/
inductive IsStart {α : Type} (R : α → α → Prop) : List α → List α → Prop where
  | nil (l : List α) : IsStart R [] l
  | last {a b : α} (h : R a b) (rest : List α) : IsStart R [a] (b :: rest)
  | cons (a : α) {l l' : List α} (h : IsStart R l l') : IsStart R (a :: l) (a :: l')

namespace IsStart

variable {α β : Type} {R : α → α → Prop} {l m n : List α}

theorem append (l m : List α) : IsStart R l (l ++ m) := by
  induction l with
  | nil => exact .nil m
  | cons a l ih => exact .cons a ih

theorem refl (l : List α) : IsStart R l l := by
  simpa using append (R := R) l []

theorem append_left (front : List α) (h : IsStart R l m) :
    IsStart R (front ++ l) (front ++ m) := by
  induction front with
  | nil => exact h
  | cons a front ih => exact .cons a ih

theorem trans (htrans : ∀ a b c, R a b → R b c → R a c) (h : IsStart R l m)
    (h' : IsStart R m n) : IsStart R l n := by
  induction h generalizing n with
  | nil m => exact .nil n
  | @last a b hab rest =>
    cases h' with
    | @last _ c hbc rest => exact .last (htrans a b c hab hbc) rest
    | cons _ h' => exact .last hab _
  | @cons a l m h ih =>
    cases h' with
    | @last _ c hac rest =>
      cases h
      exact .last hac rest
    | cons _ h' => exact .cons a (ih h')

theorem exists_of_concat (hrefl : ∀ a, R a a) {l m : List α} {a : α} (h : IsStart R (l ++ [a]) m) :
    ∃ b rest, m = l ++ b :: rest ∧ R a b := by
  induction l generalizing m with
  | nil =>
    cases h with
    | @last _ b hab rest => exact ⟨b, rest, rfl, hab⟩
    | @cons _ _ rest _ => exact ⟨a, rest, rfl, hrefl a⟩
  | cons c l ih =>
    rw [List.cons_append] at h
    generalize htail : l ++ [a] = tail at h
    cases h with
    | last => simp at htail
    | cons _ h =>
      obtain ⟨b, rest, rfl, hab⟩ := ih (htail ▸ h)
      exact ⟨b, rest, rfl, hab⟩

/-- What is made of the entries of a start is at the front of what is made of the list. -/
theorem prefix_flatMap {f : α → List β} (hf : ∀ a b, R a b → f a <+: f b) (h : IsStart R l m) :
    l.flatMap f <+: m.flatMap f := by
  induction h with
  | nil => exact List.nil_prefix
  | last h rest =>
    simpa using (hf _ _ h).trans (List.prefix_append _ _)
  | cons a h ih => simpa using ih

end IsStart

namespace Diff

/-- What was read of a hunk: its numbers, and the first lines of its body. -/
structure Hunk.IsStartOf (hunk whole : Hunk) : Prop where
  oldStart : hunk.oldStart = whole.oldStart
  oldLines : hunk.oldLines = whole.oldLines
  newLines : hunk.newLines = whole.newLines
  lines : hunk.lines <+: whole.lines

/-- What was read of a file: its path, and its first hunks up to a last one. -/
structure FileDiff.IsStartOf (file whole : FileDiff) : Prop where
  path : file.path = whole.path
  hunks : IsStart Hunk.IsStartOf file.hunks whole.hunks

theorem Hunk.IsStartOf.trans (a b c : Hunk) (h : a.IsStartOf b) (h' : b.IsStartOf c) :
    a.IsStartOf c where
  oldStart := h.oldStart.trans h'.oldStart
  oldLines := h.oldLines.trans h'.oldLines
  newLines := h.newLines.trans h'.newLines
  lines := h.lines.trans h'.lines

theorem FileDiff.IsStartOf.trans (a b c : FileDiff) (h : a.IsStartOf b) (h' : b.IsStartOf c) :
    a.IsStartOf c where
  path := h.path.trans h'.path
  hunks := h.hunks.trans Hunk.IsStartOf.trans h'.hunks

namespace Progress

variable {taken lines : List String} {line path : String} {number : Nat} {p q : Progress}
  {front files files' : List FileDiff} {hunks : List Hunk} {hunk : Hunk}

/-- A line more in the last hunk of the last file. -/
theorem isStart_grown (front : List FileDiff) (path : String) (hunks : List Hunk) (hunk : Hunk)
    (line : String) : IsStart FileDiff.IsStartOf (front ++ [⟨path, hunks ++ [hunk]⟩])
      (front ++ [⟨path, hunks ++ [{ hunk with lines := hunk.lines ++ [line] }]⟩]) := by
  have hhunk : hunk.IsStartOf { hunk with lines := hunk.lines ++ [line] } :=
    ⟨rfl, rfl, rfl, List.prefix_append _ _⟩
  exact .append_left front (.last ⟨rfl, .append_left hunks (.last hhunk [])⟩ [])

theorem Next.isStart (h : Next line files files') : IsStart FileDiff.IsStartOf files files' := by
  cases h with
  | skip => exact .refl files
  | @remark front path hunks hunk => exact isStart_grown front path hunks hunk line
  | file path => exact .append files _

/-- A line only adds to the files. -/
theorem Accounted.isStart_of_step (h : Accounted taken p) (hstep : p.step number line = .ok q) :
    IsStart FileDiff.IsStartOf p.files q.files := by
  cases h with
  | @closed files oldPath? =>
    rcases step_cases hstep with ⟨files', left?, rfl, -, hnext⟩ |
      ⟨front, path, hunks, hunk, rfl, -, -, rfl⟩
    · rw [files_ofFiles, files_ofFiles]
      exact hnext.isStart
    · rw [atHunk, files_ofFiles, files_ofFiles]
      exact .append_left front (.last ⟨rfl, .append hunks [hunk]⟩ [])
  | @opened front path header hunks hunk oldPath? read hlacks =>
    rw [step_atHunk hlacks] at hstep
    obtain rfl := Except.ok.inj hstep
    rw [atHunk, atHunk, files_ofFiles, files_ofFiles]
    exact isStart_grown front path hunks hunk line

theorem Accounted.isStart_of_run (h : Accounted taken p) (hrun : p.run number lines = .ok q) :
    IsStart FileDiff.IsStartOf p.files q.files := by
  induction lines generalizing taken p number with
  | nil =>
    obtain rfl := Except.ok.inj hrun
    exact .refl _
  | cons line rest ih =>
    obtain ⟨r, hstep, hrest⟩ := bind_eq_ok_iff.1 hrun
    exact (h.isStart_of_step hstep).trans FileDiff.IsStartOf.trans (ih (h.step hstep) hrest)

/-- The text that is read from the start makes its files as its lines say. -/
theorem accounted_of_run (hrun : run {} 1 lines = .ok p) : Accounted lines p := by
  have hstart : Accounted [] (ofFiles [] none 0 0) :=
    .closed ⟨List.forall_mem_nil _, List.Sublist.refl []⟩
  simpa using hstart.run hrun

end Progress

/-- The line that an error is about. -/
def Error.line : Error → Nat
  | .orphanHunk line => line
  | .malformedHeader line _ => line

theorem FaultAt.line_eq {lines before : List String} {e : Error} (h : FaultAt lines before e) :
    e.line = before.length + 1 := by
  obtain ⟨line, rest, -, -, hfault⟩ := h
  cases hfault <;> rfl

/-- Where a finding is. -/
def place (finding : Finding) : String × Nat × Nat :=
  (finding.path, finding.firstLine, finding.lastLine)

/-- The places of the findings in a start of a file. -/
theorem FileDiff.IsStartOf.prefix_places {file whole : FileDiff} (h : file.IsStartOf whole)
    (dir : Directory) : (file.findings dir).map place <+: (whole.findings dir).map place := by
  obtain ⟨path, hunks⟩ := file
  obtain ⟨path', hunks'⟩ := whole
  obtain rfl : path = path' := h.path
  have hplace : ∀ hunk hunk' : Hunk, hunk.IsStartOf hunk' →
      [place (hunk.finding (dir.relative path))] <+:
        [place (hunk'.finding (dir.relative path))] := by
    intro hunk hunk' hhunk
    have hlast : hunk.lastLine = hunk'.lastLine := by
      rw [Hunk.lastLine, Hunk.lastLine, hhunk.oldStart, hhunk.oldLines]
    simp [place, Hunk.finding, Finding.spanning, hhunk.oldStart, hlast]
  rw [FileDiff.findings, FileDiff.findings, List.map_map, List.map_map, List.map_eq_flatMap,
    List.map_eq_flatMap]
  exact h.hunks.prefix_flatMap hplace

theorem parse_eq_ok_iff_run {text : String} {files : List FileDiff} : parse text = .ok files ↔
    ∃ p, Progress.run {} 1 (Text.lines text) = .ok p ∧ files = p.files := by
  rw [parse, bind_eq_ok_iff]
  simp [pure, Except.pure, eq_comm]

theorem findings_eq_ok_iff {dir : Directory} {text : String} {found : List Finding} :
    findings dir text = .ok found ↔
      ∃ files, parse text = .ok files ∧ found = files.flatMap (FileDiff.findings dir) := by
  rw [findings, bind_eq_ok_iff]
  simp [pure, Except.pure, eq_comm]

/-- What is read of the first lines of a text is a start of what is read of the text, and so are
the places of its findings. An error is found as soon as its line is among them. -/
theorem parse_firstLines (text : String) :
    (∀ files, parse text = .ok files → ∀ count, ∃ start,
      parse (Text.firstLines count text) = .ok start ∧
        IsStart FileDiff.IsStartOf start files) ∧
    (∀ dir found, findings dir text = .ok found → ∀ count, ∃ start,
      findings dir (Text.firstLines count text) = .ok start ∧
        start.map place <+: found.map place) ∧
    ∀ e, parse text = .error e → ∀ count,
      (count < e.line → ∃ start, parse (Text.firstLines count text) = .ok start) ∧
      (e.line ≤ count → parse (Text.firstLines count text) = .error e) := by
  have hstart : ∀ files, parse text = .ok files → ∀ count, ∃ start,
      parse (Text.firstLines count text) = .ok start ∧
        IsStart FileDiff.IsStartOf start files := by
    intro files hfiles count
    obtain ⟨p, hrun, rfl⟩ := parse_eq_ok_iff_run.1 hfiles
    rw [← List.take_append_drop count (Text.lines text)] at hrun
    obtain ⟨q, hfirst, hrest⟩ := Progress.run_append_eq_ok_iff.1 hrun
    refine ⟨q.files, ?_, (Progress.accounted_of_run hfirst).isStart_of_run hrest⟩
    rw [← Text.lines_firstLines] at hfirst
    exact parse_eq_ok_iff_run.2 ⟨q, hfirst, rfl⟩
  refine ⟨hstart, ?_, ?_⟩
  · intro dir found hfound count
    obtain ⟨files, hfiles, rfl⟩ := findings_eq_ok_iff.1 hfound
    obtain ⟨start, hparse, hisStart⟩ := hstart files hfiles count
    refine ⟨_, findings_eq_ok_iff.2 ⟨start, hparse, rfl⟩, ?_⟩
    rw [List.map_flatMap, List.map_flatMap]
    exact hisStart.prefix_flatMap fun _ _ h => h.prefix_places dir
  · intro e herror count
    rw [parse_eq_error_iff_run] at herror
    obtain ⟨before, p, hbefore, hfault⟩ := Progress.run_eq_error_iff_faultAt.1 herror
    have hline := hfault.line_eq
    have hlength := hfault.length_lt
    refine ⟨fun hcount => ?_, fun hcount => ?_⟩
    · -- The lines in front of the fault were taken.
      obtain ⟨line, rest, hlines, -, -⟩ := hfault
      have htake : (Text.lines text).take count = before.take count := by
        rw [hlines, List.take_append_of_le_length (by omega)]
      rw [← List.take_append_drop count before] at hbefore
      obtain ⟨q, hfirst, -⟩ := Progress.run_append_eq_ok_iff.1 hbefore
      refine ⟨q.files, parse_eq_ok_iff_run.2 ⟨q, ?_, rfl⟩⟩
      rw [Text.lines_firstLines, htake, hfirst]
    · rw [parse_eq_error_iff_run, Text.lines_firstLines]
      refine Progress.run_eq_error_iff_faultAt.2 ⟨before, p, hbefore, ?_⟩
      rw [← List.take_append_drop count (Text.lines text)] at hfault
      refine hfault.of_append ?_
      rw [List.length_take]
      omega

/-- A diff that breaks off in the body of its first hunk, and one with a fault in its last line. -/
theorem parse_firstLines_body :
    let text := "--- a.md\n+++ a.md\n@@ -1,2 +1 @@\n-x\n--- y\n+z\n@@ -7 +6 @@\n-u\n+v\n"
    let hunk : Hunk := ⟨1, 2, 1, ["-x", "--- y"]⟩
    let files : List FileDiff :=
      [⟨"a.md", [{ hunk with lines := hunk.lines ++ ["+z"] }, ⟨7, 1, 1, ["-u", "+v"]⟩]⟩]
    let dir : Directory := ⟨⟨"."⟩, none⟩
    let broken := text ++ "@@ x\n"
    parse text = .ok files ∧
      (∃ start, parse (Text.firstLines 5 text) = .ok start ∧ start = [⟨"a.md", [hunk]⟩] ∧
        IsStart FileDiff.IsStartOf start files) ∧
      (∃ start, findings dir (Text.firstLines 5 text) = .ok start ∧
        start.map place = [("a.md", 1, 2)] ∧
        start.map place <+: [("a.md", 1, 2), ("a.md", 7, 7)]) ∧
      (∃ start, parse (Text.firstLines 9 broken) = .ok start) ∧
      parse (Text.firstLines 10 broken) = .error (.malformedHeader 10 "@@ x") := by
  intro text hunk files dir broken
  have hfiles : parse text = .ok files := by decide +kernel
  have hcut : parse (Text.firstLines 5 text) = .ok [⟨"a.md", [hunk]⟩] := by decide +kernel
  have hfound : findings dir text = .ok (files.flatMap (FileDiff.findings dir)) :=
    findings_eq_ok_iff.2 ⟨files, hfiles, rfl⟩
  have hplaces : (files.flatMap (FileDiff.findings dir)).map place =
    [("a.md", 1, 2), ("a.md", 7, 7)] := by decide +kernel
  have herror : parse broken = .error (.malformedHeader 10 "@@ x") := by decide +kernel
  obtain ⟨hparse, hfindings, -⟩ := parse_firstLines text
  obtain ⟨-, -, hbroken⟩ := parse_firstLines broken
  obtain ⟨start, hstart, hisStart⟩ := hparse files hfiles 5
  obtain ⟨found, hfirst, hprefix⟩ := hfindings dir _ hfound 5
  refine ⟨hfiles, ⟨start, hstart, Except.ok.inj (hstart.symm.trans hcut), hisStart⟩,
    ⟨found, hfirst, ?_, hplaces ▸ hprefix⟩, (hbroken _ herror 9).1 (by decide),
    (hbroken _ herror 10).2 (by decide)⟩
  obtain ⟨cut, hcutParse, rfl⟩ := findings_eq_ok_iff.1 hfirst
  obtain rfl := Except.ok.inj (hcutParse.symm.trans hcut)
  decide +kernel

end Diff

end LintRun
