import LintRun.Proofs.Diff.Progress
import LintRun.Proofs.Except

/-!
# The lines of a diff

Whatever a text looks like, if it is read as a diff, the bodies of the hunks are lines of the text,
each used once and in order. A body ends with the line that uses up both counts of its hunk, and
remarks can stand behind it. Only the last hunk of a text can lack lines, and then it has all lines
behind its header.

## Main definitions

* `Hunk.EndsAt` says which lines of a body use up the counts of its hunk.
* `AreFrom` says of hunks that they have an end and are made of given lines.
* `Progress.Accounted` is what holds of the files so far and the lines they were read from.

## Main statements

* `Progress.Accounted.step` and `Progress.Accounted.run`: one line, and all lines.
* `parse_accounts_for_lines`: the bodies in a diff and the lines of its text.
-/

namespace LintRun.Diff

/-- All hunks in order. -/
def hunksOf (files : List FileDiff) : List Hunk :=
  files.flatMap FileDiff.hunks

/-- All bodies, one behind the other. -/
def bodies (hunks : List Hunk) : List String :=
  hunks.flatMap Hunk.lines

namespace Hunk

/-- The counts of a hunk are used up by the first `k` lines of its body. A side may be covered by
more lines than it has. -/
structure IsFilledBy (hunk : Hunk) (k : Nat) : Prop where
  le_length : k ≤ hunk.lines.length
  old : hunk.oldLines ≤ (hunk.lines.take k).countP coversOld
  new : hunk.newLines ≤ (hunk.lines.take k).countP coversNew

/-- The counts of a hunk are used up by the first `k` lines and by no fewer, and behind these are
only remarks. -/
structure EndsAt (hunk : Hunk) (k : Nat) : Prop where
  isFilledBy : hunk.IsFilledBy k
  least : ∀ j < k, ¬hunk.IsFilledBy j
  remarks : ∀ line ∈ hunk.lines.drop k, line.toList.head? = some '\\'

/-- The body of a hunk has an end. -/
def IsClosed (hunk : Hunk) : Prop :=
  ∃ k, hunk.EndsAt k

/-- A line is read as the header of a hunk. -/
def IsOpenedBy (hunk : Hunk) (header : String) : Prop :=
  (HunkRange.ofChars? header.toList).bind HunkRange.hunk? = some { hunk with lines := [] }

/-- A hunk lacks lines if one of its counts is not reached. -/
def Lacks (hunk : Hunk) : Prop :=
  hunk.lines.countP coversOld < hunk.oldLines ∨ hunk.lines.countP coversNew < hunk.newLines

variable {hunk : Hunk} {k : Nat}

theorem Lacks.not_isFilledBy (h : hunk.Lacks) (k : Nat) : ¬hunk.IsFilledBy k := by
  intro hk
  have hold := (List.take_sublist k hunk.lines).countP_le (p := coversOld)
  have hnew := (List.take_sublist k hunk.lines).countP_le (p := coversNew)
  rcases h with h | h
  · exact absurd (hk.old.trans hold) (Nat.not_le_of_lt h)
  · exact absurd (hk.new.trans hnew) (Nat.not_le_of_lt h)

theorem isFilledBy_length (h : ¬hunk.Lacks) : hunk.IsFilledBy hunk.lines.length := by
  rw [Lacks, not_or, not_lt, not_lt] at h
  refine ⟨le_rfl, ?_, ?_⟩
  · rw [List.take_length]
    exact h.1
  · rw [List.take_length]
    exact h.2

/-- Lines behind the first ones do not matter. -/
theorem isFilledBy_append_iff (hk : k ≤ hunk.lines.length) (more : List String) :
    IsFilledBy { hunk with lines := hunk.lines ++ more } k ↔ hunk.IsFilledBy k := by
  have htake : (hunk.lines ++ more).take k = hunk.lines.take k := List.take_append_of_le_length hk
  constructor
  · intro h
    exact ⟨hk, htake ▸ h.old, htake ▸ h.new⟩
  · intro h
    refine ⟨?_, ?_, ?_⟩
    · exact hk.trans (by simp)
    · exact htake.symm ▸ h.old
    · exact htake.symm ▸ h.new

/-- The counts of a hunk that lacked lines are not used up in front of one more line. -/
theorem Lacks.not_isFilledBy_concat (h : hunk.Lacks) {line : String}
    (hk : k < (hunk.lines ++ [line]).length) :
    ¬IsFilledBy { hunk with lines := hunk.lines ++ [line] } k := by
  intro hfilled
  have hk : k ≤ hunk.lines.length := by simpa [Nat.lt_succ_iff] using hk
  exact h.not_isFilledBy k ((isFilledBy_append_iff hk [line]).1 hfilled)

/-- A remark behind the end of a body leaves the end where it is. -/
theorem IsClosed.append_remark (h : hunk.IsClosed) {line : String}
    (hline : line.toList.head? = some '\\') :
    IsClosed { hunk with lines := hunk.lines ++ [line] } := by
  obtain ⟨k, hk⟩ := h
  have hlength := hk.isFilledBy.le_length
  refine ⟨k, (isFilledBy_append_iff hlength _).2 hk.isFilledBy, fun j hj hfilled => ?_, ?_⟩
  · exact hk.least j hj ((isFilledBy_append_iff (hj.le.trans hlength) _).1 hfilled)
  · intro other hother
    rw [List.drop_append_of_le_length hlength, List.mem_append, List.mem_singleton] at hother
    rcases hother with hother | rfl
    · exact hk.remarks other hother
    · exact hline

end Hunk

/-- Hunks that have an end, with bodies that are among some lines. -/
structure AreFrom (hunks : List Hunk) (lines : List String) : Prop where
  isClosed : ∀ hunk ∈ hunks, hunk.IsClosed
  sublist : (bodies hunks).Sublist lines

section AreFrom

variable {hunks : List Hunk} {hunk : Hunk} {lines : List String}

theorem bodies_append_last (hunks : List Hunk) (hunk : Hunk) :
    bodies (hunks ++ [hunk]) = bodies hunks ++ hunk.lines := by
  simp [bodies]

/-- A line that is in no body does no harm. -/
theorem AreFrom.skip (h : AreFrom hunks lines) (line : String) : AreFrom hunks (lines ++ [line]) :=
  ⟨h.isClosed, h.sublist.trans (List.sublist_append_left lines [line])⟩

theorem AreFrom.append_hunk (h : AreFrom hunks lines) (hhunk : hunk.IsClosed) (header : String) :
    AreFrom (hunks ++ [hunk]) (lines ++ header :: hunk.lines) := by
  refine ⟨?_, ?_⟩
  · rw [List.forall_mem_append, List.forall_mem_singleton]
    exact ⟨h.isClosed, hhunk⟩
  · rw [bodies_append_last]
    exact h.sublist.append (List.sublist_cons_self header hunk.lines)

theorem AreFrom.append_remark (h : AreFrom (hunks ++ [hunk]) lines) {line : String}
    (hline : line.toList.head? = some '\\') :
    AreFrom (hunks ++ [{ hunk with lines := hunk.lines ++ [line] }]) (lines ++ [line]) := by
  obtain ⟨hclosed, hbodies⟩ := h
  rw [List.forall_mem_append, List.forall_mem_singleton] at hclosed
  rw [bodies_append_last] at hbodies
  refine ⟨?_, ?_⟩
  · rw [List.forall_mem_append, List.forall_mem_singleton]
    exact ⟨hclosed.1, hclosed.2.append_remark hline⟩
  · rw [bodies_append_last, ← List.append_assoc]
    exact hbodies.append (List.Sublist.refl [line])

end AreFrom

theorem hunksOf_append_last (front : List FileDiff) (path : String) (hunks : List Hunk) :
    hunksOf (front ++ [⟨path, hunks⟩]) = hunksOf front ++ hunks := by
  simp [hunksOf]

namespace Progress

/-- The progress behind a line of the latest hunk, which may still lack some. -/
def atHunk (front : List FileDiff) (path : String) (before : List Hunk) (hunk : Hunk)
    (oldPath? : Option String) : Progress :=
  ofFiles (front ++ [⟨path, before ++ [hunk]⟩]) oldPath?
    (hunk.oldLines - hunk.lines.countP coversOld) (hunk.newLines - hunk.lines.countP coversNew)

/-- The files so far and the lines that they were read from. Either all hunks have an end, or the
last one lacks lines and has all lines behind its header. -/
inductive Accounted (taken : List String) : Progress → Prop where
  | closed {files : List FileDiff} {oldPath? : Option String} (h : AreFrom (hunksOf files) taken) :
      Accounted taken (ofFiles files oldPath? 0 0)
  | opened {front : List FileDiff} {path header : String} {before : List Hunk} {hunk : Hunk}
      {oldPath? : Option String} {read : List String} (hlacks : hunk.Lacks)
      (hheader : hunk.IsOpenedBy header) (htaken : taken = read ++ header :: hunk.lines)
      (h : AreFrom (hunksOf front ++ before) read) :
      Accounted taken (atHunk front path before hunk oldPath?)

variable {taken read lines : List String} {line header path : String} {number : Nat}
  {p q : Progress} {files front : List FileDiff} {before : List Hunk} {hunk : Hunk}
  {oldPath? : Option String}

/-- A body that had no end before its last line may have one there. -/
theorem accounted_atHunk (hheader : hunk.IsOpenedBy header)
    (hleast : ∀ j < hunk.lines.length, ¬hunk.IsFilledBy j)
    (h : AreFrom (hunksOf front ++ before) read) :
    Accounted (read ++ header :: hunk.lines) (atHunk front path before hunk oldPath?) := by
  by_cases hlacks : hunk.Lacks
  · exact .opened hlacks hheader rfl h
  · have hfilled := Hunk.isFilledBy_length hlacks
    have hclosed : hunk.IsClosed := ⟨_, hfilled, hleast, by simp⟩
    obtain ⟨-, hold, hnew⟩ := hfilled
    rw [List.take_length] at hold hnew
    rw [atHunk, Nat.sub_eq_zero_of_le hold, Nat.sub_eq_zero_of_le hnew]
    refine .closed ?_
    rw [hunksOf_append_last, ← List.append_assoc]
    exact h.append_hunk hclosed header

/-- A line in a hunk that lacks lines belongs to its body, whatever it looks like. -/
theorem step_atHunk (hlacks : hunk.Lacks) :
    (atHunk front path before hunk oldPath?).step number line =
      .ok (atHunk front path before { hunk with lines := hunk.lines ++ [line] } oldPath?) := by
  have hcount : ∀ (covers : String → Bool) (count : Nat),
      count - hunk.lines.countP covers - (covers line).toNat =
        count - (hunk.lines ++ [line]).countP covers := by
    intro covers count
    rw [Nat.sub_sub, List.countP_append]
    cases h : covers line <;> simp [h]
  rw [atHunk, step_of_open number (hlacks.imp Nat.sub_pos_of_lt Nat.sub_pos_of_lt), hcount, hcount,
    atHunk]

/-- A hunk header opens a hunk of the last file. -/
theorem exists_of_openHunk (h : (ofFiles files oldPath? 0 0).openHunk number line = .ok q) :
    ∃ front path before hunk, files = front ++ [⟨path, before⟩] ∧ hunk.IsOpenedBy line ∧
      hunk.lines = [] ∧ q = ofFiles (front ++ [⟨path, before ++ [hunk]⟩]) oldPath?
        hunk.oldLines hunk.newLines := by
  rw [openHunk] at h
  cases hrange : HunkRange.ofChars? line.toList with
  | none =>
    rw [hrange] at h
    cases h
  | some range =>
    rcases List.eq_nil_or_concat' files with rfl | ⟨front, ⟨path, before⟩, rfl⟩
    · rw [hrange] at h
      cases h
    · cases hhunk : range.hunk? with
      | none => simp [hrange, hhunk, ofFiles] at h
      | some hunk =>
        obtain ⟨oldStart, oldLines, newLines, lines⟩ := hunk
        obtain rfl : lines = [] := lines_of_hunk? hhunk
        refine ⟨front, path, before, ⟨oldStart, oldLines, newLines, []⟩, rfl, ?_, rfl, ?_⟩
        · rw [Hunk.IsOpenedBy, hrange, Option.bind_some, hhunk]
        · rw [hrange] at h
          simpa [hhunk, ofFiles, fileInOrder, hunkInOrder] using h.symm

/-- Only lines with a backslash in front are remarks. -/
theorem head?_of_ofChars_eq_remark {s : List Char} (h : OuterLine.ofChars s = .remark) :
    s.head? = some '\\' := by
  unfold OuterLine.ofChars at h
  split at h
  · rfl
  all_goals cases h

/-- A remark goes to the last hunk if the last file has one, and else is skipped. -/
theorem accounted_addLine (h : AreFrom (hunksOf files) taken)
    (hline : line.toList.head? = some '\\') :
    Accounted (taken ++ [line]) { ofFiles files oldPath? 0 0 with
      reversed := addLine line (ofFiles files oldPath? 0 0).reversed } := by
  rcases List.eq_nil_or_concat' files with rfl | ⟨front, ⟨path, hunks⟩, rfl⟩
  · exact .closed (h.skip line)
  rcases List.eq_nil_or_concat' hunks with rfl | ⟨before, hunk, rfl⟩
  · have hadd : addLine line (ofFiles (front ++ [⟨path, []⟩]) oldPath? 0 0).reversed =
        (ofFiles (front ++ [⟨path, []⟩]) oldPath? 0 0).reversed := by
      simp [addLine, addLine?, ofFiles, fileInOrder]
    rw [hadd]
    exact .closed (h.skip line)
  · rw [hunksOf_append_last, ← List.append_assoc] at h
    rw [addLine_ofFiles]
    refine .closed ?_
    rw [hunksOf_append_last, ← List.append_assoc]
    exact h.append_remark hline

/-- A line outside of a hunk is skipped, or is a remark or a header. -/
theorem accounted_takeOuter (h : AreFrom (hunksOf files) taken)
    (hstep : (ofFiles files oldPath? 0 0).takeOuter number line = .ok q) :
    Accounted (taken ++ [line]) q := by
  rw [takeOuter] at hstep
  cases hkind : OuterLine.ofChars line.toList with
  | remark =>
    rw [hkind] at hstep
    obtain rfl := Except.ok.inj hstep
    exact accounted_addLine h (head?_of_ofChars_eq_remark hkind)
  | oldFile rest =>
    rw [hkind] at hstep
    obtain rfl := Except.ok.inj hstep
    exact .closed (h.skip line)
  | newFile rest =>
    rw [hkind] at hstep
    obtain rfl := Except.ok.inj hstep
    let file : FileDiff := ⟨newPath oldPath? (headerPath rest), []⟩
    -- The new file has no hunks yet.
    have hhunks : hunksOf (files ++ [file]) = hunksOf files := by
      rw [hunksOf_append_last, List.append_nil]
    have hq : { ofFiles files oldPath? 0 0 with
        reversed := file :: (ofFiles files oldPath? 0 0).reversed
        oldPath? := none } = ofFiles (files ++ [file]) none 0 0 := by
      simp [ofFiles, fileInOrder, file]
    exact hq ▸ .closed (hhunks.symm ▸ h.skip line)
  | hunk =>
    rw [hkind] at hstep
    obtain ⟨front, path, before, hunk, rfl, hopened, hlines, rfl⟩ := exists_of_openHunk hstep
    rw [hunksOf_append_last] at h
    have hlatest : Accounted (taken ++ line :: hunk.lines)
        (atHunk front path before hunk oldPath?) :=
      accounted_atHunk hopened (by simp [hlines]) h
    simpa [atHunk, hlines] using hlatest
  | chatter =>
    rw [hkind] at hstep
    obtain rfl := Except.ok.inj hstep
    exact .closed (h.skip line)

/-- Every line is accounted for, inside and outside of hunks. -/
theorem Accounted.step (h : Accounted taken p) (hstep : p.step number line = .ok q) :
    Accounted (taken ++ [line]) q := by
  cases h with
  | closed h =>
    rw [Progress.step, if_neg (by simp [isOpen, ofFiles])] at hstep
    exact accounted_takeOuter h hstep
  | @opened front path header before hunk oldPath? read hlacks hheader htaken h =>
    rw [step_atHunk hlacks] at hstep
    obtain rfl := Except.ok.inj hstep
    let grown : Hunk := { hunk with lines := hunk.lines ++ [line] }
    have hheader : grown.IsOpenedBy header := hheader
    have hleast : ∀ j < grown.lines.length, ¬grown.IsFilledBy j := fun j hj =>
      hlacks.not_isFilledBy_concat hj
    rw [htaken, List.append_assoc, List.cons_append]
    exact accounted_atHunk hheader hleast h

theorem Accounted.run (h : Accounted taken p) (hrun : p.run number lines = .ok q) :
    Accounted (taken ++ lines) q := by
  induction lines generalizing taken p number with
  | nil =>
    obtain rfl := Except.ok.inj hrun
    rwa [List.append_nil]
  | cons line rest ih =>
    obtain ⟨next, hstep, hrest⟩ := bind_eq_ok_iff.1 hrun
    rw [List.append_cons]
    exact ih (h.step hstep) hrest

end Progress

/-- If a text is read as a diff, the bodies of all hunks are lines of the text, each used once and
in order. All hunks but the last one have their lines: there is a first line by which both counts
are used up, and only remarks are behind it. So has the last hunk, or no line uses its counts up,
and then its body is all that the text has behind its header. -/
theorem parse_accounts_for_lines {text : String} {files : List FileDiff}
    (h : parse text = .ok files) :
    (bodies (hunksOf files)).Sublist (Text.lines text) ∧
    (∀ hunk ∈ (hunksOf files).dropLast, hunk.IsClosed) ∧
    ∀ hunk, (hunksOf files).getLast? = some hunk → hunk.IsClosed ∨
      (∀ k, ¬hunk.IsFilledBy k) ∧ ∃ front path before, files = front ++ [⟨path, before ++ [hunk]⟩] ∧
        ∃ read header, Text.lines text = read ++ header :: hunk.lines ∧ hunk.IsOpenedBy header ∧
          (bodies (hunksOf front ++ before)).Sublist read := by
  obtain ⟨p, hrun, hfiles⟩ := bind_eq_ok_iff.1 h
  obtain rfl := Except.ok.inj hfiles
  have hstart : Progress.Accounted [] (Progress.ofFiles [] none 0 0) :=
    .closed ⟨List.forall_mem_nil _, List.Sublist.refl []⟩
  have hend := hstart.run hrun
  rw [List.nil_append] at hend
  generalize Text.lines text = lines at hend
  cases hend with
  | closed hfrom =>
    rw [Progress.files_ofFiles]
    exact ⟨hfrom.sublist, fun hunk hmem => hfrom.isClosed hunk ((List.dropLast_sublist _).mem hmem),
      fun hunk hlast => .inl (hfrom.isClosed hunk (List.mem_of_getLast? hlast))⟩
  | @opened front path header before hunk _ read hlacks hheader htaken hfrom =>
    have hhunks : hunksOf (front ++ [⟨path, before ++ [hunk]⟩]) =
        hunksOf front ++ before ++ [hunk] := by
      rw [hunksOf_append_last, List.append_assoc]
    rw [Progress.atHunk, Progress.files_ofFiles, hhunks]
    refine ⟨?_, ?_, ?_⟩
    · rw [bodies_append_last, htaken]
      exact hfrom.sublist.append (List.sublist_cons_self header hunk.lines)
    · rw [List.dropLast_concat]
      exact hfrom.isClosed
    · intro last hlast
      obtain rfl : hunk = last := by simpa using hlast
      exact .inr ⟨hlacks.not_isFilledBy, front, path, before, rfl, read, header, htaken, hheader,
        hfrom.sublist⟩

/-- The first hunk removes more than it says, and still ends behind the lines that it adds. The
second hunk says more than there is. -/
theorem parse_accounts_for_lines_of_truncated :
    let text := "--- a.py\n+++ a.py\n@@ -1 +1,2 @@\n-x\n-y\n+z\n+++ w\n\\ No newline\nnoise\n" ++
      "@@ -7,3 +7 @@\n-p\n"
    let first : Hunk := ⟨1, 1, 2, ["-x", "-y", "+z", "+++ w", "\\ No newline"]⟩
    let last : Hunk := ⟨7, 3, 1, ["-p"]⟩
    parse text = .ok [⟨"a.py", [first, last]⟩] ∧ first.IsClosed ∧ ¬last.IsClosed ∧
      (first.lines ++ last.lines).Sublist (Text.lines text) ∧
      ∃ read header, Text.lines text = read ++ header :: last.lines := by
  intro text first last
  have hparse : parse text = .ok [⟨"a.py", [first, last]⟩] := by decide +kernel
  have hlacks : last.Lacks := .inl (by decide)
  have hopen : ¬last.IsClosed := fun ⟨k, hk⟩ => hlacks.not_isFilledBy k hk.isFilledBy
  obtain ⟨hbodies, hclosed, hlast⟩ := parse_accounts_for_lines hparse
  refine ⟨hparse, hclosed first List.mem_cons_self, hopen, hbodies, ?_⟩
  obtain ⟨-, -, -, -, -, read, header, hlines, -⟩ := (hlast last rfl).resolve_left hopen
  exact ⟨read, header, hlines⟩

end LintRun.Diff
