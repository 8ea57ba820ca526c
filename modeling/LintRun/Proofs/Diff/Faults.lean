import LintRun.Proofs.Diff.Moves

/-!
# Texts that are no diff

Only a line outside of the hunks can be at fault. Such a line looks like a hunk header, and it does
not have the form of one, or there is no file for it, or its numbers cannot be read. The first line
at fault decides the error.

## Main definitions

* `IsOuter` says which lines are outside of the hunks. It follows the lines and their counts, and
  knows nothing of the progress through them.
* `IsFault` says what is wrong with a line, and `FaultAt` that a line of a text is at fault.

## Main statements

* `Progress.Found.run`: the lines that were taken tell whether a hunk is open.
* `Progress.step_eq_error_iff`: outside of the hunks a line is refused if it is at fault.
* `parse_refuses_first_fault`: when a text is refused, and with which error.
-/

namespace LintRun.Diff

/-- Whether a line behind the given ones is outside of the hunks. It is not if the line in front of
it is the header of a hunk or in the body of one, and the counts of that hunk are not used up. -/
inductive IsOuter : List String → Prop where
  | start : IsOuter []
  | other {before : List String} {line : String} (h : IsOuter before)
      (hline : ∀ hunk : Hunk, ¬hunk.HasHeader line) : IsOuter (before ++ [line])
  | body {before : List String} {header : String} {hunk : Hunk} (h : IsOuter before)
      (hheader : hunk.HasHeader header) (hends : hunk.EndsAt hunk.lines.length) :
      IsOuter (before ++ header :: hunk.lines)

/-- A header for the new side of a file is among the lines, outside of the hunks. -/
def HasFile (lines : List String) : Prop :=
  ∃ before line rest, lines = before ++ line :: rest ∧ IsOuter before ∧
    "+++ ".toList <+: line.toList

/-- What is wrong with a line outside of the hunks that is behind the given lines. -/
inductive IsFault (before : List String) (line : String) : Error → Prop where
  | noForm (hmark : "@@".toList <+: line.toList)
      (hform : ∀ range : HunkRange, ¬range.IsFormOf line) :
      IsFault before line (.malformedHeader (before.length + 1) line)
  | noFile {range : HunkRange} (hform : range.IsFormOf line) (hfile : ¬HasFile before) :
      IsFault before line (.orphanHunk (before.length + 1))
  | noCount {range : HunkRange} (hform : range.IsFormOf line) (hfile : HasFile before)
      (hcount : ¬range.IsReadable) :
      IsFault before line (.malformedHeader (before.length + 1) line)

/-- The line behind the lines `before` of a text is outside of the hunks and at fault. -/
def FaultAt (lines before : List String) (e : Error) : Prop :=
  ∃ line rest, lines = before ++ line :: rest ∧ IsOuter before ∧ IsFault before line e

/-! ## Headers and bodies -/

/-- A line is the header of one hunk only, apart from the body. -/
theorem Hunk.HasHeader.eq_of_hasHeader {hunk hunk' : Hunk} {line : String}
    (h : hunk.HasHeader line) (h' : hunk'.HasHeader line) :
    { hunk with lines := [] } = { hunk' with lines := [] } := by
  rw [← isOpenedBy_iff_hasHeader] at h h'
  exact Option.some.inj (h.symm.trans h')

/-- What does not use up the counts of a hunk lacks lines. -/
theorem Hunk.lacks_take {hunk : Hunk} {j : Nat} (hj : j ≤ hunk.lines.length)
    (h : ¬hunk.IsFilledBy j) : Lacks { hunk with lines := hunk.lines.take j } := by
  by_contra hlacks
  rw [Lacks, not_or, not_lt, not_lt] at hlacks
  exact h ⟨hj, hlacks.1, hlacks.2⟩

/-! ## Lines and files -/

section HasFile

variable {before : List String} {line : String}

theorem HasFile.append (h : HasFile before) (more : List String) : HasFile (before ++ more) := by
  obtain ⟨front, line, rest, rfl, houter, hmark⟩ := h
  exact ⟨front, line, rest ++ more, by simp, houter, hmark⟩

theorem hasFile_append_singleton_iff (houter : IsOuter before) :
    HasFile (before ++ [line]) ↔ HasFile before ∨ "+++ ".toList <+: line.toList := by
  constructor
  · rintro ⟨front, other, rest, hlines, hfront, hmark⟩
    rcases List.eq_nil_or_concat' rest with rfl | ⟨rest, last, rfl⟩
    · obtain ⟨rfl, hline⟩ := List.append_inj' hlines rfl
      obtain rfl : line = other := List.singleton_inj.1 hline
      exact .inr hmark
    · rw [← List.cons_append, ← List.append_assoc] at hlines
      obtain ⟨rfl, -⟩ := List.append_inj' hlines rfl
      exact .inl ⟨front, other, rest, rfl, hfront, hmark⟩
  · rintro (h | hmark)
    · exact h.append [line]
    · exact ⟨before, line, [], rfl, houter, hmark⟩

end HasFile

namespace Progress

variable {before lines : List String} {line header path : String} {number : Nat}
  {p q : Progress} {files front : List FileDiff} {hunks : List Hunk} {hunk : Hunk}
  {oldPath? : Option String} {e : Error}

/-- The lines that were taken, and the progress that they make. Either the next line is outside of
the hunks, or the last hunk lacks lines and all lines behind its header are in its body. -/
inductive Found (before : List String) : Progress → Prop where
  | outside {files : List FileDiff} {oldPath? : Option String} (houter : IsOuter before)
      (hfile : HasFile before ↔ files ≠ []) : Found before (ofFiles files oldPath? 0 0)
  | inside {front : List FileDiff} {path header : String} {hunks : List Hunk} {hunk : Hunk}
      {oldPath? : Option String} {earlier : List String}
      (hbefore : before = earlier ++ header :: hunk.lines) (houter : IsOuter earlier)
      (hfile : HasFile earlier) (hheader : hunk.HasHeader header) (hlacks : hunk.Lacks) :
      Found before (atHunk front path hunks hunk oldPath?)

/-- A body whose counts were not used up before its last line. -/
theorem found_atHunk (houter : IsOuter before) (hfile : HasFile before)
    (hheader : hunk.HasHeader header) (hleast : ∀ j < hunk.lines.length, ¬hunk.IsFilledBy j) :
    Found (before ++ header :: hunk.lines) (atHunk front path hunks hunk oldPath?) := by
  by_cases hlacks : hunk.Lacks
  · exact .inside rfl houter hfile hheader hlacks
  · have hends : hunk.EndsAt hunk.lines.length :=
      ⟨Hunk.isFilledBy_length hlacks, hleast, by simp⟩
    rw [atHunk_eq_ofFiles hlacks]
    exact .outside (.body houter hheader hends) (iff_of_true (hfile.append _) (by simp))

theorem Found.step (h : Found before p) (hstep : p.step number line = .ok q) :
    Found (before ++ [line]) q := by
  cases h with
  | @outside files oldPath? houter hfile =>
    rcases step_cases hstep with ⟨files', left?, rfl, hline, hnext⟩ |
      ⟨front, path, hunks, hunk, rfl, hheader, hnil, rfl⟩
    · refine .outside (.other houter hline) ?_
      rw [hasFile_append_singleton_iff houter, hfile]
      cases hnext with
      | skip hmark => exact or_iff_left hmark
      | remark => exact iff_of_true (.inl (by simp)) (by simp)
      | file path hmark => exact iff_of_true (.inr hmark) (by simp)
    · have hfile : HasFile before := hfile.2 (by simp)
      have hfound : Found (before ++ line :: hunk.lines) (atHunk front path hunks hunk oldPath?) :=
        found_atHunk houter hfile hheader (by simp [hnil])
      rwa [hnil] at hfound
  | @inside front path header hunks hunk oldPath? earlier hbefore houter hfile hheader hlacks =>
    rw [step_atHunk hlacks] at hstep
    obtain rfl := Except.ok.inj hstep
    let grown : Hunk := { hunk with lines := hunk.lines ++ [line] }
    have hheader : grown.HasHeader header := hheader
    have hleast : ∀ j < grown.lines.length, ¬grown.IsFilledBy j := fun j hj =>
      hlacks.not_isFilledBy_concat hj
    rw [hbefore, List.append_assoc, List.cons_append]
    exact found_atHunk houter hfile hheader hleast

/-- The lines that were taken tell where the progress through them is. -/
theorem found_of_run (hrun : run {} 1 before = .ok p) : Found before p := by
  induction before using List.reverseRecOn generalizing p with
  | nil =>
    obtain rfl := Except.ok.inj hrun
    show Found [] (ofFiles [] none 0 0)
    refine .outside .start (iff_of_false ?_ (by simp))
    rintro ⟨front, line, rest, hlines, -⟩
    simp at hlines
  | append_singleton before line ih =>
    obtain ⟨q, hbefore, hline⟩ := run_append_eq_ok_iff.1 hrun
    obtain ⟨r, hstep, hend⟩ := bind_eq_ok_iff.1 hline
    obtain rfl := Except.ok.inj hend
    exact (ih hbefore).step hstep

/-- Where the lines say that the next line is outside of the hunks, no hunk is open. -/
theorem exists_of_isOuter (houter : IsOuter before) (hrun : run {} 1 before = .ok p) :
    ∃ files left?, p = ofFiles files left? 0 0 := by
  induction houter generalizing p with
  | start =>
    obtain rfl := Except.ok.inj hrun
    exact ⟨[], none, rfl⟩
  | @other before line houter hline ih =>
    obtain ⟨q, hbefore, hlast⟩ := run_append_eq_ok_iff.1 hrun
    obtain ⟨r, hstep, hend⟩ := bind_eq_ok_iff.1 hlast
    obtain rfl := Except.ok.inj hend
    obtain ⟨files, oldPath?, rfl⟩ := ih hbefore
    rcases step_cases hstep with ⟨files', left?, rfl, -⟩ | ⟨_, _, _, hunk, -, hheader, -⟩
    · exact ⟨files', left?, rfl⟩
    · exact absurd hheader (hline hunk)
  | @body before header hunk houter hheader hends ih =>
    obtain ⟨q, hbefore, hlast⟩ := run_append_eq_ok_iff.1 hrun
    obtain ⟨r, hstep, hbody⟩ := bind_eq_ok_iff.1 hlast
    obtain ⟨files, oldPath?, rfl⟩ := ih hbefore
    rcases step_cases hstep with ⟨_, _, -, hline, -⟩ |
      ⟨front, path, hunks, opened, rfl, hopened, hnil, rfl⟩
    · exact absurd hheader (hline hunk)
    · -- The header opens the hunk that the body belongs to.
      obtain rfl : opened = { hunk with lines := [] } := by
        rw [← hopened.eq_of_hasHeader hheader, ← hnil]
      have hlacks := fun j hj => Hunk.lacks_take (Nat.le_of_lt hj) (hends.least j hj)
      rw [run_atHunk hunk.lines { hunk with lines := [] } _ hlacks] at hbody
      obtain rfl := Except.ok.inj hbody
      exact ⟨_, _, atHunk_eq_ofFiles fun h => h.not_isFilledBy _ hends.isFilledBy⟩

/-- A line that looks like a hunk header is refused if it is at fault. -/
theorem openHunk_eq_error_iff (hfile : HasFile before ↔ files ≠ [])
    (hmark : "@@".toList <+: line.toList) :
    (ofFiles files oldPath? 0 0).openHunk (before.length + 1) line = .error e ↔
      IsFault before line e := by
  rw [openHunk]
  cases hrange : HunkRange.ofChars? line.toList with
  | none =>
    have hform : ∀ range : HunkRange, ¬range.IsFormOf line := by
      intro range h
      rw [HunkRange.ofChars?_eq_some_iff_isFormOf.2 h] at hrange
      cases hrange
    constructor
    · rintro ⟨⟩
      exact .noForm hmark hform
    · rintro (_ | ⟨h, _⟩ | ⟨h, _, _⟩)
      · rfl
      · exact absurd h (hform _)
      · exact absurd h (hform _)
  | some range =>
    have hform : range.IsFormOf line := HunkRange.ofChars?_eq_some_iff_isFormOf.1 hrange
    have hunique : ∀ range' : HunkRange, range'.IsFormOf line → range' = range := by
      intro range' h
      rw [HunkRange.ofChars?_eq_some_iff_isFormOf.2 h] at hrange
      exact Option.some.inj hrange
    rcases List.eq_nil_or_concat' files with rfl | ⟨front, file, rfl⟩
    · have hnone : ¬HasFile before := fun h => hfile.1 h rfl
      constructor
      · rintro ⟨⟩
        exact .noFile hform hnone
      · rintro (⟨_, h⟩ | _ | ⟨_, h, _⟩)
        · exact absurd hform (h range)
        · rfl
        · exact absurd h hnone
    · have hsome : HasFile before := hfile.2 (by simp)
      have hlatest : (ofFiles (front ++ [file]) oldPath? 0 0).reversed =
          fileInOrder file :: (front.map fileInOrder).reverse := by simp [ofFiles]
      cases hhunk : range.hunk? with
      | none =>
        have hcount : ¬range.IsReadable := HunkRange.hunk?_eq_none_iff.1 hhunk
        rw [hlatest]
        dsimp only
        rw [hhunk]
        constructor
        · rintro ⟨⟩
          exact .noCount hform hsome hcount
        · rintro (_ | ⟨_, h⟩ | _)
          · rfl
          · exact absurd hsome h
          · rfl
      | some hunk =>
        have hcount : range.IsReadable := (HunkRange.hunk?_eq_some_iff.1 hhunk).1
        rw [hlatest]
        dsimp only
        rw [hhunk]
        constructor
        · rintro ⟨⟩
        · rintro (⟨_, h⟩ | ⟨_, h⟩ | ⟨h, _, hcount'⟩)
          · exact absurd hform (h range)
          · exact absurd hsome h
          · rw [hunique _ h] at hcount'
            exact absurd hcount hcount'

/-- Outside of the hunks, a line is refused if it is at fault. -/
theorem step_eq_error_iff (hfile : HasFile before ↔ files ≠ []) :
    (ofFiles files oldPath? 0 0).step (before.length + 1) line = .error e ↔
      IsFault before line e := by
  rw [step, if_neg (by simp [isOpen, ofFiles]), takeOuter]
  by_cases hmark : "@@".toList <+: line.toList
  · rw [OuterLine.ofChars_eq_hunk_iff.2 hmark]
    exact openHunk_eq_error_iff hfile hmark
  · refine iff_of_false (fun h => ?_) fun h => ?_
    · cases hkind : OuterLine.ofChars line.toList with
      | hunk => exact hmark (OuterLine.ofChars_eq_hunk_iff.1 hkind)
      | _ =>
        rw [hkind] at h
        cases h
    · cases h with
      | noForm hmark' => exact hmark hmark'
      | noFile hform => exact hmark hform.starts_marked
      | noCount hform => exact hmark hform.starts_marked

theorem hasFile_iff_of_run (hrun : run {} 1 before = .ok p) : HasFile before ↔ p.files ≠ [] := by
  cases found_of_run hrun with
  | outside houter hfile => rwa [files_ofFiles]
  | inside hbefore houter hfile =>
    rw [hbefore, atHunk, files_ofFiles]
    exact iff_of_true (hfile.append _) (by simp)

/-- A run fails at a fault behind lines that were taken. -/
theorem run_eq_error_iff_faultAt : run {} 1 lines = .error e ↔
    ∃ before p, run {} 1 before = .ok p ∧ FaultAt lines before e := by
  rw [run_eq_error_iff]
  constructor
  · rintro ⟨before, line, rest, p, rfl, hrun, hstep⟩
    rw [Nat.add_comm] at hstep
    cases found_of_run hrun with
    | outside houter hfile =>
      exact ⟨before, _, hrun, line, rest, rfl, houter, (step_eq_error_iff hfile).1 hstep⟩
    | inside _ _ _ _ hlacks =>
      -- An open hunk takes any line.
      rw [step_atHunk hlacks] at hstep
      cases hstep
  · rintro ⟨before, p, hrun, line, rest, rfl, houter, hfault⟩
    have hfile := hasFile_iff_of_run hrun
    obtain ⟨files, left?, rfl⟩ := exists_of_isOuter houter hrun
    rw [files_ofFiles] at hfile
    refine ⟨before, line, rest, _, rfl, hrun, ?_⟩
    rw [Nat.add_comm]
    exact (step_eq_error_iff hfile).2 hfault

end Progress

section FaultAt

variable {lines before more : List String} {e : Error}

theorem FaultAt.append (h : FaultAt lines before e) (more : List String) :
    FaultAt (lines ++ more) before e := by
  obtain ⟨line, rest, rfl, houter, hfault⟩ := h
  exact ⟨line, rest ++ more, by simp, houter, hfault⟩

theorem FaultAt.length_lt (h : FaultAt lines before e) : before.length < lines.length := by
  obtain ⟨line, rest, rfl, -, -⟩ := h
  simp

theorem FaultAt.of_append (h : FaultAt (lines ++ more) before e)
    (hlength : before.length < lines.length) : FaultAt lines before e := by
  obtain ⟨line, rest, hlines, houter, hfault⟩ := h
  rcases List.append_eq_append_iff.1 hlines with ⟨behind, rfl, -⟩ | ⟨behind, rfl, hbehind⟩
  · rw [List.length_append] at hlength
    omega
  · cases behind with
    | nil => simp at hlength
    | cons other behind =>
      obtain ⟨rfl, -⟩ := List.cons.inj hbehind
      exact ⟨line, behind, rfl, houter, hfault⟩

end FaultAt

theorem parse_eq_error_iff_run {text : String} {e : Error} :
    parse text = .error e ↔ Progress.run {} 1 (Text.lines text) = .error e := by
  rw [parse, bind_eq_error_iff]
  simp [pure, Except.pure]

/-- Lines that are taken are not at fault. -/
theorem not_faultAt_of_run {lines before : List String} {p : Progress} {e : Error}
    (hrun : Progress.run {} 1 lines = .ok p) : ¬FaultAt lines before e := by
  intro hfault
  obtain ⟨line, rest, rfl, -, -⟩ := id hfault
  obtain ⟨q, hbefore, -⟩ := Progress.run_append_eq_ok_iff.1 hrun
  rw [Progress.run_eq_error_iff_faultAt.2 ⟨before, q, hbefore, hfault⟩] at hrun
  cases hrun

/-- A text is refused if a line outside of its hunks is at fault, and the first such line decides
the error. A line of a body never is: while a hunk is open, the last file has a hunk to take it. -/
theorem parse_refuses_first_fault (text : String) :
    (∀ e, parse text = .error e ↔ ∃ before, FaultAt (Text.lines text) before e ∧
      ∀ earlier e', earlier.length < before.length → ¬FaultAt (Text.lines text) earlier e') ∧
    ((∃ e, parse text = .error e) ↔ ∃ before e, FaultAt (Text.lines text) before e) ∧
    ∀ before rest p, Text.lines text = before ++ rest → Progress.run {} 1 before = .ok p →
      p.isOpen = true →
        (∃ front path hunks hunk, p.files = front ++ [⟨path, hunks ++ [hunk]⟩]) ∧
        ∀ line, ∃ q, p.takeBody (before.length + 1) line = .ok q := by
  generalize hlines : Text.lines text = lines
  have hparse : ∀ e, parse text = .error e ↔ Progress.run {} 1 lines = .error e := fun e => by
    rw [parse_eq_error_iff_run, hlines]
  simp only [hparse]
  refine ⟨fun e => ⟨fun h => ?_, ?_⟩, ⟨?_, ?_⟩, ?_⟩
  · obtain ⟨before, p, hbefore, hfault⟩ := Progress.run_eq_error_iff_faultAt.1 h
    refine ⟨before, hfault, fun earlier e' hlength hearlier => ?_⟩
    obtain ⟨line, rest, rfl, -, -⟩ := id hfault
    exact not_faultAt_of_run hbefore (hearlier.of_append hlength)
  · rintro ⟨before, hfault, hfirst⟩
    obtain ⟨line, rest, rfl, -, -⟩ := id hfault
    refine Progress.run_eq_error_iff_faultAt.2 ⟨before, ?_⟩
    cases hbefore : Progress.run {} 1 before with
    | ok p => exact ⟨p, rfl, hfault⟩
    | error e' =>
      -- An error behind fewer lines would be that of an earlier fault.
      obtain ⟨earlier, p, -, hearlier⟩ := Progress.run_eq_error_iff_faultAt.1 hbefore
      exact absurd (hearlier.append _) (hfirst earlier e' hearlier.length_lt)
  · rintro ⟨e, h⟩
    obtain ⟨before, -, -, hfault⟩ := Progress.run_eq_error_iff_faultAt.1 h
    exact ⟨before, e, hfault⟩
  · rintro ⟨before, e, hfault⟩
    cases hrun : Progress.run {} 1 lines with
    | ok p => exact absurd hfault (not_faultAt_of_run hrun)
    | error e' => exact ⟨e', rfl⟩
  · intro before rest p _ hrun hopen
    cases Progress.found_of_run hrun with
    | outside => simp [Progress.isOpen, Progress.ofFiles] at hopen
    | @inside front path _ hunks hunk _ _ _ _ _ _ hlacks =>
      refine ⟨⟨front, path, hunks, hunk, Progress.files_ofFiles _ _ _ _⟩, fun line => ?_⟩
      rw [← Progress.step_of_isOpen hopen]
      exact ⟨_, Progress.step_atHunk hlacks⟩

/-- A line in a body is not at fault, whatever it looks like. Behind it, digits of another script
are the form of a number and no number. -/
example : parse "--- a.md\n+++ a.md\n@@ -1 +1 @@\n@@ x\n@@ -1,٣ +1 @@\n@@ y\n" =
    .error (.malformedHeader 5 "@@ -1,٣ +1 @@") := by
  decide +kernel

end LintRun.Diff
