import LintRun.Diff.Findings
import LintRun.Proofs.Diff.Progress
import LintRun.Proofs.List
import LintRun.Proofs.Text.Trim

/-!
# Reading trimmed diffs

Blanks behind a diff go to the body of the last hunk, if they are taken as a part of a hunk at all.
They open no hunk, and they do not turn a diff into none or the other way round.

## Main definitions

* `Alike` relates readings that succeed alike or fail alike, and `Error.withoutText` is what an
  error says apart from the text of the line.
* `PaddedFiles` relates what is read from a trimmed diff to what is read from the diff itself.
* `TrimmedLast` relates findings that differ in blanks at the end of the last message.

## Main statements

* `HunkRange.ofChars?_append_blank`: blanks behind a line do not make it a hunk header.
* `Progress.alike_run`: lines without blanks behind them are read like the lines with them.
* `alike_findings_trim`: a trimmed diff has the same findings, up to blanks at the end of the last.
-/

namespace LintRun.Text

/-- A character is not in two tables whose ranges do not meet. -/
theorem inRanges_eq_false_of_disjoint {table table' : List (Nat × Nat)}
    (hdisjoint : ∀ range ∈ table, ∀ range' ∈ table', range.2 < range'.1 ∨ range'.2 < range.1)
    {c : Char} (hc : inRanges table c = true) : inRanges table' c = false := by
  rw [inRanges, List.any_eq_true] at hc
  obtain ⟨range, hrange, hin⟩ := hc
  rw [inRanges, List.any_eq_false]
  intro range' hrange' hin'
  simp only [Bool.and_eq_true, decide_eq_true_eq] at hin hin'
  have hapart := hdisjoint range hrange range' hrange'
  omega

theorem isDecimal_of_isBlank {c : Char} (hc : isBlank c = true) : isDecimal c = false :=
  inRanges_eq_false_of_disjoint (by decide) hc

/-- Blanks behind a list are behind the rest of a run of digits as well. -/
theorem digits?_append_blank (s : List Char) {pad : List Char} (hpad : AllBlank pad) :
    digits? (s ++ pad) = (digits? s).map fun (run, rest) => (run, rest ++ pad) := by
  have hrest : ∀ c, (s.dropWhile isDecimal ++ pad).head? = some c → isDecimal c = false := by
    intro c hc
    cases hdrop : s.dropWhile isDecimal with
    | nil =>
      rw [hdrop, List.nil_append] at hc
      exact isDecimal_of_isBlank (hpad c (List.mem_of_head? hc))
    | cons d rest =>
      have hnot := List.head?_dropWhile_not isDecimal s
      rw [hdrop] at hnot hc
      obtain rfl : d = c := by simpa using hc
      simpa using hnot
  obtain ⟨htake, hdrop⟩ := LintRun.takeWhile_append_of_stop
    (fun c hc => List.mem_takeWhile_imp (l := s) hc) hrest
  rw [← List.append_assoc, List.takeWhile_append_dropWhile] at htake hdrop
  rw [digits?, digits?, htake, hdrop]
  cases s.takeWhile isDecimal <;> rfl

end LintRun.Text

namespace LintRun.Diff

open Text (AllBlank EndsSolid)

/-! ## Headers -/

section Headers

variable {pad : List Char} (hpad : AllBlank pad)

include hpad

/-- What ends with a mark that is not blank ends in front of the blanks. -/
theorem append_blank_eq_append_iff {s mark rest : List Char} (hmark : EndsSolid mark) :
    s ++ pad = mark ++ rest ↔ ∃ tail, s = mark ++ tail ∧ rest = tail ++ pad := by
  refine ⟨fun h => ?_, ?_⟩
  · rcases List.append_eq_append_iff.1 h with ⟨more, rfl, hblank⟩ | ⟨tail, htail, hrest⟩
    · -- The end of the mark is not among the blanks.
      obtain ⟨c, hlast, hsolid⟩ := hmark
      cases hmore : more.getLast? with
      | none =>
        obtain rfl : more = [] := List.getLast?_eq_none_iff.1 hmore
        exact ⟨[], by simp, hblank.symm⟩
      | some d =>
        obtain rfl : d = c := by simpa [List.getLast?_append, hmore] using hlast
        have hd := hpad d (hblank ▸ List.mem_append_left _ (List.mem_of_getLast? hmore))
        rw [hsolid] at hd
        cases hd
    · exact ⟨tail, htail, hrest⟩
  · rintro ⟨tail, rfl, rfl⟩
    rw [List.append_assoc]

theorem range?_append_blank (s : List Char) :
    range? (s ++ pad) = (range? s).map fun (range, rest) => (range, rest ++ pad) := by
  rw [range?, range?, Text.digits?_append_blank s hpad]
  cases hstart : Text.digits? s with
  | none => rfl
  | some found =>
    obtain ⟨start, rest⟩ := found
    simp only [Option.map_some, Option.bind_eq_bind, Option.bind_some]
    cases rest with
    | nil =>
      -- There is no count, and none begins with a blank.
      rw [List.nil_append]
      split
      · next more =>
        have hcomma := hpad ',' List.mem_cons_self
        cases hcomma
      · rfl
    | cons c rest =>
      by_cases hcomma : c = ','
      · subst hcomma
        simp only [List.cons_append, Text.digits?_append_blank rest hpad]
        cases Text.digits? rest <;> rfl
      · rw [List.cons_append]
        split
        · next h => exact absurd (List.cons.inj h).1 hcomma
        · split
          · next h => exact absurd (List.cons.inj h).1 hcomma
          · rfl

/-- A range and the mark behind it end in front of the blanks. -/
theorem range?_append_blank_eq_some_iff {s mark rest : List Char}
    {range : List Char × Option (List Char)} (hmark : EndsSolid mark) :
    range? (s ++ pad) = some (range, mark ++ rest) ↔
      ∃ tail, range? s = some (range, mark ++ tail) ∧ rest = tail ++ pad := by
  rw [range?_append_blank hpad, Option.map_eq_some_iff]
  constructor
  · rintro ⟨⟨found, behind⟩, hs, heq⟩
    obtain ⟨rfl, hbehind⟩ := Prod.mk.inj heq
    obtain ⟨tail, rfl, hrest⟩ := (append_blank_eq_append_iff hpad hmark).1 hbehind
    exact ⟨tail, hs, hrest⟩
  · rintro ⟨tail, hs, rfl⟩
    exact ⟨_, hs, by simp⟩

/-- Blanks behind a line do not make it a hunk header, and change nothing in one. -/
theorem HunkRange.ofChars?_append_blank (s : List Char) : ofChars? (s ++ pad) = ofChars? s := by
  have hplus : EndsSolid " +".toList := ⟨'+', rfl, rfl⟩
  have hends : EndsSolid " @@".toList := ⟨'@', rfl, rfl⟩
  ext range
  constructor
  · intro h
    obtain ⟨_, _, _, hline, hfirst, hsecond⟩ := ofChars?_eq_some_iff.1 h
    obtain ⟨old, hs, rfl⟩ := (append_blank_eq_append_iff hpad ⟨'-', rfl, rfl⟩).1 hline
    obtain ⟨new, hold, rfl⟩ := (range?_append_blank_eq_some_iff hpad hplus).1 hfirst
    obtain ⟨tail, hnew, rfl⟩ := (range?_append_blank_eq_some_iff hpad hends).1 hsecond
    exact ofChars?_eq_some_iff.2 ⟨old, new, tail, hs, hold, hnew⟩
  · intro h
    obtain ⟨old, new, tail, hs, hold, hnew⟩ := ofChars?_eq_some_iff.1 h
    refine ofChars?_eq_some_iff.2 ⟨old ++ pad, new ++ pad, tail ++ pad, ?_,
      (range?_append_blank_eq_some_iff hpad hplus).2 ⟨new, hold, rfl⟩,
      (range?_append_blank_eq_some_iff hpad hends).2 ⟨tail, hnew, rfl⟩⟩
    rw [hs, List.append_assoc]

/-- A mark for a side of a file can be completed by a blank. Apart from that, a line stays what it
is with blanks behind it. -/
theorem OuterLine.ofChars_append_blank (s : List Char) :
    match ofChars s with
    | .remark => ofChars (s ++ pad) = .remark
    | .oldFile rest => ofChars (s ++ pad) = .oldFile (rest ++ pad)
    | .newFile rest => ofChars (s ++ pad) = .newFile (rest ++ pad)
    | .hunk => ofChars (s ++ pad) = .hunk
    | .chatter => ofChars (s ++ pad) ≠ .remark ∧ ofChars (s ++ pad) ≠ .hunk := by
  fun_cases ofChars s with
  | case1 rest => rfl
  | case2 rest => rfl
  | case3 rest => rfl
  | case4 rest => rfl
  | case5 _ hremark _ _ hhunk =>
    generalize ht : s ++ pad = t
    fun_cases ofChars t with
    | case1 rest =>
      have hmark : EndsSolid ['\\'] := ⟨_, rfl, rfl⟩
      obtain ⟨tail, hs, -⟩ := (append_blank_eq_append_iff hpad hmark).1 ht
      exact absurd hs (hremark tail)
    | case2 rest => simp
    | case3 rest => simp
    | case4 rest =>
      have hmark : EndsSolid ['@', '@'] := ⟨_, rfl, rfl⟩
      obtain ⟨tail, hs, -⟩ := (append_blank_eq_append_iff hpad hmark).1 ht
      exact absurd hs (hhunk tail)
    | case5 => simp

/-- Blanks behind a file header do not matter to its path. -/
theorem headerPath_append_blank (rest : List Char) :
    headerPath (rest ++ pad) = headerPath rest := by
  have htab : AllBlank (pad.takeWhile (· ≠ '\t')) := fun c hc =>
    hpad c ((List.takeWhile_prefix _).subset hc)
  rw [headerPath, headerPath, List.takeWhile_append]
  split
  · next hall =>
    have heq : rest.takeWhile (· ≠ '\t') = rest :=
      (List.takeWhile_prefix _).eq_of_length hall
    rw [heq, Text.strip_append_of_allBlank rest htab]
  · rfl

/-- A blank line is chatter. -/
theorem OuterLine.ofChars_of_allBlank : ofChars pad = .chatter := by
  fun_cases ofChars pad with
  | case1 rest => cases hpad '\\' List.mem_cons_self
  | case2 rest => cases hpad '-' List.mem_cons_self
  | case3 rest => cases hpad '+' List.mem_cons_self
  | case4 rest => cases hpad '@' List.mem_cons_self
  | case5 => rfl

end Headers

/-! ## Bodies -/

/-- The text of the body of a hunk, whose latest line is the first one. -/
def bodyText (lines : List String) : String :=
  "\n".intercalate lines.reverse

/-- The latest line stands at the end of a body. -/
theorem bodyText_cons (line : String) (lines : List String) :
    bodyText (line :: lines) = (if lines = [] then "" else bodyText lines ++ "\n") ++ line := by
  rw [bodyText, List.reverse_cons]
  split
  · next hnil => simp [hnil]
  · next hne =>
    rw [String.intercalate_append_of_ne_nil (by simpa using hne) (by simp),
      String.intercalate_singleton, bodyText]

section Bodies

variable {lines : List String} {line pad : String}

theorem trimEnd_bodyText_cons_of_endsSolid (hline : EndsSolid line.toList) :
    Text.trimEnd (bodyText (line :: lines)) = bodyText (line :: lines) := by
  refine Text.trimEnd_of_endsSolid ?_
  rw [bodyText_cons, String.toList_append]
  exact hline.append _

theorem trimEnd_bodyText_cons_append (hline : EndsSolid line.toList) (hpad : AllBlank pad.toList) :
    Text.trimEnd (bodyText ((line ++ pad) :: lines)) = bodyText (line :: lines) := by
  rw [bodyText_cons, ← String.append_assoc, Text.trimEnd_append_of_allBlank _ hpad,
    ← bodyText_cons, trimEnd_bodyText_cons_of_endsSolid hline]

theorem trimEnd_bodyText_cons_of_allBlank (hpad : AllBlank pad.toList) :
    Text.trimEnd (bodyText (pad :: lines)) = Text.trimEnd (bodyText lines) := by
  rw [bodyText_cons, Text.trimEnd_append_of_allBlank _ hpad]
  split
  · next hnil =>
    subst hnil
    rfl
  · exact Text.trimEnd_append_of_allBlank _ (by simp [AllBlank]; decide)

end Bodies

/-! ## Files -/

/-- What an error says apart from the text of the line. -/
def Error.withoutText : Error → Error
  | .orphanHunk line => .orphanHunk line
  | .malformedHeader line _ => .malformedHeader line ""

/-- What is read from a trimmed diff, and what is read from the diff itself, with the latest file,
hunk and line first. The diff itself can have one more file, which has no hunks, or blanks at the
end of the latest body. -/
inductive PaddedFiles : List FileDiff → List FileDiff → Prop where
  | refl (files : List FileDiff) : PaddedFiles files files
  | emptyFile (path : String) (files : List FileDiff) : PaddedFiles files (⟨path, []⟩ :: files)
  | body {path : String} {hunk : Hunk} {lines : List String} {hunks : List Hunk}
      {files : List FileDiff} (h : Text.trimEnd (bodyText lines) = bodyText hunk.lines) :
      PaddedFiles (⟨path, hunk :: hunks⟩ :: files)
        (⟨path, { hunk with lines } :: hunks⟩ :: files)

/-- Two readings succeed alike, or they fail in the same way at the same line. -/
inductive Alike {α : Type} (R : α → α → Prop) : Except Error α → Except Error α → Prop where
  | ok {a b : α} (h : R a b) : Alike R (.ok a) (.ok b)
  | error {e e' : Error} (h : e.withoutText = e'.withoutText) : Alike R (.error e) (.error e')

theorem Alike.bind {α β : Type} {R : α → α → Prop} {S : β → β → Prop} {x y : Except Error α}
    {f g : α → Except Error β} (h : Alike R x y) (hbind : ∀ a b, R a b → Alike S (f a) (g b)) :
    Alike S (x >>= f) (y >>= g) := by
  cases h with
  | ok h => exact hbind _ _ h
  | error h => exact .error h

/-- The latest body does not end with a blank. -/
def LatestIsTrimmed (files : List FileDiff) : Prop :=
  ∀ path hunk hunks rest, files = ⟨path, hunk :: hunks⟩ :: rest →
    Text.trimEnd (bodyText hunk.lines) = bodyText hunk.lines

namespace Progress

/-- The latest file has a hunk. -/
def HasHunk (files : List FileDiff) : Prop :=
  ∃ path hunk hunks rest, files = ⟨path, hunk :: hunks⟩ :: rest

/-- Lines are only added to hunks. -/
theorem addLine?_cases (files : List FileDiff) :
    (∃ path hunk hunks rest, files = ⟨path, hunk :: hunks⟩ :: rest ∧ ∀ line, addLine? line files =
      some (⟨path, { hunk with lines := line :: hunk.lines } :: hunks⟩ :: rest)) ∨
    (∀ line, addLine? line files = none) ∧ LatestIsTrimmed files := by
  match files with
  | ⟨path, hunk :: hunks⟩ :: rest => exact .inl ⟨path, hunk, hunks, rest, rfl, fun _ => rfl⟩
  | ⟨path, []⟩ :: rest => exact .inr ⟨fun _ => rfl, by rintro _ _ _ _ ⟨⟩⟩
  | [] => exact .inr ⟨fun _ => rfl, by rintro _ _ _ _ ⟨⟩⟩

theorem HasHunk.exists_addLine? {files : List FileDiff} (h : HasHunk files) (line : String) :
    addLine? line files = some (addLine line files) ∧ HasHunk (addLine line files) := by
  obtain ⟨path, hunk, hunks, rest, rfl⟩ := h
  exact ⟨rfl, _, _, _, _, rfl⟩

/-- The last line, with and without blanks behind it. -/
theorem paddedFiles_addLine_append {line pad : String} (hline : EndsSolid line.toList)
    (hpad : AllBlank pad.toList) (files : List FileDiff) :
    PaddedFiles (addLine line files) (addLine (line ++ pad) files) := by
  rw [addLine, addLine]
  rcases addLine?_cases files with ⟨path, hunk, hunks, rest, -, hadd⟩ | ⟨hadd, -⟩
  · rw [hadd, hadd]
    exact .body (trimEnd_bodyText_cons_append hline hpad)
  · rw [hadd, hadd]
    exact .refl files

/-- A blank line goes to the end of the latest body. -/
theorem paddedFiles_addLine_of_allBlank {trimmed files : List FileDiff}
    (h : PaddedFiles trimmed files) (htrimmed : LatestIsTrimmed trimmed) {blank : String}
    (hblank : AllBlank blank.toList) : PaddedFiles trimmed (addLine blank files) := by
  cases h with
  | refl =>
    rcases addLine?_cases trimmed with ⟨path, hunk, hunks, rest, rfl, hadd⟩ | ⟨hadd, -⟩
    · rw [addLine, hadd]
      refine .body ?_
      rw [trimEnd_bodyText_cons_of_allBlank hblank]
      exact htrimmed _ _ _ _ rfl
    · rw [addLine, hadd]
      exact .refl trimmed
  | emptyFile path => exact .emptyFile path trimmed
  | body h =>
    refine .body ?_
    rw [trimEnd_bodyText_cons_of_allBlank hblank, h]

/-! ## Steps -/

/-- A progress through a trimmed diff and one through the diff itself, behind the last line of the
trimmed diff. -/
structure IsPadded (q q' : Progress) : Prop where
  files : PaddedFiles q.reversed q'.reversed
  latest : q'.isOpen = true → LatestIsTrimmed q.reversed
  hasHunk : q'.isOpen = true → HasHunk q'.reversed

/-- A blank line is taken by an open hunk only. -/
theorem step_of_allBlank {p : Progress} (hhunk : p.isOpen = true → HasHunk p.reversed)
    (number : Nat) {blank : String} (hblank : AllBlank blank.toList) :
    ∃ q, p.step number blank = .ok q ∧
      (q.isOpen = true → p.isOpen = true ∧ HasHunk q.reversed) ∧
      (p.isOpen = true ∧ q.reversed = addLine blank p.reversed ∨ q.reversed = p.reversed) := by
  by_cases hopen : p.isOpen = true
  · obtain ⟨hadd, hgrown⟩ := (hhunk hopen).exists_addLine? blank
    have hstep := step_of_isOpen hopen number blank
    rw [takeBody_of_some hadd] at hstep
    exact ⟨_, hstep, fun _ => ⟨hopen, hgrown⟩, .inl ⟨hopen, rfl⟩⟩
  · refine ⟨p, ?_, fun h => absurd h hopen, .inr rfl⟩
    rw [step, if_neg hopen, takeOuter, OuterLine.ofChars_of_allBlank hblank]

/-- Blank lines behind the last line do no harm. -/
theorem IsPadded.run {q q' : Progress} (h : IsPadded q q') (number : Nat) {blanks : List String}
    (hblanks : ∀ blank ∈ blanks, AllBlank blank.toList) :
    ∃ left, q'.run number blanks = .ok left ∧ PaddedFiles q.reversed left.reversed := by
  induction blanks generalizing q' number with
  | nil => exact ⟨q', rfl, h.files⟩
  | cons blank blanks ih =>
    obtain ⟨next, hstep, hopen, hnext⟩ :=
      step_of_allBlank h.hasHunk number (hblanks _ List.mem_cons_self)
    have hpadded : IsPadded q next := by
      refine ⟨?_, fun h' => h.latest (hopen h').1, fun h' => (hopen h').2⟩
      rcases hnext with ⟨hopen, hreversed⟩ | hreversed
      · rw [hreversed]
        exact paddedFiles_addLine_of_allBlank h.files (h.latest hopen)
          (hblanks _ List.mem_cons_self)
      · rw [hreversed]
        exact h.files
    obtain ⟨left, hrun, hfiles⟩ :=
      ih hpadded (number + 1) fun line hline => hblanks line (List.mem_cons_of_mem _ hline)
    refine ⟨left, ?_, hfiles⟩
    rw [Progress.run, hstep]
    exact hrun

section LastLine

variable (p : Progress) (number : Nat) {line pad : String} (hline : EndsSolid line.toList)
  (hpad : AllBlank pad.toList)

include hline hpad

theorem alike_takeBody :
    Alike IsPadded (p.takeBody number line) (p.takeBody number (line ++ pad)) := by
  rcases addLine?_cases p.reversed with ⟨path, hunk, hunks, rest, -, hadd⟩ | ⟨hadd, -⟩
  · rw [takeBody_of_some (hadd line), takeBody_of_some (hadd _)]
    refine .ok ⟨.body (trimEnd_bodyText_cons_append hline hpad), fun _ => ?_,
      fun _ => ⟨_, _, _, _, rfl⟩⟩
    rintro _ _ _ _ ⟨⟩
    exact trimEnd_bodyText_cons_of_endsSolid hline
  · rw [takeBody_of_none (hadd line), takeBody_of_none (hadd _)]
    exact .error rfl

omit hline in
theorem alike_openHunk :
    Alike IsPadded (p.openHunk number line) (p.openHunk number (line ++ pad)) := by
  rw [openHunk, openHunk, String.toList_append, HunkRange.ofChars?_append_blank hpad]
  cases HunkRange.ofChars? line.toList with
  | none => exact .error rfl
  | some range =>
    cases hfiles : p.reversed with
    | nil => exact .error rfl
    | cons file files =>
      dsimp only
      cases hhunk : range.hunk? with
      | none => exact .error rfl
      | some hunk =>
        refine .ok ⟨.refl _, fun _ => ?_, fun _ => ⟨_, _, _, _, rfl⟩⟩
        rintro _ _ _ _ ⟨⟩
        rw [lines_of_hunk? hhunk]
        rfl

theorem alike_takeOuter (hclosed : p.isOpen = false) :
    Alike IsPadded (p.takeOuter number line) (p.takeOuter number (line ++ pad)) := by
  have houter := OuterLine.ofChars_append_blank hpad line.toList
  have hnever : ∀ q q' : Progress, q'.isOpen = false → PaddedFiles q.reversed q'.reversed →
      IsPadded q q' := by
    intro q q' hq' hfiles
    refine ⟨hfiles, fun h => ?_, fun h => ?_⟩ <;> · rw [hq'] at h; cases h
  rw [takeOuter, takeOuter, String.toList_append]
  cases hkind : OuterLine.ofChars line.toList with
  | remark =>
    simp only [hkind] at houter
    rw [houter]
    exact .ok (hnever _ _ hclosed (paddedFiles_addLine_append hline hpad _))
  | oldFile rest =>
    simp only [hkind] at houter
    rw [houter]
    exact .ok (hnever _ _ hclosed (.refl _))
  | newFile rest =>
    simp only [hkind] at houter
    rw [houter]
    dsimp only
    rw [headerPath_append_blank hpad]
    exact .ok (hnever _ _ hclosed (.refl _))
  | hunk =>
    simp only [hkind] at houter
    rw [houter]
    exact p.alike_openHunk number hpad
  | chatter =>
    -- Blanks can complete the mark for a side, but there is no hunk behind it.
    simp only [hkind] at houter
    cases hpadded : OuterLine.ofChars (line.toList ++ pad.toList) with
    | remark => exact absurd hpadded houter.1
    | oldFile rest => exact .ok (hnever _ _ hclosed (.refl _))
    | newFile rest => exact .ok (hnever _ _ hclosed (.emptyFile _ _))
    | hunk => exact absurd hpadded houter.2
    | chatter => exact .ok (hnever _ _ hclosed (.refl _))

/-- Blanks behind the last line change nothing but the end of its text. -/
theorem alike_step : Alike IsPadded (p.step number line) (p.step number (line ++ pad)) := by
  rw [step, step]
  split
  · exact p.alike_takeBody number hline hpad
  · next hopen => exact p.alike_takeOuter number hline hpad (by simpa using hopen)

end LastLine

/-- A diff is read as its lines without blanks behind them are. -/
theorem alike_run {lines padded : List String} (h : Text.PaddedLines lines padded) (p : Progress)
    (number : Nat) : Alike (fun q q' => PaddedFiles q.reversed q'.reversed)
      (p.run number lines) (p.run number padded) := by
  induction h generalizing p number with
  | nil => exact .ok (.refl _)
  | @last line pad blanks hline hpad hblanks =>
    rw [run, run]
    refine (p.alike_step number hline hpad).bind fun q q' hpadded => ?_
    obtain ⟨left, hrun, hfiles⟩ := hpadded.run (number + 1) hblanks
    rw [hrun]
    exact .ok hfiles
  | @cons line lines padded h ih =>
    rw [run, run]
    cases p.step number line with
    | ok q => exact ih q (number + 1)
    | error e => exact .error rfl

end Progress

/-! ## Findings -/

/-- The findings are the same, apart from blanks at the end of the last message. -/
def TrimmedLast (trimmed findings : List Finding) : Prop :=
  trimmed = findings ∨ ∃ front last, findings = front ++ [last] ∧
    trimmed = front ++ [{ last with message := Text.trimEnd last.message }]

/-- The findings for files whose latest file, hunk and line are first. -/
def findingsOf (dir : Directory) (reversed : List FileDiff) : List Finding :=
  (reversed.map Progress.fileInOrder).reverse.flatMap (FileDiff.findings dir)

theorem PaddedFiles.trimmedLast {trimmed files : List FileDiff} (h : PaddedFiles trimmed files)
    (dir : Directory) : TrimmedLast (findingsOf dir trimmed) (findingsOf dir files) := by
  cases h with
  | refl => exact .inl rfl
  | emptyFile path => exact .inl (by simp [findingsOf, Progress.fileInOrder, FileDiff.findings])
  | @body path hunk lines hunks files h =>
    -- The latest hunk of the latest file is the last finding.
    have hlast : ∀ hunk : Hunk, findingsOf dir (⟨path, hunk :: hunks⟩ :: files) =
        findingsOf dir (⟨path, hunks⟩ :: files) ++
          [(Progress.hunkInOrder hunk).finding (dir.relative path)] := by
      intro hunk
      simp [findingsOf, Progress.fileInOrder, FileDiff.findings]
    refine .inr ⟨findingsOf dir (⟨path, hunks⟩ :: files), _, hlast _, ?_⟩
    rw [hlast hunk]
    congr 2
    have hmessage : ∀ hunk : Hunk, (Progress.hunkInOrder hunk).finding (dir.relative path) =
        Finding.spanning (dir.relative path) hunk.oldStart hunk.lastLine (bodyText hunk.lines) :=
      fun _ => rfl
    rw [hmessage, hmessage]
    exact congrArg _ h.symm

theorem findings_eq_bind (dir : Directory) (text : String) : findings dir text =
    Progress.run {} 1 (Text.lines text) >>= fun p => .ok (findingsOf dir p.reversed) := by
  rw [findings, parse]
  cases Progress.run {} 1 (Text.lines text) <;> rfl

/-- A trimmed diff has the same findings, up to blanks at the end of the last message. -/
theorem alike_findings_trim (dir : Directory) {text : String}
    (htext : ∀ c, text.toList.head? = some c → Text.isBlank c = false) :
    Alike TrimmedLast (findings dir (Text.trim text)) (findings dir text) := by
  rw [findings_eq_bind, findings_eq_bind]
  refine (Progress.alike_run (Text.paddedLines_lines_trim htext) {} 1).bind fun q q' hfiles => ?_
  exact .ok (hfiles.trimmedLast dir)

end LintRun.Diff
