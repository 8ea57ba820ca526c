import LintRun.Proofs.Diff.Concatenation

/-!
# Marked paths

In the headers of a file that was modified, the old side is marked with `a/` and the new side with
`b/`. A file that was created has no old side, and one that was removed no new side: the missing one
is the null path. The marks go only if both sides have theirs, so the path of a created or a removed
file keeps its mark.

## Main definitions

* `headers` is the text of the two headers of a file.
* `Change` has the three ways to name the sides of a file.

## Main statements

* `IsFinished.run_headers`: two headers behind a finished text open a file for their names.
* `parse_marked_headers`: the path of the file, for every change.
-/

namespace LintRun.Diff

/-- A path that can stand in a header of a text: it is on one line. -/
structure IsName (path : String) : Prop extends IsHeaderPath path where
  newline_not_mem : '\n' ∉ path.toList

/-- The headers of a file whose sides have the given names. -/
def headers (old new : String) : String :=
  "--- " ++ old ++ "\n" ++ ("+++ " ++ new ++ "\n")

/-! ## Headers of any names -/

theorem headerPath_of_isHeaderPath {path : String} (h : IsHeaderPath path) :
    headerPath path.toList = path := by
  obtain ⟨rest, hrest, hpath⟩ := headerPath_of_stamped h (.plain : Stamped ("" ++ path) _)
  rw [String.toList_append, List.append_cancel_left_eq] at hrest
  rw [hrest, hpath]

theorem IsName.lines_mark {mark path : String} (h : IsName path) (hmark : '\n' ∉ mark.toList)
    (hend : mark.toList.getLast? ≠ some '\r') (rest : String) :
    Text.lines (mark ++ path ++ "\n" ++ rest) = (mark ++ path) :: Text.lines rest := by
  refine Text.lines_append_newline ?_ (h.getLast?_append_ne hend) rest
  rw [String.toList_append, List.mem_append, not_or]
  exact ⟨hmark, h.newline_not_mem⟩

section Headers

variable {front old new : String} {files : List FileDiff} (hold : IsName old) (hnew : IsName new)

include hold hnew

theorem lines_headers (rest : String) : Text.lines (headers old new ++ rest) =
    ("--- " ++ old) :: ("+++ " ++ new) :: Text.lines rest := by
  have htext : headers old new ++ rest =
      "--- " ++ old ++ "\n" ++ ("+++ " ++ new ++ "\n" ++ rest) := by
    rw [headers, String.append_assoc]
  rw [htext, hold.lines_mark (by decide) (by decide), hnew.lines_mark (by decide) (by decide)]

/-- The headers open a file for their names, and what follows is read behind them. -/
theorem IsFinished.run_headers (h : IsFinished front files) (rest : String) : ∃ number,
    Progress.run {} 1 (Text.lines (front ++ (headers old new ++ rest))) =
      (Progress.ofFiles (files ++ [⟨newPath (some old) new, []⟩]) none 0 0).run number
        (Text.lines rest) := by
  obtain ⟨left?, hrun⟩ := h.exists_run
  have hpair := Progress.run_headerPair files left? (1 + (Text.lines front).length) old new
    (Text.lines rest)
  rw [headerPath_of_isHeaderPath hold.toIsHeaderPath,
    headerPath_of_isHeaderPath hnew.toIsHeaderPath] at hpair
  refine ⟨1 + (Text.lines front).length + 2, ?_⟩
  rw [Text.lines_append h.ends, Progress.run_append, hrun, lines_headers hold hnew]
  exact hpair

/-- Nothing behind the headers changes the path of their file. -/
theorem IsFinished.parse_headers (h : IsFinished front files) :
    parse (front ++ headers old new) = .ok (files ++ [⟨newPath (some old) new, []⟩]) ∧
    ∀ rest all, parse (front ++ (headers old new ++ rest)) = .ok all →
      ∃ hunks more, all = files ++ ⟨newPath (some old) new, hunks⟩ :: more := by
  have hread : Progress.run {} 1 (Text.lines (front ++ headers old new)) =
      .ok (Progress.ofFiles (files ++ [⟨newPath (some old) new, []⟩]) none 0 0) := by
    obtain ⟨number, hrun⟩ := h.run_headers hold hnew ""
    rw [String.append_empty] at hrun
    exact hrun
  constructor
  · refine parse_eq_ok_iff_run.2 ⟨_, hread, ?_⟩
    rw [Progress.files_ofFiles]
  · intro rest all hall
    obtain ⟨p, hp, rfl⟩ := parse_eq_ok_iff_run.1 hall
    obtain ⟨number, hrun⟩ := h.run_headers hold hnew rest
    rw [hrun] at hp
    have hstart := (Progress.accounted_of_run hread).isStart_of_run hp
    rw [Progress.files_ofFiles] at hstart
    obtain ⟨⟨path, hunks⟩, more, hfiles, hfile⟩ := hstart.exists_of_concat fun file =>
      ⟨rfl, .refl file.hunks⟩
    obtain rfl : newPath (some old) new = path := hfile.path
    exact ⟨hunks, more, hfiles⟩

end Headers

/-! ## Headers of marked names -/

/-- What a diff does to a file. -/
inductive Change where
  | modified
  | created
  | removed
  deriving DecidableEq, Repr

namespace Change

/-- The name of the old side of the file `path`. -/
def oldName (path : String) : Change → String
  | created => nullPath
  | _ => "a/" ++ path

/-- The name of the new side of the file `path`. -/
def newName (path : String) : Change → String
  | removed => nullPath
  | _ => "b/" ++ path

/-- The path that is read for the file `path`. -/
def pathRead (path : String) : Change → String
  | modified => path
  | created => "b/" ++ path
  | removed => "a/" ++ path

variable {path : String}

theorem isName_nullPath : IsName nullPath :=
  ⟨⟨by decide +kernel, by decide +kernel⟩, by decide⟩

theorem isName_oldName (h : IsName path) (change : Change) : IsName (change.oldName path) := by
  cases change with
  | created => exact isName_nullPath
  | modified | removed =>
    exact ⟨isHeaderPath_old h.toIsHeaderPath, by simpa [oldName] using h.newline_not_mem⟩

theorem isName_newName (h : IsName path) (change : Change) : IsName (change.newName path) := by
  cases change with
  | removed => exact isName_nullPath
  | modified | created =>
    exact ⟨isHeaderPath_new h.toIsHeaderPath, by simpa [newName] using h.newline_not_mem⟩

/-- The marks go only if both sides have theirs. -/
theorem newPath_names (path : String) (change : Change) :
    newPath (some (change.oldName path)) (change.newName path) = change.pathRead path := by
  cases change with
  | modified => exact newPath_of_marked path
  | created =>
    have hnull : "b/" ++ path ≠ nullPath := by
      intro h
      have hhead := congrArg (fun s => s.toList.head?) h
      simp [nullPath] at hhead
    have hold : ¬"a/".toList <+: nullPath.toList := by decide
    exact newPath_of_plain hnull fun h => hold h.1
  | removed => simp [newPath, oldName, newName, pathRead]

theorem pathRead_eq_iff {change : Change} : change.pathRead path = path ↔ change = modified := by
  have hlonger : ∀ mark : String, mark.length = 2 → mark ++ path ≠ path := by
    intro mark hmark h
    have hlength := congrArg String.length h
    rw [String.length_append] at hlength
    omega
  cases change with
  | modified => exact iff_of_true rfl rfl
  | created => exact iff_of_false (hlonger "b/" rfl) nofun
  | removed => exact iff_of_false (hlonger "a/" rfl) nofun

end Change

/-- Behind a finished text, the headers of a file open it under a path that no line behind them
changes. It is the path of the file if the file was modified. That of a created or a removed file
keeps the mark of the side that is there. -/
theorem parse_marked_headers {front path : String} {files : List FileDiff}
    (hfront : IsFinished front files) (hpath : IsName path) (change : Change) :
    parse (front ++ headers (change.oldName path) (change.newName path)) =
        .ok (files ++ [⟨change.pathRead path, []⟩]) ∧
      (∀ rest all,
        parse (front ++ (headers (change.oldName path) (change.newName path) ++ rest)) = .ok all →
          ∃ hunks more, all = files ++ ⟨change.pathRead path, hunks⟩ :: more) ∧
      (change.pathRead path = path ↔ change = .modified) := by
  have hparse := hfront.parse_headers (change.isName_oldName hpath) (change.isName_newName hpath)
  rw [change.newPath_names] at hparse
  exact ⟨hparse.1, hparse.2, Change.pathRead_eq_iff⟩

/-- A modified file, then each of the three changes to the next one. -/
theorem parse_marked_headers_of_each :
    let front := "--- a/x.go\n+++ b/x.go\n@@ -4 +4 @@\n-x\n+y\n"
    let files : List FileDiff := [⟨"x.go", [⟨4, 1, 1, ["-x", "+y"]⟩]⟩]
    IsFinished front files ∧ IsName "src/b.go" ∧
      parse (front ++ "--- a/src/b.go\n+++ b/src/b.go\n") = .ok (files ++ [⟨"src/b.go", []⟩]) ∧
      parse (front ++ "--- /dev/null\n+++ b/src/b.go\n") = .ok (files ++ [⟨"b/src/b.go", []⟩]) ∧
      parse (front ++ "--- a/src/b.go\n+++ /dev/null\n") = .ok (files ++ [⟨"a/src/b.go", []⟩]) := by
  intro front files
  have hfront : IsFinished front files := by
    refine ⟨by decide +kernel, .inr (by decide), ?_⟩
    rintro _ ⟨⟩
    simp [Hunk.Lacks, coversOld, coversNew]
  have hpath : IsName "src/b.go" := ⟨⟨by decide +kernel, by decide +kernel⟩, by decide⟩
  exact ⟨hfront, hpath, (parse_marked_headers hfront hpath .modified).1,
    (parse_marked_headers hfront hpath .created).1, (parse_marked_headers hfront hpath .removed).1⟩

/-- The headers of a created and of a removed file do not give its path. -/
theorem parse_created_and_removed :
    IsName "new.go" ∧ IsName "old.go" ∧
      parse (headers (Change.created.oldName "new.go") (Change.created.newName "new.go") ++
          "@@ -0,0 +1 @@\n+x\n" ++
          headers (Change.removed.oldName "old.go") (Change.removed.newName "old.go") ++
          "@@ -1 +0,0 @@\n-x\n") =
        .ok [⟨"b/new.go", [⟨0, 0, 1, ["+x"]⟩]⟩, ⟨"a/old.go", [⟨1, 1, 0, ["-x"]⟩]⟩] := by
  refine ⟨⟨⟨?_, ?_⟩, ?_⟩, ⟨⟨?_, ?_⟩, ?_⟩, ?_⟩ <;> decide +kernel

end LintRun.Diff
