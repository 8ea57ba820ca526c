import LintRun.Diff.Parser
import LintRun.Proofs.Text.Line

/-!
# Printing diffs

A list of files can be printed as a diff in many ways. The headers of a file name it plainly or
with the marks `a/` and `b/`, and may carry times. A hunk header may leave out a count of one, says
anything about the new start, and may go on behind its end. Other lines may stand outside of hunks.
`PrintsFiles files lines` says that `lines` is one of these ways.

## Main definitions

* `FileDiff.IsPrintable` says which files have a printed form: the counts of a hunk have to agree
  with its body.
* `FileHeaders`, `HunkHeader` and `IsChatter` are the lines outside of the bodies of hunks.
* `PrintsFiles` puts them together.

## Design notes

The lines of a body are printed as they are, whatever they look like. That a body ends is said by
the counts alone, so nothing here depends on what follows it.
-/

namespace LintRun.Diff

/-- Whether a line of a body covers a line of the old side. -/
def coversOld (line : String) : Bool :=
  line.toList.head? ≠ some '+' && line.toList.head? ≠ some '\\'

/-- Whether a line of a body covers a line of the new side. -/
def coversNew (line : String) : Bool :=
  line.toList.head? ≠ some '-' && line.toList.head? ≠ some '\\'

/-- A hunk whose counts are those of its body, with numbers that are counts and lines that do not
end with a carriage return. -/
structure Hunk.IsPrintable (hunk : Hunk) : Prop where
  oldStart_le : hunk.oldStart ≤ Count.max
  oldLines_le : hunk.oldLines ≤ Count.max
  newLines_le : hunk.newLines ≤ Count.max
  countP_coversOld : hunk.lines.countP coversOld = hunk.oldLines
  countP_coversNew : hunk.lines.countP coversNew = hunk.newLines
  getLast?_ne : ∀ line ∈ hunk.lines, line.toList.getLast? ≠ some '\r'

/-- A path that can stand in a header: trimmed, and without a tab. -/
structure IsHeaderPath (path : String) : Prop where
  trim_eq : Text.trim path = path
  tab_not_mem : '\t' ∉ path.toList

/-- A file whose path can stand in a header, with printable hunks. -/
structure FileDiff.IsPrintable (file : FileDiff) : Prop where
  path : IsHeaderPath file.path
  hunks : ∀ hunk ∈ file.hunks, hunk.IsPrintable

/-- A line with none of the marks that matter outside of a hunk. -/
def IsChatter (line : String) : Prop :=
  ∀ mark ∈ ["\\", "--- ", "+++ ", "@@"], ¬mark.toList <+: line.toList

/-- A text with or without a time behind a tab. -/
inductive Stamped (text : String) : String → Prop where
  | plain : Stamped text text
  | stamped (time : String) : Stamped text (text ++ "\t" ++ time)

/-- The two headers of the file `path`. Plain headers may name any old side, but must neither
look like those of a removed file nor like marked ones. -/
inductive FileHeaders (path : String) : String → String → Prop where
  | plain {oldPath old new : String} (hpath : IsHeaderPath oldPath) (hnull : path ≠ nullPath)
      (hmarks : ¬("a/".toList <+: oldPath.toList ∧ "b/".toList <+: path.toList))
      (hold : Stamped ("--- " ++ oldPath) old) (hnew : Stamped ("+++ " ++ path) new) :
      FileHeaders path old new
  | marked {old new : String} (hold : Stamped ("--- a/" ++ path) old)
      (hnew : Stamped ("+++ b/" ++ path) new) : FileHeaders path old new

/-- A range in a hunk header. A count of one may be left out. -/
inductive RangeText (start : String) (count : Nat) : String → Prop where
  | counted : RangeText start count (start ++ "," ++ toString count)
  | single (h : count = 1) : RangeText start count start

/-- A header of a hunk. The start on the new side is any run of digits. -/
inductive HunkHeader (hunk : Hunk) : String → Prop where
  | mk {newStart old new : String} (trailer : String)
      (hold : RangeText (toString hunk.oldStart) hunk.oldLines old)
      (hne : newStart ≠ "") (hdigits : ∀ c ∈ newStart.toList, Text.isDecimal c = true)
      (hnew : RangeText newStart hunk.newLines new) :
      HunkHeader hunk ("@@ -" ++ old ++ " +" ++ new ++ " @@" ++ trailer)

/-- Lines that print hunks, with chatter around them. -/
inductive PrintsHunks : List Hunk → List String → Prop where
  | nil : PrintsHunks [] []
  | chatter {line : String} {hunks : List Hunk} {lines : List String} (hline : IsChatter line)
      (h : PrintsHunks hunks lines) : PrintsHunks hunks (line :: lines)
  | hunk {hunk : Hunk} {header : String} {hunks : List Hunk} {lines : List String}
      (hheader : HunkHeader hunk header) (h : PrintsHunks hunks lines) :
      PrintsHunks (hunk :: hunks) (header :: (hunk.lines ++ lines))

/-- Lines that print files, with chatter around and between their headers. -/
inductive PrintsFiles : List FileDiff → List String → Prop where
  | nil : PrintsFiles [] []
  | chatter {line : String} {files : List FileDiff} {lines : List String} (hline : IsChatter line)
      (h : PrintsFiles files lines) : PrintsFiles files (line :: lines)
  | file {file : FileDiff} {old new : String} {between hunkLines : List String}
      {files : List FileDiff} {lines : List String} (hheaders : FileHeaders file.path old new)
      (hbetween : ∀ line ∈ between, IsChatter line) (hhunks : PrintsHunks file.hunks hunkLines)
      (h : PrintsFiles files lines) :
      PrintsFiles (file :: files) (old :: (between ++ new :: (hunkLines ++ lines)))

/-! ## Reading printed lines -/

/-- Behind a text that does not end with a carriage return, a line is read as a line. -/
theorem exists_append_of_isReadAs {front rest read : String}
    (hend : front.toList.getLast? ≠ some '\r') (h : Text.IsReadAs (front ++ rest) read) :
    ∃ rest', read = front ++ rest' := by
  rcases h with rfl | h
  · exact ⟨rest, rfl⟩
  · rw [← String.toList_inj, String.toList_append, String.toList_append] at h
    rcases List.append_eq_append_iff.1 h with ⟨rest', hread, _⟩ | ⟨more, hfront, hmore⟩
    · exact ⟨String.ofList rest', by rw [← String.toList_inj]; simpa using hread⟩
    · -- The carriage return cannot reach into the text in front.
      have hmore : "\r".toList = more ++ rest.toList := hmore
      cases more with
      | nil => exact ⟨"", by rw [← String.toList_inj]; simpa using hfront.symm⟩
      | cons c more =>
        obtain ⟨rfl, hnil⟩ := List.cons.inj hmore
        obtain ⟨rfl, -⟩ := List.append_eq_nil_iff.1 hnil.symm
        exact absurd (by rw [hfront, List.getLast?_append]; rfl) hend

theorem IsChatter.of_isReadAs {line read : String} (h : IsChatter line)
    (hread : Text.IsReadAs line read) : IsChatter read := by
  intro mark hmark hfront
  refine h mark hmark (hfront.trans ?_)
  rcases hread with rfl | rfl
  · exact List.prefix_rfl
  · simp

theorem Stamped.of_isReadAs {text line read : String} (h : Stamped text line)
    (hend : text.toList.getLast? ≠ some '\r') (hread : Text.IsReadAs line read) :
    Stamped text read := by
  cases h with
  | plain => exact hread.eq_of_getLast?_ne hend ▸ .plain
  | stamped time =>
    obtain ⟨time', rfl⟩ := exists_append_of_isReadAs (by simp) hread
    exact .stamped time'

theorem HunkHeader.of_isReadAs {hunk : Hunk} {line read : String} (h : HunkHeader hunk line)
    (hread : Text.IsReadAs line read) : HunkHeader hunk read := by
  cases h with
  | mk trailer hold hne hdigits hnew =>
    obtain ⟨trailer', rfl⟩ := exists_append_of_isReadAs
      (by rw [String.toList_append, List.getLast?_append]; simp) hread
    exact .mk trailer' hold hne hdigits hnew

end LintRun.Diff
