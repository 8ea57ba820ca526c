import LintRun.Proofs.Count
import LintRun.Proofs.Diff.Printing
import LintRun.Proofs.List
import LintRun.Proofs.Text.Blank

/-!
# Reading printed headers

What `Diff.parse` reads from the headers that `Diff.PrintsFiles` admits: the path of a file from
its two headers, and the numbers of a hunk from its header.
-/

namespace LintRun.Diff

/-! ## Headers of files -/

/-- A header gives the path behind its mark, with or without a time. -/
theorem headerPath_of_stamped {mark path line : String} (hpath : IsHeaderPath path)
    (h : Stamped (mark ++ path) line) :
    ∃ rest, line.toList = mark.toList ++ rest ∧ headerPath rest = path := by
  have hstrip := Text.trim_eq_self_iff.1 hpath.trim_eq
  have htab : ∀ c ∈ path.toList, decide (c ≠ '\t') = true := by
    intro c hc
    simpa using ne_of_mem_of_not_mem hc hpath.tab_not_mem
  cases h with
  | plain =>
    refine ⟨path.toList, String.toList_append, ?_⟩
    rw [headerPath, List.takeWhile_eq_self_iff.2 htab, hstrip, String.ofList_toList]
  | stamped time =>
    refine ⟨path.toList ++ '\t' :: time.toList, by simp, ?_⟩
    rw [headerPath, List.takeWhile_append_of_pos htab]
    simp [hstrip]

/-- A mark in front of a path makes a path. -/
theorem IsHeaderPath.append {mark path : String} (h : IsHeaderPath path)
    (hmark : IsHeaderPath mark) (hne : mark ≠ "") : IsHeaderPath (mark ++ path) := by
  have hpath := Text.strip_eq_self_iff.1 (Text.trim_eq_self_iff.1 h.trim_eq)
  have hmarkEnds := Text.strip_eq_self_iff.1 (Text.trim_eq_self_iff.1 hmark.trim_eq)
  refine ⟨Text.trim_eq_self_iff.2 (Text.strip_eq_self_iff.2 ⟨?_, ?_⟩), ?_⟩
  · intro c hc
    rw [String.toList_append, List.head?_append_of_ne_nil _ (by simpa using hne)] at hc
    exact hmarkEnds.1 c hc
  · intro c hc
    rw [String.toList_append, List.getLast?_append] at hc
    cases hlast : path.toList.getLast? with
    | none => exact hmarkEnds.2 c (by simpa [hlast] using hc)
    | some d => exact hpath.2 c (by simpa [hlast] using hc)
  · simp [h.tab_not_mem, hmark.tab_not_mem]

theorem IsHeaderPath.getLast?_ne {path : String} (h : IsHeaderPath path) :
    path.toList.getLast? ≠ some '\r' := by
  intro hend
  have hblank := (Text.strip_eq_self_iff.1 (Text.trim_eq_self_iff.1 h.trim_eq)).2 _ hend
  exact absurd hblank (by decide +kernel)

theorem IsHeaderPath.getLast?_append_ne {mark path : String} (h : IsHeaderPath path)
    (hmark : mark.toList.getLast? ≠ some '\r') :
    (mark ++ path).toList.getLast? ≠ some '\r' := by
  rw [String.toList_append, List.getLast?_append]
  cases hlast : path.toList.getLast? with
  | none => simpa using hmark
  | some c => simpa [hlast] using h.getLast?_ne

theorem isHeaderPath_old {path : String} (h : IsHeaderPath path) :
    IsHeaderPath ("a/" ++ path) :=
  h.append ⟨by decide +kernel, by decide +kernel⟩ (by decide)

theorem isHeaderPath_new {path : String} (h : IsHeaderPath path) :
    IsHeaderPath ("b/" ++ path) :=
  h.append ⟨by decide +kernel, by decide +kernel⟩ (by decide)

/-- The path of a file that is there and whose headers are not both marked is the new one. -/
theorem newPath_of_plain {oldPath path : String} (hnull : path ≠ nullPath)
    (hmarks : ¬("a/".toList <+: oldPath.toList ∧ "b/".toList <+: path.toList)) :
    newPath (some oldPath) path = path := by
  simp only [newPath, if_neg hnull, Option.map_some]
  split
  · next old rest hold hnew =>
    refine absurd ⟨?_, ?_⟩ hmarks
    · exact ⟨old, by rw [Option.some.inj hold]; rfl⟩
    · exact ⟨rest, by rw [hnew]; rfl⟩
  · rfl

theorem newPath_of_marked (path : String) :
    newPath (some ("a/" ++ path)) ("b/" ++ path) = path := by
  have hnull : "b/" ++ path ≠ nullPath := by
    intro h
    have := congrArg (fun s => s.toList.head?) h
    simp [nullPath] at this
  simp [newPath, hnull]

/-- The headers of a file give its path. -/
theorem FileHeaders.exists_rest {path old new : String} (h : FileHeaders path old new)
    (hpath : IsHeaderPath path) : ∃ oldRest newRest,
      OuterLine.ofChars old.toList = .oldFile oldRest ∧
      OuterLine.ofChars new.toList = .newFile newRest ∧
      newPath (some (headerPath oldRest)) (headerPath newRest) = path := by
  cases h with
  | @plain oldPath old new holdPath hnull hmarks hold hnew =>
    obtain ⟨oldRest, holdLine, holdRest⟩ := headerPath_of_stamped holdPath hold
    obtain ⟨newRest, hnewLine, hnewRest⟩ := headerPath_of_stamped hpath hnew
    refine ⟨oldRest, newRest, by rw [holdLine]; rfl, by rw [hnewLine]; rfl, ?_⟩
    rw [holdRest, hnewRest, newPath_of_plain hnull hmarks]
  | @marked old new hold hnew =>
    have hold : Stamped ("--- " ++ ("a/" ++ path)) old := by
      rwa [← String.append_assoc]
    have hnew : Stamped ("+++ " ++ ("b/" ++ path)) new := by
      rwa [← String.append_assoc]
    obtain ⟨oldRest, holdLine, holdRest⟩ := headerPath_of_stamped (isHeaderPath_old hpath) hold
    obtain ⟨newRest, hnewLine, hnewRest⟩ := headerPath_of_stamped (isHeaderPath_new hpath) hnew
    refine ⟨oldRest, newRest, by rw [holdLine]; rfl, by rw [hnewLine]; rfl, ?_⟩
    rw [holdRest, hnewRest, newPath_of_marked]

/-! ## Headers of hunks -/

/-- A run of digits at the front is read up to the next character that is none. -/
theorem digits?_append {run : List Char} (rest : List Char) (hne : run ≠ [])
    (hrun : ∀ c ∈ run, Text.isDecimal c = true)
    (hrest : ∀ c, rest.head? = some c → Text.isDecimal c = false) :
    Text.digits? (run ++ rest) = some (run, rest) := by
  obtain ⟨htake, hdrop⟩ := takeWhile_append_of_stop hrun hrest
  rw [Text.digits?, htake, hdrop]
  cases run with
  | nil => exact absurd rfl hne
  | cons c run => rfl

private theorem isDecimal_comma : Text.isDecimal ',' = false := by decide +kernel

private theorem isDecimal_blank : Text.isDecimal ' ' = false := by decide +kernel

private theorem isDecimal_of_mem_toString {n : Nat} {c : Char} (h : c ∈ (toString n).toList) :
    Text.isDecimal c = true :=
  Text.isDecimal_of_isDigit (Count.isDigit_of_mem_toString h)

/-- A printed range is read up to the blank behind it, and its count can be read if it is one. -/
theorem RangeText.exists_count {start text : String} {count : Nat} (h : RangeText start count text)
    (hne : start ≠ "") (hdigits : ∀ c ∈ start.toList, Text.isDecimal c = true)
    (hcount : count ≤ Count.max) (rest : List Char) : ∃ count?,
      range? (text.toList ++ ' ' :: rest) = some ((start.toList, count?), ' ' :: rest) ∧
      readCount count? = some count := by
  have hne : start.toList ≠ [] := by simpa using hne
  cases h with
  | counted =>
    refine ⟨some (toString count).toList, ?_, ?_⟩
    · have hcomma := digits?_append (',' :: ((toString count).toList ++ ' ' :: rest)) hne
        hdigits (by rintro c ⟨⟩; exact isDecimal_comma)
      have hblank := digits?_append (' ' :: rest) (Count.toString_toList_ne_nil count)
        (fun c hc => isDecimal_of_mem_toString hc) (by rintro c ⟨⟩; exact isDecimal_blank)
      have htext : (start ++ "," ++ toString count).toList ++ ' ' :: rest =
          start.toList ++ ',' :: ((toString count).toList ++ ' ' :: rest) := by simp
      simp only [range?, htext, hcomma, hblank, Option.bind_eq_bind, Option.bind_some,
        Option.pure_def]
    · rw [readCount, Count.read_toString hcount]
      rfl
  | single hone =>
    refine ⟨none, ?_, by rw [readCount, hone]⟩
    have hblank := digits?_append (' ' :: rest) hne hdigits
      (by rintro c ⟨⟩; exact isDecimal_blank)
    rw [range?, hblank]
    rfl

/-- The form of a hunk header: two ranges with the marks around them. -/
theorem HunkRange.ofChars?_eq_some_iff {s : List Char} {range : HunkRange} :
    ofChars? s = some range ↔ ∃ old new tail,
      s = "@@ -".toList ++ old ∧
      range? old = some ((range.oldStart, range.oldCount?), " +".toList ++ new) ∧
      range? new = some ((range.newStart, range.newCount?), " @@".toList ++ tail) := by
  constructor
  · intro h
    unfold ofChars? at h
    split at h
    · next old =>
      obtain ⟨⟨⟨oldStart, oldCount?⟩, rest⟩, hold, h⟩ := Option.bind_eq_some_iff.1 h
      dsimp only at h
      split at h
      · next new =>
        obtain ⟨⟨⟨newStart, newCount?⟩, rest⟩, hnew, h⟩ := Option.bind_eq_some_iff.1 h
        dsimp only at h
        split at h
        · next tail =>
          cases h
          exact ⟨old, new, tail, rfl, hold, hnew⟩
        · cases h
      · cases h
    · cases h
  · rintro ⟨old, new, tail, rfl, hold, hnew⟩
    simp [ofChars?, hold, hnew]

/-- A hunk header is told by its first characters. -/
theorem HunkHeader.ofChars_eq {hunk : Hunk} {line : String} (h : HunkHeader hunk line) :
    OuterLine.ofChars line.toList = .hunk := by
  cases h with
  | mk trailer => simp [OuterLine.ofChars]

/-- A hunk header has the form of one, and gives the numbers of its hunk. -/
theorem HunkHeader.exists_range {hunk : Hunk} {line : String} (h : HunkHeader hunk line)
    (hhunk : hunk.IsPrintable) : ∃ range,
      HunkRange.ofChars? line.toList = some range ∧
      range.hunk? = some { hunk with lines := [] } := by
  cases h with
  | @mk newStart old new trailer hold hne hdigits hnew =>
    obtain ⟨oldCount?, holdRange, holdCount⟩ := hold.exists_count
      (by simp)
      (fun c hc => isDecimal_of_mem_toString hc) hhunk.oldLines_le
      ('+' :: (new.toList ++ ' ' :: '@' :: '@' :: trailer.toList))
    obtain ⟨newCount?, hnewRange, hnewCount⟩ := hnew.exists_count hne hdigits
      hhunk.newLines_le ('@' :: '@' :: trailer.toList)
    have hline : ("@@ -" ++ old ++ " +" ++ new ++ " @@" ++ trailer).toList =
        '@' :: '@' :: ' ' :: '-' :: (old.toList ++
          ' ' :: '+' :: (new.toList ++ ' ' :: '@' :: '@' :: trailer.toList)) := by simp
    refine ⟨⟨(toString hunk.oldStart).toList, oldCount?, newStart.toList, newCount?⟩, ?_, ?_⟩
    · simp only [hline, HunkRange.ofChars?, holdRange, hnewRange, Option.bind_eq_bind,
        Option.bind_some, Option.pure_def]
    · rw [HunkRange.hunk?, Count.read_toString hhunk.oldStart_le, holdCount, hnewCount]
      rfl

end LintRun.Diff
