import LintRun.Proofs.Text.Blank
import LintRun.Proofs.Text.Line

/-!
# Lines of trimmed texts

A text that does not start with a blank loses blanks at its end only when it is trimmed. Its last
line gets shorter then, and the blank lines behind that line are gone. All other lines stay.

## Main definitions

* `EndsSolid` says that a list of characters does not end with a blank.
* `PaddedLines` relates the lines of a trimmed text to those of the text itself.

## Main statements

* `paddedLines_lines_trim`: the lines of a trimmed text.
-/

namespace LintRun.Text

/-- All characters are blank. -/
def AllBlank (s : List Char) : Prop :=
  ∀ c ∈ s, isBlank c = true

/-- There is a last character, and it is not blank. -/
def EndsSolid (s : List Char) : Prop :=
  ∃ c, s.getLast? = some c ∧ isBlank c = false

/-- What stands in front does not matter to the end. -/
theorem EndsSolid.append {s : List Char} (h : EndsSolid s) (front : List Char) :
    EndsSolid (front ++ s) := by
  obtain ⟨d, hd, hsolid⟩ := h
  exact ⟨d, by rw [List.getLast?_append, hd]; rfl, hsolid⟩

theorem EndsSolid.of_cons {c : Char} {s : List Char} (h : EndsSolid (c :: s)) (hne : s ≠ []) :
    EndsSolid s := by
  obtain ⟨d, hd, hsolid⟩ := h
  obtain ⟨e, s, rfl⟩ := List.exists_cons_of_ne_nil hne
  exact ⟨d, by rwa [List.getLast?_cons_cons] at hd, hsolid⟩

/-- Behind a blank there is more. -/
theorem EndsSolid.of_blank_cons {c : Char} {s : List Char} (h : EndsSolid (c :: s))
    (hc : isBlank c = true) : EndsSolid s := by
  refine h.of_cons ?_
  rintro rfl
  obtain ⟨d, hd, hsolid⟩ := h
  obtain rfl : c = d := by simpa using hd
  rw [hc] at hsolid
  cases hsolid

/-- Blanks that are dropped at the end are blanks behind what stays. -/
theorem exists_append_dropBlankEnd (s : List Char) :
    ∃ pad, AllBlank pad ∧ s = dropBlankEnd s ++ pad := by
  refine ⟨(s.reverse.takeWhile isBlank).reverse, fun c hc => ?_, ?_⟩
  · exact List.mem_takeWhile_imp (List.mem_reverse.1 hc)
  · rw [dropBlankEnd, ← List.reverse_append, List.takeWhile_append_dropWhile, List.reverse_reverse]

theorem dropBlankEnd_of_allBlank {s : List Char} (h : AllBlank s) : dropBlankEnd s = [] := by
  rw [dropBlankEnd, List.dropWhile_eq_nil_iff.2 fun c hc => h c (List.mem_reverse.1 hc),
    List.reverse_nil]

theorem dropBlankEnd_of_endsSolid {s : List Char} (h : EndsSolid s) : dropBlankEnd s = s := by
  obtain ⟨d, hd, hsolid⟩ := h
  rw [dropBlankEnd_eq_self_iff]
  rintro c hc
  obtain rfl : d = c := by simpa [hd] using hc
  exact hsolid

theorem endsSolid_dropBlankEnd {s : List Char} (h : dropBlankEnd s ≠ []) :
    EndsSolid (dropBlankEnd s) := by
  obtain ⟨c, hc⟩ := Option.isSome_iff_exists.1 (List.getLast?_isSome.2 h)
  have hidem : dropBlankEnd (dropBlankEnd s) = dropBlankEnd s := by
    rw [dropBlankEnd, dropBlankEnd, List.reverse_reverse, List.dropWhile_idempotent]
  exact ⟨c, hc, dropBlankEnd_eq_self_iff.1 hidem c hc⟩

/-- Blanks behind a list do not matter to what stays of it. -/
theorem dropBlankEnd_append_of_allBlank (s : List Char) {pad : List Char} (h : AllBlank pad) :
    dropBlankEnd (s ++ pad) = dropBlankEnd s := by
  rw [dropBlankEnd, dropBlankEnd, List.reverse_append,
    List.dropWhile_append_of_pos fun c hc => h c (List.mem_reverse.1 hc)]

theorem strip_append_of_allBlank (s : List Char) {pad : List Char} (h : AllBlank pad) :
    strip (s ++ pad) = strip s := by
  rw [strip, strip, dropBlank, dropBlank, List.dropWhile_append]
  split
  · next hs => rw [List.isEmpty_iff.1 hs, List.dropWhile_eq_nil_iff.2 h]
  · exact dropBlankEnd_append_of_allBlank _ h

theorem trimEnd_of_endsSolid {s : String} (h : EndsSolid s.toList) : trimEnd s = s := by
  rw [trimEnd, dropBlankEnd_of_endsSolid h, String.ofList_toList]

theorem trimEnd_append_of_allBlank (s : String) {pad : String} (h : AllBlank pad.toList) :
    trimEnd (s ++ pad) = trimEnd s := by
  rw [trimEnd, trimEnd, String.toList_append, dropBlankEnd_append_of_allBlank _ h]

/-! ## Lines -/

/-- Every character of a line is one of the text. -/
theorem mem_of_mem_splitLines {s line : List Char} {c : Char} (hline : line ∈ splitLines s)
    (hc : c ∈ line) : c ∈ s := by
  fun_induction splitLines s generalizing line with
  | case1 => cases hline
  | case2 rest ih =>
    rcases List.mem_cons.1 hline with rfl | hline
    · cases hc
    · exact List.mem_cons_of_mem _ (List.mem_cons_of_mem _ (ih hline hc))
  | case3 rest ih =>
    rcases List.mem_cons.1 hline with rfl | hline
    · cases hc
    · exact List.mem_cons_of_mem _ (ih hline hc)
  | case4 d rest _ _ hnil ih =>
    rw [List.mem_singleton.1 hline, List.mem_singleton] at hc
    exact hc ▸ List.mem_cons_self
  | case5 d rest _ _ first more hmore ih =>
    rcases List.mem_cons.1 hline with rfl | hline
    · rcases List.mem_cons.1 hc with rfl | hc
      · exact List.mem_cons_self
      · exact List.mem_cons_of_mem _ (ih (hmore ▸ List.mem_cons_self) hc)
    · exact List.mem_cons_of_mem _ (ih (hmore ▸ List.mem_cons_of_mem _ hline) hc)

/-- Blanks behind a text go to the end of its last line, and to blank lines behind that one. -/
theorem exists_splitLines_append {s pad : List Char} (hs : EndsSolid s) (hpad : AllBlank pad) :
    ∃ front last more blanks, splitLines s = front ++ [last] ∧
      splitLines (s ++ pad) = front ++ (last ++ more) :: blanks ∧
      EndsSolid last ∧ AllBlank more ∧ ∀ blank ∈ blanks, AllBlank blank := by
  fun_induction splitLines s with
  | case1 => obtain ⟨_, ⟨⟩, -⟩ := hs
  | case2 rest ih =>
    obtain ⟨front, last, more, blanks, hlines, hpadded, hrest⟩ :=
      ih ((hs.of_blank_cons (by decide)).of_blank_cons (by decide))
    refine ⟨[] :: front, last, more, blanks, ?_, ?_, hrest⟩
    · rw [hlines, List.cons_append]
    · simp only [List.cons_append, splitLines, hpadded]
  | case3 rest ih =>
    obtain ⟨front, last, more, blanks, hlines, hpadded, hrest⟩ := ih (hs.of_blank_cons (by decide))
    refine ⟨[] :: front, last, more, blanks, ?_, ?_, hrest⟩
    · rw [hlines, List.cons_append]
    · simp only [List.cons_append, splitLines, hpadded]
  | case4 c rest hreturn hnewline hnil ih =>
    obtain rfl : rest = [] := splitLines_eq_nil_iff.1 hnil
    have hsolid : isBlank c = false := by
      obtain ⟨d, hd, hsolid⟩ := hs
      obtain rfl : c = d := by simpa using hd
      exact hsolid
    cases hblanks : splitLines pad with
    | nil =>
      obtain rfl : pad = [] := splitLines_eq_nil_iff.1 hblanks
      refine ⟨[], [c], [], [], rfl, ?_, hs, by rintro _ ⟨⟩, by rintro _ ⟨⟩⟩
      rw [List.append_nil, splitLines_of_not_mem (by simp) (by simpa using Ne.symm hnewline)]
      rfl
    | cons more blanks =>
      have hall : ∀ line ∈ splitLines pad, AllBlank line := fun line hline d hd =>
        hpad d (mem_of_mem_splitLines hline hd)
      rw [hblanks] at hall
      refine ⟨[], [c], more, blanks, rfl, ?_, hs, hall _ List.mem_cons_self,
        fun line hline => hall line (List.mem_cons_of_mem _ hline)⟩
      refine splitLines_cons hnewline ?_ hblanks
      rintro rfl
      cases hsolid
  | case5 c rest hreturn hnewline first lines hmore ih =>
    have hne : rest ≠ [] := by
      rintro rfl
      cases hmore
    obtain ⟨front, last, more, blanks, hlines, hpadded, hlast, hrest⟩ := ih (hs.of_cons hne)
    have hcons : ∀ {line : List Char} {lines : List (List Char)},
        splitLines (rest ++ pad) = line :: lines →
          splitLines (c :: rest ++ pad) = (c :: line) :: lines := by
      intro line lines hsplit
      refine splitLines_cons hnewline ?_ hsplit
      rintro rfl hhead
      obtain ⟨d, rest, rfl⟩ := List.exists_cons_of_ne_nil hne
      obtain rfl : d = '\n' := by simpa using hhead
      exact hreturn rest rfl rfl
    rw [hmore] at hlines
    cases front with
    | nil =>
      rw [List.nil_append, List.cons.injEq] at hlines
      obtain ⟨rfl, rfl⟩ := hlines
      exact ⟨[], c :: first, more, blanks, rfl, hcons hpadded, hlast.append [c], hrest⟩
    | cons line front =>
      rw [List.cons_append, List.cons.injEq] at hlines
      obtain ⟨rfl, rfl⟩ := hlines
      exact ⟨(c :: first) :: front, last, more, blanks, rfl, hcons hpadded, hlast, hrest⟩

/-- The lines of a text that ends without blanks, and the lines of the text with blanks behind it.
What is behind the last line is blank. -/
inductive PaddedLines : List String → List String → Prop where
  | nil : PaddedLines [] []
  | last {line pad : String} {blanks : List String} (hline : EndsSolid line.toList)
      (hpad : AllBlank pad.toList) (hblanks : ∀ blank ∈ blanks, AllBlank blank.toList) :
      PaddedLines [line] ((line ++ pad) :: blanks)
  | cons (line : String) {lines padded : List String} (h : PaddedLines lines padded) :
      PaddedLines (line :: lines) (line :: padded)

theorem paddedLines_lines {s : String} (pad : String) (hs : EndsSolid s.toList)
    (hpad : AllBlank pad.toList) : PaddedLines (lines s) (lines (s ++ pad)) := by
  obtain ⟨front, last, more, blanks, hlines, hpadded, hlast, hmore, hblanks⟩ :=
    exists_splitLines_append hs hpad
  rw [lines, lines, String.toList_append, hlines, hpadded]
  clear hlines hpadded
  induction front with
  | nil =>
    rw [List.nil_append, List.nil_append, List.map_singleton, List.map_cons, String.ofList_append]
    refine .last (by rwa [String.toList_ofList]) (by rwa [String.toList_ofList]) ?_
    intro blank hblank
    obtain ⟨line, hline, rfl⟩ := List.mem_map.1 hblank
    rw [String.toList_ofList]
    exact hblanks line hline
  | cons line front ih => exact .cons _ ih

/-- A text that does not start with a blank loses the blanks at its end when it is trimmed. -/
theorem paddedLines_lines_trim {s : String}
    (hs : ∀ c, s.toList.head? = some c → isBlank c = false) :
    PaddedLines (lines (trim s)) (lines s) := by
  obtain ⟨pad, hpad, hsplit⟩ := exists_append_dropBlankEnd s.toList
  have htrim : (trim s).toList = dropBlankEnd s.toList := by
    rw [trim, String.toList_ofList, strip, dropBlank_eq_self_iff.2 hs]
  by_cases hnil : dropBlankEnd s.toList = []
  · -- A text with blanks only would start with one.
    have hempty : s.toList = [] := by
      rw [hnil, List.nil_append] at hsplit
      by_contra hne
      obtain ⟨c, rest, hcons⟩ := List.exists_cons_of_ne_nil hne
      have hblank := hpad c (by rw [← hsplit, hcons]; exact List.mem_cons_self)
      rw [hs c (by rw [hcons]; rfl)] at hblank
      cases hblank
    rw [lines, lines, htrim, hnil, hempty]
    exact .nil
  · have hsolid : EndsSolid (trim s).toList := by
      rw [htrim]
      exact endsSolid_dropBlankEnd hnil
    have hs : s = trim s ++ String.ofList pad := by
      rw [← String.toList_inj, String.toList_append, htrim, String.toList_ofList, ← hsplit]
    have hlines := paddedLines_lines (String.ofList pad) hsolid (by rwa [String.toList_ofList])
    rwa [← hs] at hlines

end LintRun.Text
