import LintRun.Text.Line
import Mathlib.Data.List.Forall2

/-!
# Writing lines and reading them back

`Text.Written lines text` says that `text` holds the lines `lines`, each with a line end of its
own choice. Reading such a text gives the lines back, up to one thing: a line that ends with a
carriage return and is ended by a newline alone looks like one that is ended by both.
`Text.IsReadAs` is that relation between a line and what is read for it.

`Text.firstLines count text` is the text up to the end of its line `count`, so that its lines are
the first ones of the text. A text behind a line end has its lines behind the others.
-/

namespace LintRun.Text

/-- A text with the given lines. Each is ended by a newline, with or without a carriage return in
front of it, and the last need not be ended unless it is empty. -/
inductive Written : List String → String → Prop where
  | nil : Written [] ""
  | unended {line : String} (hne : line ≠ "") (hline : '\n' ∉ line.toList) : Written [line] line
  | newline {line : String} {lines : List String} {text : String}
      (hline : '\n' ∉ line.toList) (h : Written lines text) :
      Written (line :: lines) (line ++ "\n" ++ text)
  | returned {line : String} {lines : List String} {text : String}
      (hline : '\n' ∉ line.toList) (h : Written lines text) :
      Written (line :: lines) (line ++ "\r\n" ++ text)

/-- A line may lose one carriage return at its end when it is read. -/
def IsReadAs (line read : String) : Prop :=
  read = line ∨ line = read ++ "\r"

theorem IsReadAs.eq_of_getLast?_ne {line read : String} (h : IsReadAs line read)
    (hend : line.toList.getLast? ≠ some '\r') : read = line := by
  rcases h with h | h
  · exact h
  · exact absurd (by simp [h]) hend

/-- The characters without a carriage return at their end. -/
def dropReturn : List Char → List Char
  | [] => []
  | ['\r'] => []
  | c :: rest => c :: dropReturn rest

/-- Only a carriage return is dropped. -/
theorem dropReturn_eq_or (line : List Char) :
    dropReturn line = line ∨ line = dropReturn line ++ ['\r'] := by
  fun_induction dropReturn line with
  | case1 => exact Or.inl rfl
  | case2 => exact Or.inr rfl
  | case3 c rest _ ih =>
    refine ih.imp ?_ ?_
    · intro h
      rw [h]
    · intro h
      rw [List.cons_append, ← h]

/-- A carriage return at the end is dropped, whatever stands in front of it. -/
theorem dropReturn_append_return (line : List Char) : dropReturn (line ++ ['\r']) = line := by
  induction line with
  | nil => rfl
  | cons c rest ih =>
    rw [List.cons_append, dropReturn.eq_3 _ _ (by simp), ih]

/-- A character in front of a line belongs to the line, unless it is part of a line end. -/
theorem splitLines_cons {c : Char} {s line : List Char} {more : List (List Char)}
    (hc : c ≠ '\n') (hreturn : c = '\r' → s.head? ≠ some '\n')
    (h : splitLines s = line :: more) : splitLines (c :: s) = (c :: line) :: more := by
  rw [splitLines.eq_4 c s]
  · rw [h]
  · rintro rest rfl rfl
    exact hreturn rfl rfl
  · exact hc

/-- The characters up to a newline are a line, less a carriage return at its end. -/
theorem splitLines_append_newline {line : List Char} (hline : '\n' ∉ line) (s : List Char) :
    splitLines (line ++ '\n' :: s) = dropReturn line :: splitLines s := by
  fun_induction dropReturn line with
  | case1 => simp [splitLines]
  | case2 => simp [splitLines]
  | case3 c rest hne ih =>
    rw [List.mem_cons, not_or] at hline
    refine splitLines_cons (Ne.symm hline.1) (fun hc => ?_) (ih hline.2)
    cases rest with
    | nil => exact absurd rfl (hne hc)
    | cons d rest => simpa using Ne.symm (List.ne_of_not_mem_cons hline.2)

/-- Characters without a newline are one line. -/
theorem splitLines_of_not_mem {line : List Char} (hne : line ≠ []) (hline : '\n' ∉ line) :
    splitLines line = [line] := by
  induction line with
  | nil => exact absurd rfl hne
  | cons c rest ih =>
    rw [List.mem_cons, not_or] at hline
    cases rest with
    | nil =>
      rw [splitLines.eq_4 c [] (by rintro _ _ ⟨⟩) (Ne.symm hline.1)]
      rfl
    | cons d rest =>
      refine splitLines_cons (Ne.symm hline.1) (fun _ => ?_) (ih (by simp) hline.2)
      simpa using Ne.symm (List.ne_of_not_mem_cons hline.2)

/-- The lines of a written text are read back one by one. -/
theorem Written.forall₂_lines {lines : List String} {text : String} (h : Written lines text) :
    List.Forall₂ IsReadAs lines (Text.lines text) := by
  induction h with
  | nil => exact List.Forall₂.nil
  | @unended line hne hline =>
    have hsplit := splitLines_of_not_mem (by simpa using hne) hline
    rw [Text.lines, hsplit]
    exact List.Forall₂.cons (Or.inl (by simp)) List.Forall₂.nil
  | @newline line lines text hline h ih =>
    have htext : (line ++ "\n" ++ text).toList = line.toList ++ '\n' :: text.toList := by simp
    rw [Text.lines, htext, splitLines_append_newline hline]
    refine List.Forall₂.cons ((dropReturn_eq_or line.toList).imp ?_ ?_) ih
    · intro h
      rw [h, String.ofList_toList]
    · intro h
      rw [← String.toList_inj]
      simpa using h
  | @returned line lines text hline h ih =>
    have htext : (line ++ "\r\n" ++ text).toList =
        (line.toList ++ ['\r']) ++ '\n' :: text.toList := by simp
    rw [Text.lines, htext, splitLines_append_newline (by simpa using hline),
      dropReturn_append_return]
    exact List.Forall₂.cons (Or.inl (by simp)) ih

/-! ## Texts behind each other -/

/-- Behind a line end, the lines of a text are lines of their own. -/
theorem splitLines_append {s : List Char} (hs : s = [] ∨ s.getLast? = some '\n') (t : List Char) :
    splitLines (s ++ t) = splitLines s ++ splitLines t := by
  have hrest : ∀ {c : Char} {rest : List Char},
      (c :: rest = [] ∨ (c :: rest).getLast? = some '\n') →
        rest = [] ∨ rest.getLast? = some '\n' := by
    intro c rest h
    rcases rest with _ | ⟨d, rest⟩
    · exact .inl rfl
    · exact .inr (by simpa using h)
  fun_induction splitLines s with
  | case1 => rfl
  | case2 rest ih => simp [splitLines, ih (hrest (hrest hs))]
  | case3 rest ih => simp [splitLines, ih (hrest hs)]
  | case4 c rest _ hnewline hnil ih =>
    obtain rfl : rest = [] := splitLines_eq_nil_iff.1 hnil
    exact absurd (by simpa using hs) hnewline
  | case5 c rest hreturn hnewline first more hmore ih =>
    have hlines := ih (hrest hs)
    rw [hmore] at hlines
    refine splitLines_cons hnewline ?_ hlines
    rintro rfl hhead
    cases rest with
    | nil => cases hmore
    | cons d rest => exact hreturn rest rfl (by simpa using hhead)

theorem lines_append {s : String} (hs : s = "" ∨ s.toList.getLast? = some '\n') (t : String) :
    lines (s ++ t) = lines s ++ lines t := by
  have hs : s.toList = [] ∨ s.toList.getLast? = some '\n' := hs.imp_left String.toList_eq_nil_iff.2
  rw [lines, lines, lines, String.toList_append, splitLines_append hs, List.map_append]

/-- A line in front of a newline is read as it is, unless it ends with a carriage return. -/
theorem lines_append_newline {line : String} (hline : '\n' ∉ line.toList)
    (hend : line.toList.getLast? ≠ some '\r') (s : String) :
    lines (line ++ "\n" ++ s) = line :: lines s := by
  have htext : (line ++ "\n" ++ s).toList = line.toList ++ '\n' :: s.toList := by simp
  have hdrop : dropReturn line.toList = line.toList := by
    refine (dropReturn_eq_or line.toList).resolve_right fun h => hend ?_
    rw [h, List.getLast?_concat]
  rw [lines, htext, splitLines_append_newline hline, hdrop, List.map_cons, String.ofList_toList]
  rfl

/-! ## The first lines of a text -/

/-- The first lines of a list of characters, with their ends. -/
def takeLines : Nat → List Char → List Char
  | 0, _ => []
  | _ + 1, [] => []
  | count + 1, '\n' :: rest => '\n' :: takeLines count rest
  | count + 1, c :: rest => c :: takeLines (count + 1) rest

/-- The first lines of a text, with their ends. -/
def firstLines (count : Nat) (s : String) : String :=
  String.ofList (takeLines count s.toList)

theorem takeLines_append_newline {line : List Char} (hline : '\n' ∉ line) (count : Nat)
    (s : List Char) :
    takeLines (count + 1) (line ++ '\n' :: s) = line ++ '\n' :: takeLines count s := by
  induction line with
  | nil => rfl
  | cons c rest ih =>
    rw [List.mem_cons, not_or] at hline
    rw [List.cons_append, takeLines.eq_4 _ _ _ (Ne.symm hline.1), ih hline.2, List.cons_append]

theorem takeLines_of_not_mem {line : List Char} (hline : '\n' ∉ line) (count : Nat) :
    takeLines (count + 1) line = line := by
  induction line with
  | nil => rfl
  | cons c rest ih =>
    rw [List.mem_cons, not_or] at hline
    rw [takeLines.eq_4 _ _ _ (Ne.symm hline.1), ih hline.2]

theorem splitLines_takeLines (count : Nat) (s : List Char) :
    splitLines (takeLines count s) = (splitLines s).take count := by
  induction count generalizing s with
  | zero => simp [takeLines, splitLines]
  | succ count ih =>
    by_cases hnewline : '\n' ∈ s
    · obtain ⟨line, rest, rfl, hline⟩ := List.eq_append_cons_of_mem hnewline
      rw [takeLines_append_newline hline, splitLines_append_newline hline,
        splitLines_append_newline hline, List.take_succ_cons, ih]
    · rw [takeLines_of_not_mem hnewline]
      by_cases hnil : s = []
      · subst hnil
        rfl
      · rw [splitLines_of_not_mem hnil hnewline, List.take_succ_cons, List.take_nil]

theorem lines_firstLines (count : Nat) (s : String) :
    lines (firstLines count s) = (lines s).take count := by
  rw [lines, firstLines, String.toList_ofList, splitLines_takeLines, lines, List.map_take]

end LintRun.Text
