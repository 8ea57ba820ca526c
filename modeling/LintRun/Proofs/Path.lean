import LintRun.Path
import Mathlib.Data.List.Infix

/-!
# Texts of paths

The text of a path is put together from names with slashes between them, and is cut into them again
when the path is followed. A backslash is a character like any other, until it is replaced.

## Main statements

* `Path.pieces_intercalate`: names without slashes come back from the text.
* `Path.exists_join_eq`: how two paths are put together.
-/

namespace LintRun

namespace Text

variable {sep : Char}

theorem splitAt_append_sep (sep : Char) (front rest : List Char) :
    splitAt sep (front ++ sep :: rest) = splitAt sep front ++ splitAt sep rest := by
  induction front with
  | nil => simp [splitAt]
  | cons c front ih =>
    rw [List.cons_append, splitAt, splitAt, ih]
    by_cases hc : c = sep
    · rw [if_pos hc, if_pos hc, List.cons_append]
    · rw [if_neg hc, if_neg hc]
      cases hfront : splitAt sep front with
      | nil => exact absurd hfront (splitAt_ne_nil sep front)
      | cons piece more => rfl

theorem splitAt_of_not_mem {s : List Char} (h : sep ∉ s) : splitAt sep s = [s] := by
  induction s with
  | nil => rfl
  | cons c rest ih =>
    rw [List.mem_cons, not_or] at h
    rw [splitAt, if_neg (Ne.symm h.1), ih h.2]

end Text

namespace Path

/-! ## Slashes for backslashes -/

theorem toList_slashed (text : String) :
    (slashed text).toList = text.toList.map fun c => if c = '\\' then '/' else c :=
  String.toList_map

theorem map_eq_self_of_not_mem {s : List Char} (h : '\\' ∉ s) :
    (s.map fun c => if c = '\\' then '/' else c) = s := by
  have hself : ∀ c ∈ s, (if c = '\\' then '/' else c) = c := by
    intro c hc
    refine if_neg ?_
    rintro rfl
    exact h hc
  rw [List.map_congr_left hself, List.map_id']

theorem slashed_of_not_mem {text : String} (h : '\\' ∉ text.toList) : slashed text = text := by
  rw [← String.toList_inj, toList_slashed, map_eq_self_of_not_mem h]

theorem not_mem_slashed (text : String) : '\\' ∉ (slashed text).toList := by
  rw [toList_slashed, List.mem_map]
  rintro ⟨c, -, hc⟩
  split at hc
  · exact absurd hc (by decide)
  · next hne => exact hne hc

/-- An end without slashes and backslashes is the end of the text itself. -/
theorem suffix_slashed_iff {suffix text : String} (hslash : '/' ∉ suffix.toList)
    (hback : '\\' ∉ suffix.toList) :
    suffix.toList <:+ (slashed text).toList ↔ suffix.toList <:+ text.toList := by
  rw [toList_slashed, List.suffix_map_iff]
  constructor
  · rintro ⟨s, hs, heq⟩
    -- A backslash in the text would be a slash in the end.
    have hs' : '\\' ∉ s := by
      intro hmem
      rw [heq] at hslash
      exact hslash (List.mem_map.2 ⟨_, hmem, rfl⟩)
    rwa [heq, map_eq_self_of_not_mem hs']
  · intro h
    exact ⟨_, h, (map_eq_self_of_not_mem hback).symm⟩

/-! ## Pieces -/

theorem pieces_append_slash (front rest : String) :
    pieces ⟨front ++ "/" ++ rest⟩ = pieces ⟨front⟩ ++ pieces ⟨rest⟩ := by
  have hlist : (front ++ "/" ++ rest).toList = front.toList ++ '/' :: rest.toList := by simp
  rw [pieces, Text.splitText, hlist, Text.splitAt_append_sep, List.map_append]
  rfl

/-- Names without slashes are the pieces of the path with slashes between them. -/
theorem pieces_intercalate {names : List String} (hne : names ≠ [])
    (h : ∀ name ∈ names, '/' ∉ name.toList) : pieces ⟨"/".intercalate names⟩ = names := by
  have hsingle : ∀ name : String, '/' ∉ name.toList → pieces ⟨name⟩ = [name] := by
    intro name hname
    rw [pieces, Text.splitText, Text.splitAt_of_not_mem hname, List.map_singleton,
      String.ofList_toList]
  induction names with
  | nil => exact absurd rfl hne
  | cons name rest ih =>
    obtain ⟨hname, hrest⟩ := List.forall_mem_cons.1 h
    cases rest with
    | nil => rw [String.intercalate_singleton, hsingle name hname]
    | cons next more =>
      rw [String.intercalate_cons_cons, pieces_append_slash, hsingle name hname,
        ih (by simp) hrest]
      rfl

theorem mem_intercalate_iff {c : Char} (hc : c ≠ '/') {names : List String} :
    c ∈ ("/".intercalate names).toList ↔ ∃ name ∈ names, c ∈ name.toList := by
  induction names with
  | nil => simp
  | cons name rest ih =>
    cases rest with
    | nil => simp
    | cons next more =>
      rw [String.intercalate_cons_cons, String.toList_append, List.mem_append, ih]
      simp [hc]

theorem isAbsolute_intercalate {names : List String} (hne : names ≠ [])
    (h : ∀ name ∈ names, name ≠ "" ∧ '/' ∉ name.toList) :
    isAbsolute ⟨"/".intercalate names⟩ = false := by
  obtain ⟨name, rest, rfl⟩ := List.exists_cons_of_ne_nil hne
  obtain ⟨hname, hslash⟩ := h name List.mem_cons_self
  obtain ⟨c, more, hlist⟩ : ∃ c more, name.toList = c :: more := by
    rw [← List.ne_nil_iff_exists_cons]
    simpa using hname
  have hc : c ≠ '/' := by
    rintro rfl
    exact hslash (hlist ▸ List.mem_cons_self)
  cases rest <;> simp [isAbsolute, String.intercalate_cons_cons, hlist, hc]

/-- A relative path is joined with one slash in front of it, which may be the last character of the
other path. -/
theorem exists_join_eq {p q : Path} (hp : p.text ≠ "") (hq : q.isAbsolute = false) :
    ∃ front tail, p.text = front ++ tail ∧ (tail = "" ∨ tail = "/") ∧
      p.join q = ⟨front ++ "/" ++ q.text⟩ := by
  rw [join, hq]
  cases hlast : p.text.toList.getLast? with
  | none => exact absurd (by simpa using hlast) hp
  | some c =>
    by_cases hc : c = '/'
    · subst hc
      obtain ⟨front, hfront⟩ := List.getLast?_eq_some_iff.1 hlast
      have htext : p.text = String.ofList front ++ "/" := by
        rw [← String.toList_inj, hfront]
        simp
      exact ⟨_, "/", htext, Or.inr rfl, by simp [htext]⟩
    · exact ⟨p.text, "", by simp, Or.inl rfl, by simp [hc]⟩

section Join

variable {p q : Path} (hp : p.text ≠ "") (hq : q.isAbsolute = false)

include hp hq

theorem isAbsolute_join : (p.join q).isAbsolute = p.isAbsolute := by
  obtain ⟨front, tail, hfront, htail, hjoin⟩ := exists_join_eq hp hq
  rw [hjoin, isAbsolute, isAbsolute, hfront]
  cases hlist : front.toList with
  | nil =>
    -- Then the slash is the first character of both paths.
    have htail' : tail = "/" := by
      refine htail.resolve_left fun hempty => hp ?_
      rw [hfront, hempty, String.append_empty, ← String.toList_inj, hlist]
      rfl
    simp [hlist, htail']
  | cons c rest => simp [hlist]

theorem text_join_ne_empty : (p.join q).text ≠ "" := by
  obtain ⟨front, tail, -, -, hjoin⟩ := exists_join_eq hp hq
  simp [hjoin]

theorem utf8ByteSize_add_le_join :
    p.text.utf8ByteSize + q.text.utf8ByteSize ≤ (p.join q).text.utf8ByteSize := by
  obtain ⟨front, tail, hfront, rfl | rfl, hjoin⟩ := exists_join_eq hp hq
  · rw [hjoin, hfront, String.append_empty, String.utf8ByteSize_append, String.utf8ByteSize_append]
    omega
  · rw [hjoin, hfront, String.utf8ByteSize_append, String.utf8ByteSize_append,
      String.utf8ByteSize_append]

theorem mem_join_iff {c : Char} (hc : c ≠ '/') :
    c ∈ (p.join q).text.toList ↔ c ∈ p.text.toList ∨ c ∈ q.text.toList := by
  obtain ⟨front, tail, hfront, rfl | rfl, hjoin⟩ := exists_join_eq hp hq <;>
    simp [hjoin, hfront, hc]

/-- The pieces of both paths are those of the joined path, but for an empty one at the end of the
first path. -/
theorem exists_pieces_join : ∃ front empties, p.pieces = front ++ empties ∧
    (∀ piece ∈ empties, piece = "") ∧ (p.join q).pieces = front ++ q.pieces := by
  obtain ⟨front, tail, hfront, htail, hjoin⟩ := exists_join_eq hp hq
  have hpieces : (p.join q).pieces = pieces ⟨front⟩ ++ q.pieces := by
    rw [hjoin, pieces_append_slash]
  rcases htail with rfl | rfl
  · refine ⟨pieces ⟨front⟩, [], ?_, List.forall_mem_nil _, hpieces⟩
    rw [List.append_nil, pieces, pieces, hfront, String.append_empty]
  · refine ⟨pieces ⟨front⟩, [""], ?_, by simp, hpieces⟩
    have hempty : pieces ⟨""⟩ = [""] := rfl
    rw [← hempty, ← pieces_append_slash, pieces, pieces, hfront, String.append_empty]

end Join

end Path

end LintRun
