import LintRun.Text.Blank
import Mathlib.Data.List.DropRight

/-!
# Trimmed texts

A list of characters is trimmed if neither its first nor its last character is blank. These are
the lists that `Text.strip` leaves as they are, and so are the texts that `Text.trim` leaves.
-/

namespace LintRun.Text

/-- Blank characters at the front go exactly if there is one. -/
theorem dropBlank_eq_self_iff {s : List Char} :
    dropBlank s = s ↔ ∀ c, s.head? = some c → isBlank c = false := by
  cases s with
  | nil => simp [dropBlank]
  | cons c rest => simp [dropBlank, List.dropWhile_eq_self_iff]

/-- Blank characters at the back go exactly if there is one. -/
theorem dropBlankEnd_eq_self_iff {s : List Char} :
    dropBlankEnd s = s ↔ ∀ c, s.getLast? = some c → isBlank c = false := by
  rw [← List.head?_reverse, ← dropBlank_eq_self_iff, dropBlankEnd, dropBlank,
    List.reverse_eq_iff]

/-- Both ends of a list that is not stripped further are not blank. -/
theorem strip_eq_self_iff {s : List Char} :
    strip s = s ↔ (∀ c, s.head? = some c → isBlank c = false) ∧
      ∀ c, s.getLast? = some c → isBlank c = false := by
  rw [← dropBlank_eq_self_iff, ← dropBlankEnd_eq_self_iff]
  constructor
  · intro h
    -- Stripping the back does not make up for a character lost at the front.
    have hfront : dropBlank s = s := by
      refine (List.dropWhile_suffix isBlank).eq_of_length_le ?_
      have hback : (strip s).length ≤ (dropBlank s).length := by
        simpa [strip, dropBlankEnd] using
          (List.dropWhile_suffix (l := (dropBlank s).reverse) isBlank).length_le
      rwa [h] at hback
    exact ⟨hfront, by rwa [strip, hfront] at h⟩
  · rintro ⟨hfront, hback⟩
    rw [strip, hfront, hback]

theorem dropBlankEnd_prefix (s : List Char) : dropBlankEnd s <+: s :=
  List.rdropWhile_prefix isBlank s

/-- What stands in front of a text that is not blank does not matter to its end. -/
theorem dropBlankEnd_append {front s : List Char} {c : Char} (hc : c ∈ s)
    (hblank : isBlank c = false) : dropBlankEnd (front ++ s) = front ++ dropBlankEnd s := by
  have hne : ¬ (s.reverse.dropWhile isBlank).isEmpty := by
    rw [List.isEmpty_iff, List.dropWhile_eq_nil_iff]
    intro hall
    have hc' := hall c (List.mem_reverse.2 hc)
    simp [hblank] at hc'
  rw [dropBlankEnd, dropBlankEnd, List.reverse_append, List.dropWhile_append, if_neg hne,
    List.reverse_append, List.reverse_reverse]

theorem trim_eq_self_iff {s : String} : trim s = s ↔ strip s.toList = s.toList := by
  rw [trim, ← String.toList_inj, String.toList_ofList]

theorem trimEnd_eq_self_iff {s : String} :
    trimEnd s = s ↔ ∀ c, s.toList.getLast? = some c → isBlank c = false := by
  rw [trimEnd, ← String.toList_inj, String.toList_ofList, dropBlankEnd_eq_self_iff]

/-- Behind a text that starts with a character that is not blank, only the end of a text is
trimmed. -/
theorem trim_append {front s : String} {c d : Char} (hfront : front.toList.head? = some c)
    (hc : isBlank c = false) (hd : d ∈ s.toList) (hblank : isBlank d = false) :
    trim (front ++ s) = front ++ trimEnd s := by
  have hstart : dropBlank (front ++ s).toList = (front ++ s).toList := by
    rw [dropBlank_eq_self_iff]
    intro e he
    rw [String.toList_append, List.head?_append, hfront] at he
    obtain rfl : c = e := Option.some_inj.1 he
    exact hc
  rw [← String.toList_inj, trim, strip, hstart, String.toList_ofList, String.toList_append,
    dropBlankEnd_append hd hblank, String.toList_append, trimEnd, String.toList_ofList]

/-- Nothing is left of a blank text. -/
theorem trim_of_isBlankText {s : String} (h : isBlankText s) : trim s = "" := by
  have hall : ∀ c ∈ s.toList, isBlank c := List.all_eq_true.1 h
  rw [trim, strip, dropBlank, List.dropWhile_eq_nil_iff.2 hall]
  rfl

/-! ## Trimming twice -/

theorem dropBlank_dropBlank (s : List Char) : dropBlank (dropBlank s) = dropBlank s :=
  List.dropWhile_idempotent isBlank s

theorem strip_strip (s : List Char) : strip (strip s) = strip s := by
  have hback : dropBlankEnd (dropBlankEnd (dropBlank s)) = dropBlankEnd (dropBlank s) := by
    rw [dropBlankEnd, dropBlankEnd, List.reverse_reverse, List.dropWhile_idempotent]
  have hfront : dropBlank (dropBlankEnd (dropBlank s)) = dropBlankEnd (dropBlank s) := by
    rw [dropBlank_eq_self_iff]
    intro c hc
    -- What is left begins like the list without blanks at its front.
    obtain ⟨rest, hrest⟩ := dropBlankEnd_prefix (dropBlank s)
    refine dropBlank_eq_self_iff.1 (dropBlank_dropBlank s) c ?_
    rw [← hrest, List.head?_append, hc, Option.some_or]
  rw [strip, strip, hfront, hback]

theorem trim_trim (s : String) : trim (trim s) = trim s := by
  rw [trim_eq_self_iff, trim, String.toList_ofList, strip_strip]

/-- Only of a blank text nothing is left. -/
theorem trim_eq_empty_iff {s : String} : trim s = "" ↔ isBlankText s := by
  refine ⟨fun h => ?_, trim_of_isBlankText⟩
  have hstrip : dropBlankEnd (dropBlank s.toList) = [] := by
    rw [← String.toList_inj, trim, String.toList_ofList] at h
    exact h
  have hall : ∀ c ∈ dropBlank s.toList, isBlank c = true := List.rdropWhile_eq_nil_iff.1 hstrip
  have hfront := dropBlank_eq_self_iff.1 (dropBlank_dropBlank s.toList)
  rw [isBlankText, List.all_eq_true]
  cases hs : dropBlank s.toList with
  | nil => exact List.dropWhile_eq_nil_iff.1 hs
  | cons c rest =>
    -- A first character that is left is not blank.
    rw [hs] at hall hfront
    have hc := hall c List.mem_cons_self
    rw [hfront c rfl] at hc
    cases hc

/-! ## Texts with blanks between them -/

theorem intercalate_eq_empty_iff {parts : List String} (h : ∀ part ∈ parts, part ≠ "") :
    " ".intercalate parts = "" ↔ parts = [] := by
  cases parts with
  | nil => simp
  | cons part rest =>
    have hpart := h part List.mem_cons_self
    cases rest with
    | nil => simpa using hpart
    | cons next more => simp [String.intercalate_cons_cons]

/-- Trimmed texts with blanks between them have no blanks at the ends. -/
theorem trim_intercalate {parts : List String}
    (h : ∀ part ∈ parts, trim part = part ∧ part ≠ "") :
    trim (" ".intercalate parts) = " ".intercalate parts := by
  induction parts with
  | nil => rfl
  | cons part rest ih =>
    obtain ⟨⟨hpart, hne⟩, hrest⟩ := List.forall_mem_cons.1 h
    cases rest with
    | nil => rwa [String.intercalate_singleton]
    | cons next more =>
      have hmore := (intercalate_eq_empty_iff fun part hmem => (hrest part hmem).2).not.2
        (List.cons_ne_nil next more)
      have ih := ih hrest
      rw [trim_eq_self_iff, strip_eq_self_iff] at hpart ih ⊢
      rw [String.intercalate_cons_cons, String.toList_append, String.toList_append]
      constructor
      · intro c hc
        rw [List.append_assoc, List.head?_append_of_ne_nil _ (by simpa using hne)] at hc
        exact hpart.1 c hc
      · intro c hc
        rw [List.getLast?_append_of_ne_nil _ (by rwa [ne_eq, String.toList_eq_nil_iff])] at hc
        exact ih.2 c hc

end LintRun.Text
