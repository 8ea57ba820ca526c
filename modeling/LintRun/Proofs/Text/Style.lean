import LintRun.Proofs.Text.Trim
import LintRun.Text.Style
import Mathlib.Data.List.Forall2

/-!
# Texts without their styles

A reader who deletes all control sequences from a text in a style is left with the text itself, if
it has no escape character of its own. The same holds of texts that are put together from such
texts.

## Main definitions

* `unstyled` deletes control sequences.
* `IsPlain` says that there is no escape character in a text.
* `IsStyled` relates a text with styles to the text without them.

## Main statements

* `isStyled_paint`: a text in a style.
* `IsStyled.append` and `isStyled_join`: texts behind each other.
-/

namespace LintRun.Text

/-- The characters that are left when every control sequence is deleted. A sequence begins with an
escape character and a bracket, and goes on to the next `m`. -/
def unstyled : List Char → List Char
  | '\x1b' :: '[' :: rest =>
    if 'm' ∈ rest then unstyled (rest.dropWhile (· ≠ 'm')).tail else '\x1b' :: '[' :: rest
  | c :: rest => c :: unstyled rest
  | [] => []
termination_by s => s.length
decreasing_by
  · have hlength := (List.dropWhile_suffix (l := rest) (· ≠ 'm')).length_le
    simp only [List.length_tail, List.length_cons]
    omega
  · simp

/-- No control sequence begins in a text. -/
def IsPlain (s : String) : Prop :=
  '\x1b' ∉ s.toList

instance (s : String) : Decidable (IsPlain s) :=
  inferInstanceAs (Decidable ('\x1b' ∉ s.toList))

/-- A text is `plain`, in some styles if styles are `shown`. -/
structure IsStyled (shown : Bool) (s plain : String) : Prop where
  /-- What is left of the text, whatever is behind it. -/
  unstyled_append : ∀ rest, unstyled (s.toList ++ rest) = plain.toList ++ unstyled rest
  eq_of_not_shown : shown = false → s = plain

/-! ## Control sequences -/

theorem unstyled_cons {c : Char} (hc : c ≠ '\x1b') (rest : List Char) :
    unstyled (c :: rest) = c :: unstyled rest := by
  rw [unstyled]
  simp [hc]

theorem unstyled_append_of_not_mem {front : List Char} (h : '\x1b' ∉ front) (rest : List Char) :
    unstyled (front ++ rest) = front ++ unstyled rest := by
  induction front with
  | nil => rfl
  | cons c front ih =>
    rw [List.mem_cons, not_or] at h
    rw [List.cons_append, unstyled_cons (Ne.symm h.1), ih h.2, List.cons_append]

theorem unstyled_sequence_append {codes : List String}
    (h : 'm' ∉ (";".intercalate codes).toList) (rest : List Char) :
    unstyled (Style.sequence codes ++ rest) = unstyled rest := by
  have hdrop : ((";".intercalate codes).toList ++ 'm' :: rest).dropWhile (· ≠ 'm') =
      'm' :: rest := by
    rw [List.dropWhile_append_of_pos fun c hc => decide_eq_true (ne_of_mem_of_not_mem hc h)]
    rfl
  have hsequence : Style.sequence codes ++ rest =
      '\x1b' :: '[' :: ((";".intercalate codes).toList ++ 'm' :: rest) := by
    simp [Style.sequence]
  rw [hsequence, unstyled, if_pos (by simp), hdrop, List.tail_cons]

theorem unstyled_open_append (style : Style) (rest : List Char) :
    unstyled (style.open ++ rest) = unstyled rest := by
  refine unstyled_sequence_append ?_ rest
  -- The numbers of a style have no letters.
  obtain ⟨bold, dimmed, _ | (_ | _ | _ | _)⟩ := style <;> cases bold <;> cases dimmed <;> decide

theorem unstyled_close_append (rest : List Char) :
    unstyled (Style.close ++ rest) = unstyled rest := by
  have hzero : 'm' ∉ (";".intercalate ["0"]).toList := by decide
  exact unstyled_sequence_append hzero rest

theorem reopen_of_not_mem {s : List Char} (h : '\x1b' ∉ s) (again : List Char) :
    Style.reopen again s = s := by
  induction s with
  | nil => rfl
  | cons c rest ih =>
    rw [List.mem_cons, not_or] at h
    rw [Style.reopen, ih h.2]
    rintro rest rfl
    exact absurd rfl h.1

/-! ## Plain texts -/

theorem isPlain_append_iff {s s' : String} : IsPlain (s ++ s') ↔ IsPlain s ∧ IsPlain s' := by
  rw [IsPlain, String.toList_append, List.mem_append, not_or]
  rfl

theorem isPlain_of_mem_lines {s line : String} (h : IsPlain s) (hline : line ∈ lines s) :
    IsPlain line := by
  obtain ⟨chars, hchars, rfl⟩ := List.mem_map.1 hline
  rw [IsPlain, String.toList_ofList]
  exact fun hmem => h (mem_of_mem_splitLines hchars hmem)

/-! ## Texts in styles -/

variable {shown : Bool}

theorem IsStyled.unstyled_eq {s plain : String} (h : IsStyled shown s plain) :
    unstyled s.toList = plain.toList := by
  have hnil := h.unstyled_append []
  rwa [List.append_nil, unstyled, List.append_nil] at hnil

theorem IsPlain.isStyled {s : String} (h : IsPlain s) : IsStyled shown s s :=
  ⟨unstyled_append_of_not_mem h, fun _ => rfl⟩

theorem IsStyled.append {s s' plain plain' : String} (h : IsStyled shown s plain)
    (h' : IsStyled shown s' plain') : IsStyled shown (s ++ s') (plain ++ plain') := by
  constructor
  · intro rest
    rw [String.toList_append, String.toList_append, List.append_assoc, List.append_assoc,
      h.unstyled_append, h'.unstyled_append]
  · intro hshown
    rw [h.eq_of_not_shown hshown, h'.eq_of_not_shown hshown]

/-- Texts behind each other, if each of them tells of an item. -/
theorem isStyled_join {α : Type} {tells : α → String → Prop} {items : List α}
    {texts : List String} (plain : α → String) (h : List.Forall₂ tells items texts)
    (htells : ∀ item text, tells item text → IsStyled shown text (plain item)) :
    IsStyled shown (String.join texts) (String.join (items.map plain)) := by
  induction h with
  | nil => exact IsPlain.isStyled (by decide)
  | cons hfirst _ ih =>
    rw [List.map_cons, String.join_cons, String.join_cons]
    exact (htells _ _ hfirst).append ih

theorem isStyled_paint (style : Style) {text : String} (h : IsPlain text) :
    IsStyled shown (style.paint shown text) text := by
  constructor
  · intro rest
    rw [Style.paint]
    split
    · rw [String.toList_ofList, reopen_of_not_mem h, List.append_assoc, List.append_assoc,
        unstyled_open_append, unstyled_append_of_not_mem h, unstyled_close_append]
    · exact unstyled_append_of_not_mem h rest
  · rintro rfl
    rfl

end LintRun.Text
