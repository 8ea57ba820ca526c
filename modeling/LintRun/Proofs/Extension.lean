import LintRun.Extension
import LintRun.Proofs.Text.Blank
import Mathlib.Data.List.TakeWhile

/-!
# Extensions in the forms that tools take

An extension without its dots is what is left of it. The regular expression for the paths of files
has one alternative for each extension, and an extension is found again in its alternative, whatever
characters it has.

## Main definitions

* `Extension.alternatives` reads the alternatives of a regular expression.

## Main statements

* `Extension.alternatives_intercalate_literal`: the alternatives are the texts they are for.
-/

namespace LintRun.Extension

theorem exists_toList_eq_append_bare (extension : String) :
    ∃ n, extension.toList = List.replicate n '.' ++ (bare extension).toList := by
  refine ⟨(extension.toList.takeWhile (· = '.')).length, ?_⟩
  have hdots : ∀ c ∈ extension.toList.takeWhile (· = '.'), c = '.' := fun c hc => by
    simpa using List.mem_takeWhile_imp hc
  rw [bare, String.toList_ofList, ← List.eq_replicate_of_mem hdots]
  exact (List.takeWhile_append_dropWhile).symm

/-- Nothing is left of an extension that has dots only. -/
theorem bare_eq_empty_iff {extension : String} :
    bare extension = "" ↔ ∀ c ∈ extension.toList, c = '.' := by
  rw [bare, ← String.toList_inj, String.toList_ofList]
  simp

/-! ## Extensions with one dot -/

theorem toList_dotted (extensions : List String) :
    (dotted extensions).toList =
      [','].intercalate (extensions.map fun e => '.' :: (bare e).toList) := by
  have hcomma : ",".toList = [','] := rfl
  rw [dotted, String.toList_intercalate, List.map_map, hcomma]
  refine congrArg _ (List.map_congr_left fun e _ => ?_)
  rw [Function.comp_apply, String.toList_append]
  rfl

theorem head?_dotted {extensions : List String} (h : extensions ≠ []) :
    (dotted extensions).toList.head? = some '.' := by
  rw [toList_dotted]
  obtain ⟨e, more, rfl⟩ := List.exists_cons_of_ne_nil h
  cases more <;> simp [List.intercalate_cons_cons]

/-- What holds of dots and commas holds of all characters of a list of extensions if it holds of
those of each. -/
theorem forall_mem_dotted_iff {p : Char → Prop} (hdot : p '.') (hcomma : p ',')
    {extensions : List String} :
    (∀ c ∈ (dotted extensions).toList, p c) ↔ ∀ e ∈ extensions, ∀ c ∈ e.toList, p c := by
  -- The dots that are left out and the dot that is put in front make no difference to `p`.
  have hbare : ∀ e : String, (∀ c ∈ '.' :: (bare e).toList, p c) ↔ ∀ c ∈ e.toList, p c := by
    intro e
    obtain ⟨n, hn⟩ := exists_toList_eq_append_bare e
    rw [hn, List.forall_mem_cons, List.forall_mem_append]
    refine and_congr_left fun _ => iff_of_true hdot fun c hc => ?_
    rwa [List.eq_of_mem_replicate hc]
  rw [toList_dotted]
  induction extensions with
  | nil => simp
  | cons e extensions ih =>
    cases extensions with
    | nil => simpa using hbare e
    | cons next extensions =>
      rw [List.forall_mem_cons]
      refine Iff.trans ?_ (and_congr (hbare e) ih)
      simp only [List.map_cons, List.intercalate_cons_cons, List.forall_mem_append,
        List.forall_mem_singleton, hcomma, and_true]

/-- A list of extensions ends as the last extension does. -/
theorem trimEnd_dotted_eq_self_iff {extensions : List String} {e : String} :
    Text.trimEnd (dotted (extensions ++ [e])) = dotted (extensions ++ [e]) ↔
      Text.trimEnd e = e := by
  have hfront : ∃ front, (dotted (extensions ++ [e])).toList =
      front ++ '.' :: (bare e).toList := by
    rw [toList_dotted, List.map_append, List.map_singleton]
    induction extensions with
    | nil => exact ⟨[], by simp⟩
    | cons first extensions ih =>
      obtain ⟨front, hfront⟩ := ih
      rw [List.map_cons, List.cons_append, List.intercalate_cons_of_ne_nil (by simp), hfront]
      exact ⟨_, (List.append_assoc _ _ _).symm⟩
  obtain ⟨front, hfront⟩ := hfront
  obtain ⟨n, hn⟩ := exists_toList_eq_append_bare e
  rw [Text.trimEnd_eq_self_iff, Text.trimEnd_eq_self_iff, hfront, hn]
  -- Both end with a dot if nothing is left of the extension, and with what is left of it otherwise.
  cases hbare : (bare e).toList with
  | nil =>
    have hdot : Text.isBlank '.' = false := by decide
    cases n <;> simp [hdot, List.getLast?_replicate]
  | cons c rest => simp

/-! ## Alternatives -/

/-- The alternatives of a regular expression that is a list of texts. A bar separates them unless a
backslash stands in front, and the backslashes are left out. -/
def alternatives : List Char → List (List Char)
  | [] => [[]]
  | '\\' :: c :: rest => (alternatives rest).modifyHead (c :: ·)
  | '|' :: rest => [] :: alternatives rest
  | c :: rest => (alternatives rest).modifyHead (c :: ·)

/-- The written form of a character that stands for itself. -/
def literalChar (c : Char) : List Char :=
  if metaChars.contains c then ['\\', c] else [c]

theorem toList_literal (text : String) : (literal text).toList = text.toList.flatMap literalChar :=
  String.toList_ofList

theorem alternatives_literalChar_append (c : Char) (rest : List Char) :
    alternatives (literalChar c ++ rest) = (alternatives rest).modifyHead (c :: ·) := by
  by_cases hc : metaChars.contains c
  · rw [literalChar, if_pos hc]
    rfl
  · -- Neither of the two characters that are read in another way is written without a backslash.
    have hbackslash : c ≠ '\\' := by
      rintro rfl
      exact hc (by decide +kernel)
    have hbar : c ≠ '|' := by
      rintro rfl
      exact hc (by decide +kernel)
    rw [literalChar, if_neg hc, List.singleton_append, alternatives]
    · exact fun _ _ h => absurd h hbackslash
    · exact hbar

/-- What stands behind a text goes on in its last alternative. -/
theorem alternatives_flatMap_literalChar_append (text rest : List Char) :
    alternatives (text.flatMap literalChar ++ rest) =
      (alternatives rest).modifyHead (text ++ ·) := by
  induction text with
  | nil => cases h : alternatives rest <;> simp [h]
  | cons c text ih =>
    rw [List.flatMap_cons, List.append_assoc, alternatives_literalChar_append, ih,
      List.modifyHead_modifyHead]
    rfl

/-- The alternatives of texts with bars between them are the texts. -/
theorem alternatives_intercalate_literal {texts : List String} (hne : texts ≠ []) :
    alternatives ("|".intercalate (texts.map literal)).toList = texts.map String.toList := by
  have hbar : "|".toList = ['|'] := rfl
  rw [String.toList_intercalate, List.map_map, hbar]
  induction texts with
  | nil => exact absurd rfl hne
  | cons text texts ih =>
    cases texts with
    | nil =>
      have hlast := alternatives_flatMap_literalChar_append text.toList []
      simpa [toList_literal, alternatives] using hlast
    | cons next texts =>
      have hmore := ih (List.cons_ne_nil next texts)
      rw [List.map_cons, List.map_cons] at hmore ⊢
      rw [List.intercalate_cons_cons, Function.comp_apply, toList_literal, List.append_assoc,
        alternatives_flatMap_literalChar_append, List.singleton_append, alternatives, hmore]
      simp

end LintRun.Extension
