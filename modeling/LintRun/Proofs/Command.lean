import LintRun.Command
import LintRun.Proofs.Shell.Words
import LintRun.Proofs.Text.Blank

/-!
# The words of built commands

A quoted text is one word for the shell, whatever is in it. The words of a command are those of its
parts, one part after the other.

## Main definitions

* `FallsInto` gives the words of a part of a command.

## Main statements

* `splitWords?_map_quote`: quoted texts with blanks between them are words.
* `splitWords?_build`: the words of a command.
-/

namespace LintRun.Command

open Shell

/-- The characters with a backslash in front are those that need one. -/
theorem escape_eq (c : Char) : escape c = if isEscapable c then ['\\', c] else [c] := by
  have hiff : (c = '"' ∨ c = '\\' ∨ c = '$' ∨ c = '`') ↔ isEscapable c := by
    simp only [isEscapable, Bool.or_eq_true, decide_eq_true_eq]
    tauto
  exact if_congr hiff rfl rfl

/-- Between double quotes, a character is read from its written form. -/
theorem read?_escape {s : Splitting} (h : s.quotation = .double) (c : Char) :
    s.read? (escape c) = some (s.add c) := by
  rw [escape_eq]
  by_cases hc : isEscapable c
  · -- The backslash takes the meaning from the character, and would join lines before a newline.
    have hnewline : c ≠ '\n' := by
      rintro rfl
      cases hc
    have hfirst : s.step? '\\' = some (s.goOn .doubleEscaped) := by simp [Splitting.step?, h]
    have hsecond : (s.goOn .doubleEscaped).step? c = some (s.add c) := by
      simp [Splitting.step?, Splitting.goOn, Splitting.add, h, hnewline, hc]
    rw [if_pos hc, Splitting.read?_cons, hfirst, Option.bind_some, Splitting.read?_cons, hsecond]
    rfl
  · have hstep : s.step? c = some (s.add c) := by
      simp only [isEscapable, Bool.or_eq_true, decide_eq_true_eq, not_or] at hc
      obtain ⟨⟨⟨hdollar, hbackquote⟩, hdouble⟩, hbackslash⟩ := hc
      simp [Splitting.step?, h, hdollar, hbackquote, hdouble, hbackslash]
    rw [if_neg hc, Splitting.read?_cons, hstep]
    rfl

theorem read?_flatMap_escape {s : Splitting} {word : List Char} (h : s.quotation = .double)
    (hword : s.word? = some word) (arg : List Char) :
    s.read? (arg.flatMap escape) = some { s with word? := some (word ++ arg) } := by
  induction arg generalizing s word with
  | nil => simp [Splitting.read?_nil, ← hword]
  | cons c rest ih =>
    have hadd : (s.add c).word? = some (word ++ [c]) := by simp [Splitting.add, hword]
    rw [List.flatMap_cons, Splitting.read?_append, read?_escape h, Option.bind_some]
    refine (ih (s := s.add c) h hadd).trans ?_
    simp [Splitting.add]

theorem splitWords?_quote (arg : String) : splitWords? (quote arg) = some [arg] := by
  rw [splitWords?_eq_some_iff, quote, String.toList_ofList, words?, List.cons_append,
    Splitting.read?_cons]
  have henter : Splitting.step? {} '"' = some (Splitting.enter {} .double) := rfl
  have hopen : (Splitting.enter {} .double).word? = some [] := rfl
  rw [henter, Option.bind_some, Splitting.read?_append, read?_flatMap_escape rfl hopen,
    Option.bind_some]
  rfl

/-- Quoted texts with blanks between them are words. -/
theorem splitWords?_map_quote (args : List String) :
    splitWords? (" ".intercalate (args.map quote)) = some args := by
  have hparts : List.Forall₂ (fun part words => splitWords? part = some words) (args.map quote)
      (args.map fun arg => [arg]) := by
    rw [List.forall₂_map_left_iff, List.forall₂_map_right_iff, List.forall₂_same]
    exact fun arg _ => splitWords?_quote arg
  rw [splitWords?_intercalate hparts, ← List.flatMap_def, List.flatMap_singleton']

theorem head?_quote (arg : String) : (quote arg).toList.head? = some '"' := by
  rw [quote, String.toList_ofList, List.cons_append, List.head?_cons]

theorem getLast?_quote (arg : String) : (quote arg).toList.getLast? = some '"' := by
  rw [quote, String.toList_ofList, List.getLast?_concat]

theorem trim_quote (arg : String) : Text.trim (quote arg) = quote arg := by
  rw [Text.trim_eq_self_iff, Text.strip_eq_self_iff, head?_quote, getLast?_quote]
  constructor <;> rintro c ⟨⟩ <;> decide

theorem trim_append_quote {front : String} {c : Char} (hfront : front.toList.head? = some c)
    (hc : Text.isBlank c = false) (arg : String) :
    Text.trim (front ++ quote arg) = front ++ quote arg := by
  have hend : Text.trimEnd (quote arg) = quote arg := by
    rw [Text.trimEnd_eq_self_iff, getLast?_quote]
    rintro c ⟨⟩
    decide
  rw [Text.trim_append hfront hc (List.mem_of_head? (head?_quote arg)) (by decide), hend]

/-! ## Parts -/

/-- The words that a part adds to a command, of which blanks at its ends are cut off. -/
def FallsInto (part : String) (words : List String) : Prop :=
  splitWords? (Text.trim part) = some words

theorem fallsInto_of_isBlankText {part : String} (h : Text.isBlankText part) :
    FallsInto part [] := by
  rw [FallsInto, Text.trim_of_isBlankText h]
  rfl

theorem fallsInto_quote (arg : String) : FallsInto (quote arg) [arg] := by
  rw [FallsInto, trim_quote, splitWords?_quote]

theorem fallsInto_map_quote (args : List String) :
    FallsInto (" ".intercalate (args.map quote)) args := by
  have htrim : Text.trim (" ".intercalate (args.map quote)) = " ".intercalate (args.map quote) := by
    refine Text.trim_intercalate (List.forall_mem_map.2 fun arg _ => ⟨trim_quote arg, ?_⟩)
    simp [quote]
  rw [FallsInto, htrim, splitWords?_map_quote]

theorem fallsInto_option {option : String} (hoption : splitWords? option = some [option])
    {c : Char} (hhead : option.toList.head? = some c) (hc : Text.isBlank c = false)
    (arg : String) : FallsInto (option ++ " " ++ quote arg) [option, arg] := by
  have hfront : (option ++ " ").toList.head? = some c := by
    rw [String.toList_append, List.head?_append, hhead, Option.some_or]
  have hjoin : option ++ " " ++ quote arg = " ".intercalate [option, quote arg] := by
    simp [String.intercalate_cons_cons]
  rw [FallsInto, trim_append_quote hfront hc, hjoin]
  exact splitWords?_intercalate (.cons hoption (.cons (splitWords?_quote arg) .nil))

/-- The words of a part come in front of those of the parts behind it. -/
theorem splitWords?_build_cons {part : String} {words : List String} (h : FallsInto part words)
    (rest : List String) :
    splitWords? (build (part :: rest)) = (splitWords? (build rest)).map (words ++ ·) := by
  unfold FallsInto at h
  by_cases hblank : Text.trim part = ""
  · -- A part that is left out has no words.
    rw [hblank] at h
    obtain rfl : [] = words := Option.some_inj.1 h
    simp [build, hblank]
  · rw [build, build, List.map_cons, List.filter_cons_of_pos (by simpa using hblank)]
    cases (rest.map Text.trim).filter (· ≠ "") with
    | nil =>
      rw [String.intercalate_singleton, h]
      change _ = some (words ++ [])
      rw [List.append_nil]
    | cons next more => rw [String.intercalate_cons_cons, splitWords?_append_blank h]

/-- The words of a command are those of its parts. -/
theorem splitWords?_build {parts : List String} {words : List (List String)}
    (h : List.Forall₂ FallsInto parts words) : splitWords? (build parts) = some words.flatten := by
  induction h with
  | nil => rfl
  | cons hpart _ ih =>
    rw [splitWords?_build_cons hpart, ih]
    rfl

end LintRun.Command
