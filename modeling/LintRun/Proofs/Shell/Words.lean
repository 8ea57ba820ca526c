import LintRun.Shell.Words
import Mathlib.Data.List.Forall2

/-!
# Splitting a command line

A command line can be split in parts. What was read before a word has no say in how the word is
read, so the words of two texts with a blank between them are the words of the one and then those
of the other. A text is one word that stands for itself exactly if all its characters are inert.

## Main definitions

* `isInert` holds of the characters that stand for themselves in an open word.

## Main statements

* `words?_append_blank` and `words?_intercalate`: the words of texts with blanks between them.
* `words?_eq_self_iff`: the texts that stand for themselves.
-/

namespace LintRun.Shell

/-- Whether a character outside of quotes stands for itself, once a word is open. -/
def isInert (c : Char) : Bool :=
  c ≠ '\\' && c ≠ '"' && c ≠ '\'' && !isWordBlank c && !isActive c

/-! ## Reading in parts -/

namespace Splitting

variable {s s' : Splitting}

theorem read?_nil (s : Splitting) : s.read? [] = some s := rfl

theorem read?_cons (s : Splitting) (c : Char) (rest : List Char) :
    s.read? (c :: rest) = (s.step? c).bind (·.read? rest) := rfl

theorem read?_append (s : Splitting) (front rest : List Char) :
    s.read? (front ++ rest) = (s.read? front).bind (·.read? rest) :=
  List.foldlM_append

/-- The same place, with further words that have ended before. -/
def behind (front : List (List Char)) (s : Splitting) : Splitting :=
  { s with ended := front ++ s.ended }

/-- A step does not look at the words that have ended. -/
theorem step?_behind (front : List (List Char)) (s : Splitting) (c : Char) :
    (s.behind front).step? c = (s.step? c).map (behind front) := by
  obtain ⟨ended, word?, quotation⟩ := s
  cases quotation <;> simp only [step?, behind, goOn, enter, add, endWord] <;> split_ifs <;>
    simp_all [behind]

theorem read?_behind (front : List (List Char)) (line : List Char) (s : Splitting) :
    (s.behind front).read? line = (s.read? line).map (behind front) := by
  induction line generalizing s with
  | nil => rfl
  | cons c rest ih =>
    rw [read?_cons, read?_cons, step?_behind, Option.map_bind, Option.bind_map]
    exact congrArg _ (funext ih)

theorem words?_behind (front : List (List Char)) (s : Splitting) :
    (s.behind front).words? = s.words?.map (front ++ ·) := by
  by_cases h : s.quotation = .outside <;> simp [words?, behind, h]

theorem words?_eq_some_iff {words : List (List Char)} :
    s.words? = some words ↔ s.quotation = .outside ∧ s.ended ++ s.word?.toList = words := by
  simp [words?]

theorem step?_blank (h : s.quotation = .outside) : s.step? ' ' = some s.endWord := by
  simp [step?, h, isWordBlank]

end Splitting

theorem exists_of_words?_eq_some {line : List Char} {words : List (List Char)}
    (h : words? line = some words) : ∃ s, Splitting.read? {} line = some s ∧
      s.quotation = .outside ∧ s.ended ++ s.word?.toList = words := by
  obtain ⟨s, hs, hwords⟩ := Option.bind_eq_some_iff.1 h
  exact ⟨s, hs, Splitting.words?_eq_some_iff.1 hwords⟩

/-- Behind a text that falls into words and a blank, a line is split as if it stood alone. -/
theorem words?_append_blank {front : List Char} {words : List (List Char)}
    (h : words? front = some words) (rest : List Char) :
    words? (front ++ ' ' :: rest) = (words? rest).map (words ++ ·) := by
  obtain ⟨s, hs, hquotation, rfl⟩ := exists_of_words?_eq_some h
  have hend : s.endWord = Splitting.behind (s.ended ++ s.word?.toList) {} := by
    simp [Splitting.endWord, Splitting.behind, hquotation]
  calc words? (front ++ ' ' :: rest)
      = (s.endWord.read? rest).bind Splitting.words? := by
        rw [words?, Splitting.read?_append, hs, Option.bind_some, Splitting.read?_cons,
          Splitting.step?_blank hquotation, Option.bind_some]
    _ = (words? rest).map (s.ended ++ s.word?.toList ++ ·) := by
        rw [hend, Splitting.read?_behind, Option.bind_map, words?, Option.map_bind]
        exact congrArg _ (funext fun t => Splitting.words?_behind _ t)

/-- The words of texts with blanks between them are the words of each. -/
theorem words?_intercalate {parts : List (List Char)} {words : List (List (List Char))}
    (h : List.Forall₂ (fun part words => words? part = some words) parts words) :
    words? ([' '].intercalate parts) = some words.flatten := by
  induction h with
  | nil => rfl
  | @cons part first parts words hpart hparts ih =>
    cases parts with
    | nil =>
      cases hparts
      simpa using hpart
    | cons next parts =>
      rw [List.intercalate_cons_cons, List.append_assoc, List.singleton_append,
        words?_append_blank hpart, ih]
      rfl

/-! ## Texts -/

theorem splitWords?_eq_some_iff {line : String} {words : List String} :
    splitWords? line = some words ↔ words? line.toList = some (words.map String.toList) := by
  rw [splitWords?, Option.map_eq_some_iff]
  constructor
  · rintro ⟨w, hw, rfl⟩
    rw [hw, List.map_map]
    simp [Function.comp_def]
  · intro h
    refine ⟨_, h, ?_⟩
    simp [Function.comp_def]

theorem splitWords?_append_blank {front : String} {words : List String}
    (h : splitWords? front = some words) (rest : String) :
    splitWords? (front ++ " " ++ rest) = (splitWords? rest).map (words ++ ·) := by
  have hblank : " ".toList = [' '] := rfl
  rw [splitWords?_eq_some_iff] at h
  rw [splitWords?, splitWords?, String.toList_append, String.toList_append, hblank,
    List.append_assoc, List.singleton_append, words?_append_blank h]
  simp [Function.comp_def]

theorem splitWords?_intercalate {parts : List String} {words : List (List String)}
    (h : List.Forall₂ (fun part words => splitWords? part = some words) parts words) :
    splitWords? (" ".intercalate parts) = some words.flatten := by
  rw [splitWords?_eq_some_iff, String.toList_intercalate, List.map_flatten]
  refine words?_intercalate ?_
  rw [List.forall₂_map_left_iff, List.forall₂_map_right_iff]
  exact h.imp fun _ _ h => splitWords?_eq_some_iff.1 h

/-! ## Texts that stand for themselves -/

namespace Splitting

variable {s s' : Splitting} {c : Char} {line : List Char}

/-- An inert character stands for itself, unless it is active in front and opens a word. -/
theorem step?_of_isInert (h : s.quotation = .outside) (hc : isInert c) :
    s.step? c = if s.word?.isNone && isActiveInFront c then none else some (s.add c) := by
  simp only [isInert, Bool.and_eq_true, Bool.not_eq_true', decide_eq_true_eq] at hc
  obtain ⟨⟨⟨⟨hbackslash, hdouble⟩, hsingle⟩, hblank⟩, hactive⟩ := hc
  simp [step?, h, hbackslash, hdouble, hsingle, hblank, hactive]

theorem read?_of_isInert {word : List Char} (h : s.quotation = .outside)
    (hword : s.word? = some word) (hline : ∀ c ∈ line, isInert c) :
    s.read? line = some { s with word? := some (word ++ line) } := by
  induction line generalizing s word with
  | nil => simp [read?_nil, ← hword]
  | cons c rest ih =>
    have hc := hline c List.mem_cons_self
    have hadd : (s.add c).word? = some (word ++ [c]) := by simp [add, hword]
    rw [read?_cons, step?_of_isInert h hc, if_neg (by simp [hword]), Option.bind_some]
    refine (ih (s := s.add c) h hadd fun d hd => hline d (List.mem_cons_of_mem c hd)).trans ?_
    simp [add]

/-- The number of characters in the words so far. A backslash in double quotes may still become
one. -/
def weight (s : Splitting) : Nat :=
  s.ended.flatten.length + (s.word?.getD []).length + if s.quotation = .doubleEscaped then 1 else 0

theorem weight_eq (h : s.quotation = .outside) :
    s.weight = (s.ended ++ s.word?.toList).flatten.length := by
  cases hword : s.word? <;> simp [weight, h, hword]

/-- A character adds one character to the words at most. -/
theorem weight_le_of_step? (h : s.step? c = some s') : s'.weight ≤ s.weight + 1 := by
  obtain ⟨ended, word?, quotation⟩ := s
  cases quotation <;> simp only [step?] at h <;> split_ifs at h <;> cases h <;>
    cases word? <;> simp [weight, goOn, enter, add, endWord] <;> omega

/-- A character outside of quotes that is not inert adds none. -/
theorem weight_le_of_not_isInert (hquotation : s.quotation = .outside) (hc : ¬ isInert c)
    (h : s.step? c = some s') : s'.weight ≤ s.weight := by
  obtain ⟨ended, word?, quotation⟩ := s
  obtain rfl : quotation = .outside := hquotation
  simp only [step?] at h
  split_ifs at h with hbackslash hdouble hsingle hblank hactive
  · cases h; simp [weight, goOn]
  · cases h; cases word? <;> simp [weight, enter]
  · cases h; cases word? <;> simp [weight, enter]
  · cases h; cases word? <;> simp [weight, endWord]
  · simp_all [isInert]

theorem weight_le_of_read? (h : s.read? line = some s') :
    s'.weight ≤ s.weight + line.length := by
  -- The bounds of the steps add up.
  induction line generalizing s with
  | nil =>
    cases h
    exact Nat.le_refl _
  | cons c rest ih =>
    obtain ⟨t, ht, hrest⟩ := Option.bind_eq_some_iff.1 h
    have hstep := weight_le_of_step? ht
    have hread := ih hrest
    rw [List.length_cons]
    omega

/-- Every character is inert if the words hold all of them. -/
theorem isInert_of_weight (hquotation : s.quotation = .outside) (h : s.read? line = some s')
    (hweight : s.weight + line.length ≤ s'.weight) : ∀ c ∈ line, isInert c := by
  -- No later character makes up for one that adds nothing.
  induction line generalizing s with
  | nil => simp
  | cons c rest ih =>
    obtain ⟨t, ht, hrest⟩ := Option.bind_eq_some_iff.1 h
    have hread := weight_le_of_read? hrest
    rw [List.length_cons] at hweight
    by_cases hc : isInert c
    · rw [step?_of_isInert hquotation hc] at ht
      obtain rfl : s.add c = t := Option.some_inj.1 (Option.ite_none_left_eq_some.1 ht).2
      have hadd : (s.add c).weight = s.weight + 1 := by
        simp [weight, add, hquotation]
        omega
      refine List.forall_mem_cons.2 ⟨hc, ih (s := s.add c) hquotation hrest ?_⟩
      omega
    · have hstep := weight_le_of_not_isInert hquotation hc ht
      omega

end Splitting

theorem length_flatten_le_of_words? {line : List Char} {words : List (List Char)}
    (h : words? line = some words) : words.flatten.length ≤ line.length := by
  obtain ⟨s, hs, hquotation, rfl⟩ := exists_of_words?_eq_some h
  rw [← Splitting.weight_eq hquotation]
  simpa [Splitting.weight] using Splitting.weight_le_of_read? hs

/-- A text is one word that stands for itself exactly if all its characters are inert, and the
first of them is not active in front. -/
theorem words?_eq_self_iff {c : Char} {rest : List Char} :
    words? (c :: rest) = some [c :: rest] ↔
      isActiveInFront c = false ∧ ∀ d ∈ c :: rest, isInert d := by
  constructor
  · intro h
    obtain ⟨s, hs, hquotation, hwords⟩ := exists_of_words?_eq_some h
    have hline : ∀ d ∈ c :: rest, isInert d := by
      refine Splitting.isInert_of_weight rfl hs ?_
      rw [Splitting.weight_eq hquotation, hwords]
      simp [Splitting.weight]
    refine ⟨?_, hline⟩
    rw [Splitting.read?_cons, Splitting.step?_of_isInert rfl (hline c List.mem_cons_self)] at hs
    by_contra hfront
    rw [if_pos (by simpa using hfront)] at hs
    cases hs
  · rintro ⟨hfront, hline⟩
    obtain ⟨hc, hrest⟩ := List.forall_mem_cons.1 hline
    rw [words?, Splitting.read?_cons, Splitting.step?_of_isInert rfl hc, if_neg (by simp [hfront]),
      Option.bind_some, Splitting.read?_of_isInert rfl rfl hrest]
    rfl

/-- Whether a text stands for itself behind the first character of a word. -/
def isInertText (text : String) : Bool :=
  text.toList.all isInert

/-- A quoted dot at the end of a line is a word exactly if the line in front of it is complete. -/
theorem words?_append_quoted_dot_iff {front : List Char} {words : List (List Char)} :
    words? (front ++ [' ', '"', '.', '"']) = some (words ++ [['.']]) ↔
      words? front = some words := by
  constructor
  · intro h
    obtain ⟨t, ht, hquotation, hwords⟩ := exists_of_words?_eq_some h
    rw [Splitting.read?_append] at ht
    obtain ⟨s, hs, hst⟩ := Option.bind_eq_some_iff.1 ht
    rw [words?, hs, Option.bind_some, Splitting.words?_eq_some_iff]
    obtain ⟨ended, word?, quotation⟩ := s
    -- In quotes, the quotes of the dot end the quotation and open another one.
    cases quotation with
    | outside =>
      cases hst
      exact ⟨rfl, List.append_cancel_right hwords⟩
    | escaped =>
      cases hst
      have hlast := congrArg List.length (List.head_eq_of_cons_eq
        (List.append_inj_right' hwords rfl))
      simp [Splitting.enter, Splitting.add, Splitting.goOn] at hlast
    | double => cases hst; cases hquotation
    | doubleEscaped => cases hst; cases hquotation
    | single => cases hst; cases hquotation
  · intro h
    rw [words?_append_blank h]
    rfl

/-- A word in front of a quoted dot, of which the end may have been cut off, is that word exactly
if nothing was cut off and all its characters are inert. -/
theorem splitWords?_append_quoted_dot_iff {front word : String} (h : front.toList <+: word.toList)
    {c : Char} (hword : word.toList.head? = some c) (hc : isActiveInFront c = false) :
    splitWords? (front ++ " \".\"") = some [word, "."] ↔ front = word ∧ isInertText word := by
  have hdot : " \".\"".toList = [' ', '"', '.', '"'] := rfl
  have hinert : words? word.toList = some [word.toList] ↔ isInertText word := by
    obtain ⟨rest, hrest⟩ := List.head?_eq_some_iff.1 hword
    rw [isInertText, hrest, words?_eq_self_iff, List.all_eq_true]
    exact and_iff_right hc
  have hfront : words? (front.toList ++ [' ', '"', '.', '"']) = some ([word.toList] ++ [['.']]) ↔
      words? front.toList = some [word.toList] := words?_append_quoted_dot_iff
  rw [splitWords?_eq_some_iff, String.toList_append, hdot]
  refine hfront.trans ?_
  rw [← hinert]
  constructor
  · intro hwords
    -- The words have no more characters than the line, so that nothing was cut off.
    have hlength := length_flatten_le_of_words? hwords
    have heq := h.eq_of_length_le (by simpa using hlength)
    exact ⟨String.toList_inj.1 heq, heq ▸ hwords⟩
  · rintro ⟨rfl, hwords⟩
    exact hwords

end LintRun.Shell
