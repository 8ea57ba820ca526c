/-!
# Lines of a text

A newline ends a line, and one carriage return right before it belongs to the line end. The last
line need not be ended; a carriage return at its end is then part of it. A text that ends with a
newline has no further empty line, and the empty text has no lines.

## Main definitions

* `splitLines` gives the lines of a list of characters, `lines` those of a text.
-/

namespace LintRun.Text

/-- The lines of a list of characters, without their ends. -/
def splitLines : List Char → List (List Char)
  | [] => []
  | '\r' :: '\n' :: rest => [] :: splitLines rest
  | '\n' :: rest => [] :: splitLines rest
  | c :: rest =>
    match splitLines rest with
    | [] => [[c]]
    | line :: more => (c :: line) :: more

/-- The lines of a text, without their ends. -/
def lines (s : String) : List String :=
  (splitLines s.toList).map String.ofList

/-- Only the empty text has no lines. -/
theorem splitLines_eq_nil_iff {s : List Char} : splitLines s = [] ↔ s = [] := by
  refine ⟨fun h => ?_, fun h => h ▸ rfl⟩
  fun_cases splitLines s with
  | case1 => rfl
  | case2 => simp [splitLines] at h
  | case3 => simp [splitLines] at h
  | case4 c rest _ _ hnil => simp_all [splitLines]
  | case5 c rest _ _ line more hmore => simp_all [splitLines]

end LintRun.Text
