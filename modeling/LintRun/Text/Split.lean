/-!
# Splitting at a separator

`splitAt sep` cuts a list of characters at every `sep`. There is always one piece more than there
are separators.
-/

namespace LintRun.Text

/-- The pieces of a list of characters between the separators. -/
def splitAt (sep : Char) : List Char → List (List Char)
  | [] => [[]]
  | c :: rest =>
    if c = sep then [] :: splitAt sep rest
    else
      match splitAt sep rest with
      | [] => [[c]]
      | piece :: more => (c :: piece) :: more

/-- There is at least one piece. -/
theorem splitAt_ne_nil (sep : Char) (s : List Char) : splitAt sep s ≠ [] := by
  cases s with
  | nil => simp [splitAt]
  | cons c rest =>
    simp only [splitAt]
    split
    · simp
    · split <;> simp

/-- The pieces of a text between the separators. -/
def splitText (sep : Char) (s : String) : List String :=
  (splitAt sep s.toList).map String.ofList

end LintRun.Text
