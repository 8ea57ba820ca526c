import LintRun.Shell.Machine
import LintRun.Shell.Pattern

/-!
# Fields

When the parameters of a word are put in, the word falls into fields, and a field that is a pattern
becomes the paths of the files that it matches.

## Main definitions

* `Piece` is a piece of a word with its parameters put in.
* `fields` divides pieces into fields.
* `FileSystem.matches` gives the paths that a pattern matches.
-/

namespace LintRun.Shell

/-- A piece of a word with its parameters put in. -/
inductive Piece where
  /-- A letter. It may separate fields if it came with a parameter outside of quotes. -/
  | letter (letter : Letter) (separates : Bool)
  /-- A quoted text, which makes a field also if it is empty. -/
  | present
  /-- The end of a field. -/
  | cut
  deriving DecidableEq, Repr

/-- The pieces of a text. -/
def piecesOf (s : String) (quoted separates : Bool) : List Piece :=
  (if quoted then [.present] else []) ++
    s.toList.map fun c => .letter ⟨c, quoted⟩ (separates && !quoted)

/-- The letters of pieces that are not divided. -/
def lettersOf (pieces : List Piece) : List Letter :=
  pieces.filterMap fun
    | .letter letter _ => some letter
    | .present => none
    | .cut => some ⟨' ', true⟩

/-- The fields that were found and the one that is open, if one is. -/
structure Division where
  /-- The fields that were found, the latest first. -/
  found : List (List Letter) := []
  /-- The letters of the open field, the latest first. -/
  opened? : Option (List Letter) := none

namespace Division

/-- Ends the open field, if there is one. -/
def close (d : Division) : Division :=
  match d.opened? with
  | some letters => { found := letters.reverse :: d.found }
  | none => d

/-- Takes a piece. Separators other than blanks end a field also if it is empty. -/
def take (separators : List Char) (d : Division) (piece : Piece) : Division :=
  match piece with
  | .present => { d with opened? := some (d.opened?.getD []) }
  | .cut => d.close
  | .letter letter separates =>
    if separates && separators.contains letter.char then
      if letter.char.isWhitespace then d.close
      else { found := (d.opened?.getD []).reverse :: d.found }
    else { d with opened? := some (letter :: d.opened?.getD []) }

end Division

/-- Divides pieces into fields. -/
def fields (separators : List Char) (pieces : List Piece) : List (List Letter) :=
  (pieces.foldl (Division.take separators) {}).close.found.reverse

/-- Cuts a pattern at its slashes. -/
def cutPattern : List Letter → List (List Letter)
  | [] => [[]]
  | letter :: rest =>
    if letter.char = '/' then [] :: cutPattern rest
    else
      match cutPattern rest with
      | [] => [[letter]]
      | piece :: more => (letter :: piece) :: more

/-- The names in a directory in ascending order, with those of the directory itself and the one
above. -/
def names (fs : FileSystem) (path : String) : List String :=
  match fs.find ⟨if path = "" then "." else path⟩ with
  | .ok tree => ("." :: ".." :: tree.entries.map Prod.fst).mergeSort (· ≤ ·)
  | .error _ => []

/-- The paths that the pieces of a pattern match behind a path. -/
def matchesBehind (fs : FileSystem) (path : String) : List (List Letter) → List String
  | [] => [path]
  | [last] =>
    if last.any isGlob then
      let hidden := last.head?.any (·.char = '.')
      let fits name := isMatch last name.toList && (hidden || !name.startsWith ".")
      ((names fs path).filter fits).map (path ++ ·)
    else
      let whole := path ++ plain last
      if (fs.find ⟨whole⟩ { followsLink := false }).toOption.isSome then [whole] else []
  | piece :: rest =>
    if piece.any isGlob then
      let hidden := piece.head?.any (·.char = '.')
      let fits name := isMatch piece name.toList && (hidden || !name.startsWith ".") &&
        fs.isDirectory ⟨path ++ name⟩
      ((names fs path).filter fits).flatMap fun name =>
        matchesBehind fs (path ++ name ++ "/") rest
    else matchesBehind fs (path ++ plain piece ++ "/") rest

/-- The texts that a field stands for: the paths that match it if it is a pattern with a match, and
else the field itself. -/
def expandPattern (fs : FileSystem) (field : List Letter) : List String :=
  if field.any isGlob then
    match matchesBehind fs "" (cutPattern field) with
    | [] => [plain field]
    | paths => paths
  else [plain field]

end LintRun.Shell
