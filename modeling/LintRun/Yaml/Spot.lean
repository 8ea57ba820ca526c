/-!
# Placed characters

The structure of a document depends on where its characters stand: on their columns, on the lines
that they share and on how far they are apart. `spots?` therefore places every character once, and
all later reading is on lists of `Spot`s. It refuses characters that no document may contain.

## Design notes

A carriage return, a newline, both together and the next-line character are the same line break
and become one newline. The line and the paragraph separator are line breaks that are kept.
-/

namespace LintRun.Yaml

/-- A character and where it stands. Lines, columns and indices count from zero. -/
structure Spot where
  /-- The character. -/
  char : Char
  /-- The number of lines in front. -/
  line : Nat
  /-- The number of characters in front in the same line. -/
  column : Nat
  /-- The number of characters in front. -/
  index : Nat
  deriving DecidableEq, Repr

/-- The byte order mark. -/
def byteOrderMark : Char := '\uFEFF'

/-- Whether a document may contain a character. -/
def isAllowed (c : Char) : Bool :=
  let n := c.toNat
  n == 0x9 || n == 0xA || n == 0xD || (0x20 ≤ n && n ≤ 0x7E) || n == 0x85 ||
    (0xA0 ≤ n && n ≤ 0xFFFD) || 0x10000 ≤ n

/-- Places characters, the first of them at the given place. -/
def place (line column index : Nat) : List Char → List Spot
  | [] => []
  | '\r' :: '\n' :: rest => ⟨'\n', line, column, index⟩ :: place (line + 1) 0 (index + 2) rest
  | c :: rest =>
    if c = '\n' ∨ c = '\r' ∨ c = '\u0085' then
      ⟨'\n', line, column, index⟩ :: place (line + 1) 0 (index + 1) rest
    else if c = '\u2028' ∨ c = '\u2029' then
      ⟨c, line, column, index⟩ :: place (line + 1) 0 (index + 1) rest
    else ⟨c, line, column, index⟩ :: place line (column + 1) (index + 1) rest

/-- The placed characters of a text, if all of them are allowed. -/
def spots? (text : String) : Option (List Spot) :=
  let s := text.toList
  if s.all isAllowed then some (place 0 0 0 s) else none

namespace Spot

/-- Whether the character breaks the line. -/
def isBreak (s : Spot) : Bool :=
  s.char == '\n' || s.char == '\u2028' || s.char == '\u2029'

/-- Whether the character is a space or a tab. -/
def isGap (s : Spot) : Bool :=
  s.char == ' ' || s.char == '\t'

/-- Whether the character is a space, a tab or a line break. -/
def isBlank (s : Spot) : Bool :=
  s.isGap || s.isBreak

/-- Whether the character may stand in the name of an anchor, a directive or a tag handle. -/
def isNameChar (s : Spot) : Bool :=
  s.char.isAlphanum || s.char == '_' || s.char == '-'

end Spot

/-- The characters without their places. -/
def chars (spots : List Spot) : List Char :=
  spots.map Spot.char

/-- Whether the text ends here or goes on with a blank character. -/
def endsWord : List Spot → Bool
  | [] => true
  | s :: _ => s.isBlank

/-- Whether the text goes on with one of the given characters. -/
def startsWith (set : List Char) : List Spot → Bool
  | [] => false
  | s :: _ => set.contains s.char

/-- Whether a line starts here with three times the character `c` and nothing else in the word. -/
def isMark (c : Char) : List Spot → Bool
  | s₁ :: s₂ :: s₃ :: rest =>
    s₁.column == 0 && s₁.char == c && s₂.char == c && s₃.char == c && endsWord rest
  | _ => false

/-- Whether a document starts or ends here with a mark. -/
def isDocumentMark (spots : List Spot) : Bool :=
  isMark '-' spots || isMark '.' spots

/-- The rest behind the spaces and tabs at the front. -/
def skipGaps (spots : List Spot) : List Spot :=
  spots.dropWhile Spot.isGap

/-- The rest behind the end of a line that may have blanks and a comment only. -/
def skipLineEnd? (spots : List Spot) : Option (List Spot) :=
  let rest := skipGaps spots
  let rest := if startsWith ['#'] rest then rest.dropWhile (!·.isBreak) else rest
  match rest with
  | [] => some []
  | s :: rest => if s.isBreak then some rest else none

end LintRun.Yaml
