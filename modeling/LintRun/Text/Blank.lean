import LintRun.Text.Ranges

/-!
# Blank characters and trimming

`isBlank` is the property White_Space. It holds of the ASCII blanks, of the next-line character,
of the no-break and the typographic spaces, and of the line and paragraph separators. It does not
hold of the zero-width space, of the byte order mark, or of the information separators
U+001C to U+001F.

## Main definitions

* `isBlank` is the property.
* `dropBlank`, `dropBlankEnd` and `strip` remove blank characters from the front, the back and
  both ends of a list of characters. `trimEnd` and `trim` do it for texts.
* `isBlankText` says that a text has blank characters only.
-/

namespace LintRun.Text

/-- The ranges of the property White_Space. -/
def blankRanges : List (Nat × Nat) :=
  [(0x9, 0xD), (0x20, 0x20), (0x85, 0x85), (0xA0, 0xA0), (0x1680, 0x1680), (0x2000, 0x200A),
   (0x2028, 0x2029), (0x202F, 0x202F), (0x205F, 0x205F), (0x3000, 0x3000)]

/-- Whether `c` has the property White_Space. -/
def isBlank (c : Char) : Bool :=
  inRanges blankRanges c

/-- Removes the blank characters at the front. -/
def dropBlank (s : List Char) : List Char :=
  s.dropWhile isBlank

/-- Removes the blank characters at the back. -/
def dropBlankEnd (s : List Char) : List Char :=
  (s.reverse.dropWhile isBlank).reverse

/-- Removes the blank characters at both ends. -/
def strip (s : List Char) : List Char :=
  dropBlankEnd (dropBlank s)

/-- Removes the blank characters at the end of a text. -/
def trimEnd (s : String) : String :=
  String.ofList (dropBlankEnd s.toList)

/-- Removes the blank characters at both ends of a text. -/
def trim (s : String) : String :=
  String.ofList (strip s.toList)

/-- Whether a text has blank characters only. The empty text is blank. -/
def isBlankText (s : String) : Bool :=
  s.toList.all isBlank

end LintRun.Text
