/-!
# Styled text

A terminal shows a text in a style if a control sequence opens the style in front of it and another
one closes all styles behind it.

## Main definitions

* `Style` is a colour, boldness and dimness.
* `Style.paint` writes a text in a style.

## Design notes

A text may hold the closing sequence itself. The style is then opened again behind it. The empty
text is never styled.
-/

namespace LintRun.Text

/-- A colour. -/
inductive Colour where
  | red
  | green
  | yellow
  | cyan
  deriving DecidableEq, Repr

/-- The number of a colour in a control sequence. -/
def Colour.code : Colour → String
  | red => "31"
  | green => "32"
  | yellow => "33"
  | cyan => "36"

/-- How a text is shown. -/
structure Style where
  /-- Whether the text is bold. -/
  bold : Bool := false
  /-- Whether the text is dim. -/
  dimmed : Bool := false
  /-- The colour, if the text has one. -/
  colour? : Option Colour := none
  deriving DecidableEq, Repr

namespace Style

/-- The control sequence with the given numbers. -/
def sequence (codes : List String) : List Char :=
  '\x1b' :: '[' :: (";".intercalate codes).toList ++ ['m']

/-- The control sequence that closes all styles. -/
def close : List Char := sequence ["0"]

/-- The control sequence that opens a style. -/
def «open» (style : Style) : List Char :=
  sequence ((if style.bold then ["1"] else []) ++ (if style.dimmed then ["2"] else [])
    ++ (style.colour?.map Colour.code).toList)

/-- Writes `again` behind every closing sequence of a text. -/
def reopen (again : List Char) : List Char → List Char
  | '\x1b' :: '[' :: '0' :: 'm' :: rest =>
    '\x1b' :: '[' :: '0' :: 'm' :: again ++ reopen again rest
  | c :: rest => c :: reopen again rest
  | [] => []

/-- Writes a text in a style, or plainly if styles are not shown. -/
def paint (style : Style) (shown : Bool) (text : String) : String :=
  if shown && text ≠ "" then
    String.ofList (style.open ++ reopen style.open text.toList ++ close)
  else text

end Style

/-- Bold and cyan. -/
def title : Style := { bold := true, colour? := some .cyan }

/-- Dim. -/
def dimmed : Style := { dimmed := true }

/-- Red. -/
def red : Style := { colour? := some .red }

/-- Green. -/
def green : Style := { colour? := some .green }

/-- Yellow. -/
def yellow : Style := { colour? := some .yellow }

/-- Red and bold. -/
def boldRed : Style := { bold := true, colour? := some .red }

/-- Green and bold. -/
def boldGreen : Style := { bold := true, colour? := some .green }

end LintRun.Text
