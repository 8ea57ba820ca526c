import LintRun.Count
import LintRun.Finding
import LintRun.Path
import LintRun.Text.Blank
import LintRun.Text.Decimal
import LintRun.Text.Line
import LintRun.Text.Quoted
import LintRun.Text.Word

/-!
# Problem lines

Some tools print one problem on a line: the path, the line number, the column number and what is
wrong, with colons between them. They differ in what stands behind the place. A line that does
not have this form is no problem, but a problem whose line number is no count is an error.

## Main definitions

* `Form` is what stands behind the place: a rule code or a level, then the message.
* `ofChars?` reads a problem line in a form.
* `findings` reads the problems in an output.

## Design notes

The path may contain colons and numbers itself, so a line can be divided in more than one way. The
division with the shortest path counts, and what follows the path is then determined.
-/

namespace LintRun

/-- What stands behind the place in a problem line. -/
inductive ProblemLine.Form where
  /-- A rule code, a space and the message. -/
  | coded
  /-- A level, a colon, a space and the message. -/
  | levelled
  deriving DecidableEq, Repr

/-- The parts of a problem line. -/
structure ProblemLine where
  /-- The path. -/
  path : List Char
  /-- The digits of the line number. -/
  line : List Char
  /-- The message. A rule code stands in parentheses behind it. -/
  message : List Char
  deriving DecidableEq, Repr

namespace ProblemLine

/-- The levels in a problem line. -/
def levels : List (List Char) := ["warning".toList, "error".toList]

/-- The rest of `s` behind `front`, if `s` starts with it. -/
def behind? (front s : List Char) : Option (List Char) :=
  if front.isPrefixOf s then some (s.drop front.length) else none

/-- Reads the message behind a place. -/
def Form.message? (form : Form) (s : List Char) : Option (List Char) :=
  match form with
  | .coded =>
    match s.takeWhile Text.isWordChar, s.dropWhile Text.isWordChar with
    | code@(_ :: _), ' ' :: message => some (message ++ [' ', '('] ++ code ++ [')'])
    | _, _ => none
  | .levelled => levels.findSome? fun level => behind? (level ++ [':', ' ']) s

/-- Reads what stands behind the path: the line number and the message. -/
def place? (form : Form) : List Char → Option (List Char × List Char)
  | ':' :: s => do
    let (line, s) ← Text.digits? s
    let ':' :: s := s | none
    let (_, s) ← Text.digits? s
    let ':' :: ' ' :: s := s | none
    return (line, ← form.message? s)
  | _ => none

/-- Reads a problem line with the shortest path that is not empty. -/
def ofChars? (form : Form) : List Char → Option ProblemLine
  | [] => none
  | c :: rest =>
    match place? form rest with
    | some (line, message) => some ⟨[c], line, message⟩
    | none => (ofChars? form rest).map fun p => { p with path := c :: p.path }

/-- Reads a line of output. Blanks at its end do not count. -/
def ofLine? (form : Form) (line : String) : Option ProblemLine :=
  ofChars? form (Text.dropBlankEnd line.toList)

/-- The finding for a problem. -/
def finding (dir : Directory) (p : ProblemLine) (line : Nat) : Finding :=
  Finding.onLine (dir.relative (String.ofList p.path)) line (String.ofList p.message)

/-- The wording for a problem whose line number is no count. -/
def badNumber (line : String) (e : CountError) : String :=
  "line number in " ++ Text.quoted line ++ ": " ++ e.message

/-- The finding on a line of output, if it is a problem line. -/
def ofOutputLine (form : Form) (dir : Directory) (line : String) :
    Except String (Option Finding) :=
  match ofLine? form line with
  | none => .ok none
  | some p =>
    match Count.read p.line with
    | .ok number => .ok (some (p.finding dir number))
    | .error e => .error (badNumber line e)

/-- The findings on the given lines in order. The first problem whose line number is no count is
an error. -/
def ofLines (form : Form) (dir : Directory) : List String → Except String (List Finding)
  | [] => .ok []
  | line :: rest => do
    let found ← ofOutputLine form dir line
    return found.toList ++ (← ofLines form dir rest)

/-- The findings in an output. -/
def findings (form : Form) (dir : Directory) (output : String) : Except String (List Finding) :=
  ofLines form dir (Text.lines output)

end ProblemLine

end LintRun
