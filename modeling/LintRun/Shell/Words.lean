/-!
# Words of a command

A command line that needs no expansion falls into words by rules of its own: blanks separate words,
quotes and backslashes take the meaning from the characters behind them. Such a line means the same
to every shell, whatever its parameters and files are.

## Main definitions

* `Splitting` is a command line that is split up to some place, and `Splitting.step?` reads one
  more character.
* `words?` and `splitWords?` give the words of a command line, if it needs no expansion and is one
  command.

## Design notes

A backslash is a state of its own, so that a line can be read in parts wherever it is cut. The word
that is open is missing between words, since an empty word can only come from quotes.
-/

namespace LintRun.Shell

/-- Whether a character separates words. -/
def isWordBlank (c : Char) : Bool :=
  c = ' ' || c = '\t'

/-- Whether a character outside of quotes starts an expansion or ends the command, wherever it
stands. -/
def isActive (c : Char) : Bool :=
  ['$', '`', ';', '&', '|', '<', '>', '(', ')', '\n', '*', '?', '['].contains c

/-- Whether a character outside of quotes stands for something else in front of a word: for a
directory, or for a comment. -/
def isActiveInFront (c : Char) : Bool :=
  c = '~' || c = '#'

/-- Whether a backslash in double quotes takes the meaning from a character. -/
def isEscapable (c : Char) : Bool :=
  c = '$' || c = '`' || c = '"' || c = '\\'

/-- What the next character of a command line is read in. -/
inductive Quotation where
  /-- No quotes. -/
  | outside
  /-- No quotes, behind a backslash. -/
  | escaped
  /-- Double quotes. -/
  | double
  /-- Double quotes, behind a backslash. -/
  | doubleEscaped
  /-- Single quotes. -/
  | single
  deriving DecidableEq, Repr

/-- A command line that is split up to some place. -/
structure Splitting where
  /-- The words that have ended. -/
  ended : List (List Char) := []
  /-- The word that is open. -/
  word? : Option (List Char) := none
  /-- What the next character is read in. -/
  quotation : Quotation := .outside
  deriving DecidableEq, Repr

namespace Splitting

/-- Adds a character to the word that is open, or opens a word with it. -/
def add (s : Splitting) (c : Char) : Splitting :=
  { s with word? := some (s.word?.getD [] ++ [c]) }

/-- Goes on in some quotation. -/
def goOn (s : Splitting) (quotation : Quotation) : Splitting :=
  { s with quotation }

/-- Enters a quotation, which opens a word even if it stays empty. -/
def enter (s : Splitting) (quotation : Quotation) : Splitting :=
  { s with word? := some (s.word?.getD []), quotation }

/-- Ends the word that is open, if there is one. -/
def endWord (s : Splitting) : Splitting :=
  { s with ended := s.ended ++ s.word?.toList, word? := none }

/-- Reads one character. There is nothing to go on with if the character is active. A backslash
in front of a newline joins two lines. -/
def step? (s : Splitting) (c : Char) : Option Splitting :=
  match s.quotation with
  | .outside =>
    if c = '\\' then some (s.goOn .escaped)
    else if c = '"' then some (s.enter .double)
    else if c = '\'' then some (s.enter .single)
    else if isWordBlank c then some s.endWord
    else if isActive c || (s.word?.isNone && isActiveInFront c) then none
    else some (s.add c)
  | .escaped =>
    if c = '\n' then some (s.goOn .outside) else some ((s.add c).goOn .outside)
  | .double =>
    if c = '"' then some (s.goOn .outside)
    else if c = '\\' then some (s.goOn .doubleEscaped)
    else if c = '$' || c = '`' then none
    else some (s.add c)
  | .doubleEscaped =>
    if c = '\n' then some (s.goOn .double)
    else if isEscapable c then some ((s.add c).goOn .double)
    else some (((s.add '\\').add c).goOn .double)
  | .single =>
    if c = '\'' then some (s.goOn .outside) else some (s.add c)

/-- Reads some characters. -/
def read? (s : Splitting) (line : List Char) : Option Splitting :=
  line.foldlM step? s

/-- The words of a line that was read to its end. There are none if a quotation is left open. -/
def words? (s : Splitting) : Option (List (List Char)) :=
  if s.quotation = .outside then some (s.ended ++ s.word?.toList) else none

end Splitting

/-- The words of a command line, if it needs no expansion and is one command. -/
def words? (line : List Char) : Option (List (List Char)) :=
  (Splitting.read? {} line).bind Splitting.words?

/-- The words of a command line as texts. -/
def splitWords? (line : String) : Option (List String) :=
  (words? line.toList).map (·.map String.ofList)

end LintRun.Shell
