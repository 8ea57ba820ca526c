import LintRun.Text.Blank

/-!
# Command lines

A command line is one text for the shell. It is built from parts, each of which is one word, several
words or nothing.

## Main definitions

* `Command.build` joins parts to a command line.
* `Command.quote` writes a text as one word.
-/

namespace LintRun.Command

/-- Joins parts with single spaces. Blanks at the ends of a part do not count, and a part that is
blank is left out. -/
def build (parts : List String) : String :=
  " ".intercalate ((parts.map Text.trim).filter (· ≠ ""))

/-- The written form of a character between double quotes: those that the shell would read as
something else have a backslash in front. -/
def escape (c : Char) : List Char :=
  if c = '"' ∨ c = '\\' ∨ c = '$' ∨ c = '`' then ['\\', c] else [c]

/-- Writes a text as one word, between double quotes. -/
def quote (arg : String) : String :=
  String.ofList ('"' :: arg.toList.flatMap escape ++ ['"'])

end LintRun.Command
