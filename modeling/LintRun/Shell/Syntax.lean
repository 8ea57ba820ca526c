/-!
# Shell scripts

A script is a list of commands, and a command is made of words. A word is not yet a text: parameters
and the output of other commands are put in for some of its parts when the command runs.

## Main definitions

* `Shell.Part` is a part of a word, `Shell.Word` a word.
* `Shell.Command` is a command.
-/

namespace LintRun.Shell

/-- What is put in for a parameter. In the constructors with a flag, the flag says that an empty
parameter is treated as one that is not set. -/
inductive Change where
  /-- Its value. -/
  | value
  /-- The length of its value. -/
  | length
  /-- Its value, or else a word. -/
  | orElse (orEmpty : Bool)
  /-- Its value, or else a word that becomes its value. -/
  | orAssign (orEmpty : Bool)
  /-- Its value, or else the shell ends with a word as its message. -/
  | orFail (orEmpty : Bool)
  /-- A word if it has a value. -/
  | ifSet (orEmpty : Bool)
  /-- Its value without a pattern at the front, the longest or the shortest. -/
  | dropFront (longest : Bool)
  /-- Its value without a pattern at the back, the longest or the shortest. -/
  | dropBack (longest : Bool)
  deriving DecidableEq, Repr

/-- A part of a word. The flag says whether the part is quoted, so that it is not split. -/
inductive Part where
  /-- A text. -/
  | text (s : String) (quoted : Bool)
  /-- A parameter. The empty name stands for braces with something else between them. -/
  | parameter (name : String) (change : Change) (argument : List Part) (quoted : Bool)
  /-- The output of a script. -/
  | output (script : String) (quoted : Bool)
  /-- The value of a calculation. -/
  | calculation (expression : List Part) (quoted : Bool)

/-- A word. -/
abbrev Word := List Part

/-- What becomes of a stream of a command. -/
inductive Redirection where
  /-- It is read from a file. -/
  | input (stream : Nat) (file : Word)
  /-- It is written to a file, in place of the content or behind it. -/
  | output (stream : Nat) (file : Word) (appends : Bool)
  /-- It goes where another stream goes. -/
  | copy (stream : Nat) (source : Word)
  /-- It is read from a text. -/
  | document (stream : Nat) (text : Word)

/-- How a command goes on after another one. -/
inductive Junction where
  /-- Always. -/
  | andThen
  /-- If the first succeeded. -/
  | ifPassed
  /-- If the first failed. -/
  | ifFailed
  deriving DecidableEq, Repr

/-- A command. -/
inductive Command where
  /-- Nothing. -/
  | skip
  /-- A program or function with its arguments, on a line of the script. -/
  | simple (line : Nat) (assignments : List (String × Word)) (words : List Word)
      (redirections : List Redirection)
  /-- A command whose output is read by the next one. -/
  | pipe (first second : Command)
  /-- A command that succeeds if another one fails. -/
  | negate (command : Command)
  /-- A command after another one. -/
  | join (junction : Junction) (first second : Command)
  /-- A command that nobody waits for. -/
  | background (command : Command)
  /-- A command in a shell of its own. -/
  | subshell (command : Command)
  /-- A command with other streams. -/
  | redirect (command : Command) (redirections : List Redirection)
  /-- A command if another one succeeds, and else a third. -/
  | choose (condition passed failed : Command)
  /-- A command again and again while another one succeeds, or until it does. -/
  | loop (untilPassed : Bool) (condition body : Command)
  /-- A command for every word, or for every argument of the script. -/
  | forEach (name : String) (words? : Option (List Word)) (body : Command)
  /-- The command of the first branch with a pattern that matches a word. -/
  | select (subject : Word) (branches : List (List Word × Command))
  /-- The definition of a function. -/
  | define (name : String) (body : Command)
  deriving Inhabited

end LintRun.Shell
